import ClientFacade.Command.Basic
import ClientFacade.Command.Panel
import ClientFacade.Store.Basic

/-!
# Arguments

The arguments name a command, then come its switches and files in any order. A value follows its
switch, or is attached to it: behind an equals sign to a long name, immediately to a letter. What
follows two dashes are files. Of a switch that is given several times the last value counts. Values
are checked in the order in which the switches first appear, the files behind them.
-/

namespace ClientFacade.Command

inductive Role
  | source
  | config
  | output
  deriving DecidableEq, Repr

def Role.hint : Role → Text
  | .source => "'[FILES]...'"
  | .config => "'--config' / '-c' (env var: 'None')"
  | .output => "'--output' / '-o' (env var: 'None')"

inductive Misuse
  | noCommand
  | unknownCommand (text : Text)
  | unknownSwitch (text : Text)
  | missingValue (switch : Text)
  | unexpectedValue (switch : Text)
  | missingFile (role : Role) (written : Text)
  | directory (role : Role) (written : Text)
  | extra (arguments : List Text)
  deriving DecidableEq, Repr

def Misuse.message : Misuse → Text
  | .noCommand => "Missing command."
  | .unknownCommand text => "No such command " ++ text.quoted ++ "."
  | .unknownSwitch text => "No such option: " ++ text
  | .missingValue switch => "Option " ++ switch.quoted ++ " requires an argument."
  | .unexpectedValue switch => "Option " ++ switch.quoted ++ " does not take a value."
  | .missingFile role written =>
    "Invalid value for " ++ role.hint ++ ": File " ++ written.quoted ++ " does not exist."
  | .directory role written =>
    "Invalid value for " ++ role.hint ++ ": File " ++ written.quoted ++ " is a directory."
  | .extra [argument] => "Got unexpected extra argument (" ++ argument ++ ")"
  | .extra arguments => "Got unexpected extra arguments (" ++ Text.join [' '] arguments ++ ")"

/-- Whether the usage is shown with a message. A switch without its value is enough of a hint. -/
def Misuse.showsUsage : Misuse → Bool
  | .missingValue _ | .unexpectedValue _ => false
  | _ => true

/-- A misuse of a command, or of the program before a command is known. -/
structure UsageError where
  command : Option Command
  misuse : Misuse
  deriving DecidableEq, Repr

def usage (command : Option Command) : List Text :=
  let (start, arguments) : Text × Text :=
    match command with
    | none => (program, " [OPTIONS] COMMAND [ARGS]...")
    | some command =>
      (program ++ " " ++ command.name,
        if command.takesFiles then " [OPTIONS] [FILES]..." else " [OPTIONS]")
  ["Usage: " ++ start ++ arguments, "Try '" ++ start ++ " --help' for help."]

def UsageError.usage (error : UsageError) : List Text :=
  if error.misuse.showsUsage then Command.usage error.command else []

def UsageError.panel (error : UsageError) : Panel := .ofText "Error" error.misuse.message

def isSwitchLike : Text → Bool
  | '-' :: _ :: _ => true
  | _ => false

def dashes : Text := ['-', '-']

/-- The switch that is written in an argument and unknown: a long name, or a dash and a letter. -/
def unknown (argument : Text) : Misuse :=
  if dashes.isPrefixOf argument then .unknownSwitch (argument.takeWhile (· ≠ '='))
  else .unknownSwitch (argument.take 2)

structure Found where
  switch : Switch
  written : Text
  value : Option Text

def find (command : Command) (argument : Text) : Except Misuse Found :=
  let written := argument.takeWhile (· ≠ '=')
  match command.switchOfName? written with
  | some switch =>
    let value := (Text.breakAt? '=' argument).map (·.2)
    if value.isSome && !switch.takesValue then .error (.unexpectedValue written)
    else .ok ⟨switch, written, value⟩
  | none =>
    match argument with
    | _ :: letter :: rest =>
      match if dashes.isPrefixOf argument then none else command.switchOfLetter? letter with
      | some switch => .ok ⟨switch, ['-', letter], if rest = [] then none else some rest⟩
      | none => .error (unknown argument)
    | _ => .error (unknown argument)

structure Arguments where
  given : List (Switch × Text)
  others : List Text

namespace Arguments

def give (switch : Switch) (value : Text) (arguments : Arguments) : Arguments :=
  { arguments with given := (switch, value) :: arguments.given }

def addOther (argument : Text) (arguments : Arguments) : Arguments :=
  { arguments with others := argument :: arguments.others }

def read (command : Command) : List Text → Except Misuse Arguments
  | [] => .ok ⟨[], []⟩
  | argument :: rest =>
    if argument = dashes then .ok ⟨[], rest⟩
    else if !isSwitchLike argument then (read command rest).map (addOther argument)
    else
      match command.find argument with
      | .error misuse => .error misuse
      | .ok ⟨switch, _, some value⟩ => (read command rest).map (give switch value)
      | .ok ⟨switch, written, none⟩ =>
        if switch.takesValue then
          match rest with
          | [] => .error (.missingValue written)
          | value :: rest => (read command rest).map (give switch value)
        else (read command rest).map (give switch [])

def value? (arguments : Arguments) (switch : Switch) : Option Text :=
  arguments.given.reverse.lookup switch

/-- The switches in the order of their first appearance. -/
def order (arguments : Arguments) : List Switch :=
  (arguments.given.map (·.1)).foldl
    (fun order switch => if order.elem switch then order else order ++ [switch]) []

end Arguments

/-- Whether a written path leads to a file. An output file need not exist. -/
def checkPath (store : Store) (role : Role) (written : Text) : Except Misuse Unit :=
  match store.entryAt? written with
  | none => if role = .output then .ok () else .error (.missingFile role written)
  | some .directory => .error (.directory role written)
  | some (.file _) => .ok ()

def checkSwitch (store : Store) (switch : Switch) (value : Text) : Except Misuse Unit :=
  match switch with
  | .config => checkPath store .config value
  | .output => checkPath store .output value
  | _ => .ok ()

namespace Arguments

def checkSwitches (store : Store) (arguments : Arguments) : List Switch → Except Misuse Unit
  | [] => .ok ()
  | switch :: rest => do
    checkSwitch store switch ((arguments.value? switch).getD [])
    arguments.checkSwitches store rest

def checkSources (store : Store) : List Text → Except Misuse Unit
  | [] => .ok ()
  | written :: rest => do
    checkPath store .source written
    checkSources store rest

def check (command : Command) (store : Store) (arguments : Arguments) : Except Misuse Unit := do
  arguments.checkSwitches store arguments.order
  if command.takesFiles then checkSources store arguments.others
  else if arguments.others = [] then .ok ()
  else .error (.extra arguments.others)

end Arguments

structure Call where
  command : Command
  files : List Path
  config : Option Path
  output : Option Path
  strict : Bool
  level : Text
  deriving DecidableEq, Repr

def defaultLevel : Text := "INFO"

def Arguments.call (command : Command) (arguments : Arguments) : Call where
  command := command
  files := arguments.others.map Path.ofText
  config := (arguments.value? .config).map Path.ofText
  output := (arguments.value? .output).map Path.ofText
  strict := (arguments.value? .strict).isSome
  level := (arguments.value? .logLevel).getD defaultLevel

def Call.ofArguments (store : Store) (command : Command) (arguments : List Text) :
    Except Misuse Call := do
  let found ← Arguments.read command arguments
  found.check command store
  return found.call command

/-- The command of a name, which may not be written like a switch. -/
def choose (text : Text) : Except Misuse Command :=
  match ofName? text with
  | some command => .ok command
  | none =>
    if isSwitchLike text && text ≠ dashes then .error (unknown text)
    else .error (.unknownCommand text)

def Call.read (store : Store) (arguments : List Text) : Except UsageError Call :=
  match if arguments.head? = some dashes then arguments.drop 1 else arguments with
  | [] => .error ⟨none, .noCommand⟩
  | text :: rest =>
    match choose text with
    | .error misuse => .error ⟨none, misuse⟩
    | .ok command =>
      (Call.ofArguments store command rest).mapError fun misuse => ⟨some command, misuse⟩

end ClientFacade.Command
