import ClientFacade.Text.Basic

/-!
# Commands

The program has three commands. Each of them takes some of the switches, and two of them take files.
-/

namespace ClientFacade

inductive Command
  | generate
  | extract
  | showConfig
  deriving DecidableEq, Repr

inductive Switch
  | config
  | output
  | strict
  | logLevel
  deriving DecidableEq, Repr

namespace Switch

def all : List Switch := [config, output, strict, logLevel]

def longName : Switch → Text
  | .config => "--config"
  | .output => "--output"
  | .strict => "--strict-identifiers"
  | .logLevel => "--log-level"

def letter? : Switch → Option Char
  | .config => some 'c'
  | .output => some 'o'
  | _ => none

def takesValue (switch : Switch) : Bool := switch ≠ .strict

end Switch

namespace Command

def program : Text := "client-aggregator"

def all : List Command := [generate, extract, showConfig]

def name : Command → Text
  | .generate => "generate"
  | .extract => "extract"
  | .showConfig => "show-config"

/-- What is said when the command fails. -/
def title : Command → Text
  | .generate => "Aggregator generation failed"
  | .extract => "Extraction failed"
  | .showConfig => "Configuration loading failed"

def ofName? (text : Text) : Option Command := all.find? (·.name = text)

def switches : Command → List Switch
  | .generate => Switch.all
  | _ => [.config, .logLevel]

def takesFiles (command : Command) : Bool := command ≠ .showConfig

def switchOfName? (command : Command) (text : Text) : Option Switch :=
  command.switches.find? (·.longName = text)

def switchOfLetter? (command : Command) (letter : Char) : Option Switch :=
  command.switches.find? (·.letter? = some letter)

end Command

end ClientFacade
