import ClientFacade.Command.Panel
import ClientFacade.Log.Record

/-!
# Failures of commands

What stops a command is a failure of its own, or the fault of something that it uses, from which a
failure is made that names the command. A failure is recorded as an error and shown in a panel.
-/

namespace ClientFacade.Command

/-- Why a command failed. `κ` is the type of causes. -/
structure Failure (κ : Type) where
  text : Text
  command : Option Text
  cause : Option κ

inductive Stop (κ : Type)
  | failed (failure : Failure κ)
  | fault (text : Text) (cause : κ)

variable {κ : Type}

/-- What is said about a failure. The command is named if it has a name. -/
def Failure.message (failure : Failure κ) : Text :=
  match failure.command with
  | some (c :: rest) => "CLI command '" ++ (c :: rest) ++ "' failed: " ++ failure.text
  | _ => failure.text

def Stop.toFailure (command : Text) : Stop κ → Failure κ
  | .failed failure => failure
  | .fault text cause => ⟨text, some command, some cause⟩

def Failure.report (title : Text) (failure : Failure κ) : Record :=
  .of .errors .error (title ++ ": " ++ failure.message)

def Failure.panel (title : Text) (failure : Failure κ) : Except Markup.Fault Panel :=
  Panel.ofMarkup ("❌ " ++ title) (Markup.styled "red" (Markup.escape failure.message))

end ClientFacade.Command
