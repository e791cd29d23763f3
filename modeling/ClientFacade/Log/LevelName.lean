import ClientFacade.Log.Record

/-!
# Names of levels

Eight names stand for levels, two of them twice. A level that is asked for may be written in any
case. The level of a handler is looked up as it is written, in the same register that holds the
logging functions and some other entries, and a name that the register does not have counts as INFO.
-/

namespace ClientFacade.Level

def names : List (Text × Level) :=
  [("CRITICAL", critical), ("FATAL", critical), ("ERROR", error), ("WARNING", warning),
   ("WARN", warning), ("INFO", info), ("DEBUG", debug), ("NOTSET", notSet)]

def ofName? (name : Text) : Option Level := names.lookup name

/-- The capitals of a letter, as far as they occur in the names of the register. -/
def capital (c : Char) : Text :=
  if c = 'ı' then ['I']
  else if c = 'ſ' then ['S']
  else if c = 'ﬅ' ∨ c = 'ﬆ' then ['S', 'T']
  else [c.toUpper]

def capitals (name : Text) : Text := name.flatMap capital

inductive Registered
  | level (level : Level)
  /-- An entry that is no number, by the name of its type. -/
  | other (type : Text)
  deriving DecidableEq, Repr

def functionNames : List Text :=
  ["debug", "info", "warning", "warn", "error", "critical", "fatal", "exception", "log", "disable",
   "shutdown"]

/-- The entries of the register that are no levels but could be taken for one. -/
def otherNames : List (Text × Text) :=
  ("BASIC_FORMAT", "str") :: ("_STYLES", "dict") :: ("root", "RootLogger") ::
    functionNames.map fun name => (name, "function")

def registered (name : Text) : Registered :=
  match ofName? name with
  | some level => .level level
  | none =>
    match otherNames.lookup name with
    | some type => .other type
    | none => .level info

end ClientFacade.Level
