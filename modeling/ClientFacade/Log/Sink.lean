import ClientFacade.Log.Format

/-!
# Loggers and handlers

Loggers form a tree by their dotted names, with one root above all. A logger without a level of its
own has that of the next one above it that has one. A record that passes the level of its logger is
offered to the handlers of that logger and of those above it, until one of them keeps its records
to itself. A handler writes what passes its own level. Where there is no handler at all, warnings
and worse are written as bare messages.
-/

namespace ClientFacade.Log

inductive Target
  | standardError
  | standardOutput
  | nowhere
  deriving DecidableEq, Repr

structure Handler where
  level : Level
  target : Target
  format : Format
  deriving DecidableEq, Repr

structure Logger where
  level : Level
  handlers : List Handler
  /-- Whether records go on to the loggers above. -/
  propagates : Bool
  deriving DecidableEq, Repr

/-- A logger that leaves everything to those above it. -/
def Logger.fresh : Logger := ⟨.notSet, [], true⟩

structure Loggers where
  root : Logger
  named : List (Text × Logger)

namespace Loggers

def initial : Loggers := ⟨⟨.warning, [], true⟩, []⟩

def isRoot (name : Text) : Bool := name = [] || name = "root".toList

def below (loggers : Loggers) (name : Text) : Logger :=
  (loggers.named.lookup name).getD .fresh

def get (loggers : Loggers) (name : Text) : Logger :=
  if isRoot name then loggers.root else loggers.below name

def setIn (name : Text) (logger : Logger) : List (Text × Logger) → List (Text × Logger)
  | [] => [(name, logger)]
  | (other, old) :: rest =>
    if other = name then (name, logger) :: rest else (other, old) :: setIn name logger rest

def set (loggers : Loggers) (name : Text) (logger : Logger) : Loggers :=
  if isRoot name then { loggers with root := logger }
  else { loggers with named := setIn name logger loggers.named }

/-- The names of a logger and of those above it, nearest first. -/
def lineage (name : Text) : List Text :=
  let parts := name.pieces '.'
  ((List.range parts.length).map fun n => Text.join ['.'] (parts.take (n + 1))).reverse

def chain (loggers : Loggers) (name : Text) : List Logger :=
  if isRoot name then [loggers.root] else (lineage name).map loggers.below ++ [loggers.root]

/-- The level that decides which records a logger takes. -/
def effectiveLevel (loggers : Loggers) (name : Text) : Level :=
  match (loggers.chain name).find? (·.level ≠ .notSet) with
  | some logger => logger.level
  | none => .notSet

def reached : List Logger → List Logger
  | [] => []
  | logger :: above => logger :: (if logger.propagates then reached above else [])

def handlers (loggers : Loggers) (name : Text) : List Handler :=
  (reached (loggers.chain name)).flatMap (·.handlers)

def written (record : Record) (handler : Handler) : Text :=
  if handler.target = .standardError ∧ handler.level.severity ≤ record.level.severity then
    handler.format.render record ++ ['\n']
  else []

def emit (loggers : Loggers) (record : Record) : Text :=
  if record.level.severity < (loggers.effectiveLevel record.logger).severity then []
  else
    match loggers.handlers record.logger with
    | [] =>
      if Level.warning.severity ≤ record.level.severity then record.message ++ ['\n'] else []
    | handlers => handlers.flatMap (written record)

end Loggers

end ClientFacade.Log
