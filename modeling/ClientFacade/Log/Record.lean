import ClientFacade.Text.Basic

/-!
# Log records

A record is a message with its severity and the logger it goes to. Every part of the library has a
logger of its own below the common one.
-/

namespace ClientFacade

/-- A severity. Six levels have names, the others are named by their number. -/
structure Level where
  severity : Int
  deriving DecidableEq, Repr

namespace Level

def critical : Level := ⟨50⟩
def error : Level := ⟨40⟩
def warning : Level := ⟨30⟩
def info : Level := ⟨20⟩
def debug : Level := ⟨10⟩
def notSet : Level := ⟨0⟩

def named : List (Level × Text) :=
  [(critical, "CRITICAL"), (error, "ERROR"), (warning, "WARNING"), (info, "INFO"),
   (debug, "DEBUG"), (notSet, "NOTSET")]

def name (level : Level) : Text :=
  match named.lookup level with
  | some name => name
  | none => "Level " ++ Text.ofInt level.severity

end Level

structure Record where
  level : Level
  logger : Text
  message : Text
  deriving DecidableEq, Repr

inductive Topic
  | extractor
  | generator
  | pipeline
  | config
  | sources
  | logging
  | errors
  | commands
  deriving DecidableEq, Repr

namespace Topic

/-- The logger above those of all parts. -/
def package : Text := "client_aggregator"

def part : Topic → Text
  | .extractor => "extractor"
  | .generator => "generator"
  | .pipeline => "pipeline"
  | .config => "config"
  | .sources => "sources"
  | .logging => "logging"
  | .errors => "cli.errors"
  | .commands => "cli.commands"

def logger (topic : Topic) : Text := package ++ "." ++ topic.part

end Topic

def Record.of (topic : Topic) (level : Level) (message : Text) : Record :=
  ⟨level, topic.logger, message⟩

end ClientFacade
