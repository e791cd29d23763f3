import ClientFacade.Settings.File

/-!
# Faults of a logging configuration

A logging configuration can be unreadable, it can have a shape that the override of its levels
cannot deal with, and it can describe handlers and loggers that do not exist. The fallback covers
all faults except some of scalars that stand for no value, and three of the override: where entries
are asked of something without entries, where a list or bytes are asked for an item that they do not
have, and where a map grows while its entries are looked at.
-/

namespace ClientFacade.Log

inductive Fault
  | malformed (path : Text)
  | unreadable (path : Text) (fault : Store.Fault)
  | noMap (path : Text)
  | impossible (kind : Yaml.FaultKind) (reason : Text)
  | undecodable (fault : DecodeFault)
  | nullByte
  | invalidLevel (level : Text)
  /-- A value of this type has no items to set. -/
  | unassignable (type : Text)
  /-- A key of this type is no index of a list. -/
  | listKey (type : Text)
  | textKey
  | noKeys (type : Text)
  | notIterable (type : Text)
  | levelNotText (type : Text)
  | incomparable (type : Text)
  | indexPastEnd
  | bytePastEnd
  | noEntries (type : Text)
  | grown
  | noVersion
  | unknownVersion (version : Text)
  | formatter (name : Text)
  | handler (name : Text)
  | logger (name : Text)
  | root
  deriving Repr

inductive FaultKind
  | configuration
  | value
  | type
  | decoding
  | key
  | index
  | attribute
  | overflow
  | runtime
  deriving DecidableEq, Repr

def FaultKind.ofYaml : Yaml.FaultKind → FaultKind
  | .value => .value
  | .key => .key
  | .type => .type
  | .index => .index
  | .attribute => .attribute
  | .overflow => .overflow
  | .depth => .runtime

namespace Fault

def kind : Fault → FaultKind
  | .malformed _ | .unreadable _ _ | .noMap _ | .invalidLevel _ => .configuration
  | .undecodable _ => .decoding
  | .impossible kind _ => .ofYaml kind
  | .unassignable _ | .listKey _ | .textKey | .noKeys _ | .notIterable _ | .levelNotText _
  | .incomparable _ => .type
  | .indexPastEnd | .bytePastEnd => .index
  | .noEntries _ => .attribute
  | .grown => .runtime
  | _ => .value

/-- Whether the fallback covers the fault. -/
def isCovered (fault : Fault) : Bool :=
  match fault.kind with
  | .index | .attribute | .overflow | .runtime => false
  | _ => true

def message : Fault → Text
  | .malformed path => "Failed to parse YAML config " ++ path ++ ": malformed document"
  | .unreadable path fault => "Failed to read config file " ++ path ++ ": " ++ fault.message
  | .noMap path => "Invalid configuration format in " ++ path
  | .impossible _ reason => reason
  | .undecodable fault => fault.message
  | .nullByte => Store.Fault.nullByte.message
  | .invalidLevel level => "Invalid log level: " ++ level
  | .unassignable type => "'" ++ type ++ "' object does not support item assignment"
  | .listKey type => "list indices must be integers or slices, not " ++ type
  | .textKey => "string indices must be integers, not 'str'"
  | .noKeys type => "'" ++ type ++ "' object is not subscriptable"
  | .notIterable type => "'" ++ type ++ "' object is not iterable"
  | .levelNotText type => "attribute name must be string, not '" ++ type ++ "'"
  | .incomparable type => "'<' not supported between instances of 'int' and '" ++ type ++ "'"
  | .indexPastEnd => "list index out of range"
  | .bytePastEnd => "index out of range"
  | .noEntries type => "'" ++ type ++ "' object has no attribute 'items'"
  | .grown => "dictionary changed size during iteration"
  | .noVersion => "dictionary doesn't specify a version"
  | .unknownVersion version => "Unsupported version: " ++ version
  | .formatter name => "Unable to configure formatter " ++ name
  | .handler name => "Unable to configure handler " ++ name
  | .logger name => "Unable to configure logger " ++ name
  | .root => "Unable to configure root logger"

end Fault

end ClientFacade.Log
