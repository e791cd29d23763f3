import ClientFacade.Yaml.Cursor

/-!
# YAML tokens

A text is cut into tokens: the marks of documents, collections, keys and values, the properties of
a node, and scalars. The beginnings and ends of block collections are tokens too, though only the
indentation shows them. A fault ends the tokens.
-/

namespace ClientFacade.Yaml

inductive Directive
  | version (major : Nat)
  | handle (name expansion : Text)
  | unknown
  deriving DecidableEq, Repr

inductive Token
  | directive (directive : Directive)
  | documentStart
  | documentEnd
  | streamEnd
  | blockSequenceStart
  | blockMappingStart
  | blockEnd
  | flowSequenceStart
  | flowSequenceEnd
  | flowMappingStart
  | flowMappingEnd
  | key
  | value
  | blockEntry
  | flowEntry
  | alias (name : Text)
  | anchor (name : Text)
  | tag (handle : Option Text) (suffix : Text)
  | scalar (text : Text) (plain : Bool)
  | fault (fault : Fault)
  deriving DecidableEq, Repr

end ClientFacade.Yaml
