import ClientFacade.Text.Quoted

/-!
# Faults of a template

A template of a sub-client type can be malformed, and a well-formed one can ask for something that
the submodule name does not have. Each cause has one wording. The kind of a fault tells what went
wrong in general: a malformed template, an index past the end, an unknown field name, an attribute
or a key that a text lacks, or a text too long to be built. Objects that are no texts raise faults
of their own, of these kinds or of any other.
-/

namespace ClientFacade.Template

inductive FaultKind
  | malformed
  | index
  | name
  | attribute
  | access
  | memory
  | other (name : Text)
  deriving DecidableEq, Repr

/-- A fault of an object, in the words of the object. -/
structure Raised where
  kind : FaultKind
  message : Text
  deriving DecidableEq, Repr

inductive Fault
  | loneClosing
  | loneOpening
  | openingInName
  | endAtConversion
  | noColonAfterConversion
  | openSpec
  | openField
  | tooManyDigits
  | emptyAccess
  | textAfterIndex
  | openIndex
  | nestedTooDeep
  | unknownConversion (conversion : Char)
  | missingPrecision
  | twoSeparators
  | separatorFor (separator kind : Char)
  | invalidSpec (spec : Text)
  | unknownKind (kind : Char)
  | signed
  | spaced
  | zeroCoercion
  | alternateForm
  | signAlignment
  | noPosition (index : Nat)
  | indexPastEnd
  | unknownName (name : Text)
  | noAttribute (name : Text)
  | textKey
  | widthPastMemory
  | ofObject (raised : Raised)
  deriving DecidableEq, Repr

namespace Fault

def kind : Fault → FaultKind
  | .noPosition _ | .indexPastEnd => .index
  | .unknownName _ => .name
  | .noAttribute _ => .attribute
  | .textKey => .access
  | .widthPastMemory => .memory
  | .ofObject raised => raised.kind
  | _ => .malformed

/-- A character in a message: itself if it has an ASCII glyph, else its code. -/
def shownBelow (limit : Nat) (c : Char) : Text :=
  if 32 < c.toNat ∧ c.toNat < limit then [c] else "\\x" ++ Nat.toDigits 16 c.toNat

def message : Fault → Text
  | .loneClosing => "Single '\x7d' encountered in format string"
  | .loneOpening => "Single '\x7b' encountered in format string"
  | .openingInName => "unexpected '\x7b' in field name"
  | .endAtConversion => "end of string while looking for conversion specifier"
  | .noColonAfterConversion => "expected ':' after conversion specifier"
  | .openSpec => "unmatched '\x7b' in format spec"
  | .openField => "expected '\x7d' before end of string"
  | .tooManyDigits => "Too many decimal digits in format string"
  | .emptyAccess => "Empty attribute in format string"
  | .textAfterIndex => "Only '.' or '[' may follow ']' in format field specifier"
  | .openIndex => "Missing ']' in format string"
  | .nestedTooDeep => "Max string recursion exceeded"
  | .unknownConversion c => "Unknown conversion specifier " ++ shownBelow 127 c
  | .missingPrecision => "Format specifier missing precision"
  | .twoSeparators => "Cannot specify both ',' and '_'."
  | .separatorFor separator kind =>
    "Cannot specify '" ++ [separator] ++ "' with '" ++ shownBelow 128 kind ++ "'."
  | .invalidSpec spec => "Invalid format specifier '" ++ spec ++ "' for object of type 'str'"
  | .unknownKind kind =>
    "Unknown format code '" ++ shownBelow 128 kind ++ "' for object of type 'str'"
  | .signed => "Sign not allowed in string format specifier"
  | .spaced => "Space not allowed in string format specifier"
  | .zeroCoercion => "Negative zero coercion (z) not allowed in string format specifier"
  | .alternateForm => "Alternate form (#) not allowed in string format specifier"
  | .signAlignment => "'=' alignment not allowed in string format specifier"
  | .noPosition index =>
    "Replacement index " ++ Text.ofNat index ++ " out of range for positional args tuple"
  | .indexPastEnd => "string index out of range"
  | .unknownName name => name.quoted
  | .noAttribute name => "'str' object has no attribute '" ++ name ++ "'"
  | .textKey => "string indices must be integers, not 'str'"
  | .widthPastMemory => []
  | .ofObject raised => raised.message

end Fault

end ClientFacade.Template
