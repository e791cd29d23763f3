import ClientFacade.Template.Piece

/-!
# Objects behind a name

A field can ask a name for an attribute, and what it gets is an object of the runtime as a rule: a
method that is bound to the name, or the type of all texts. Such an object is printed with what the
runtime has made of it, an address for instance, which is another one for an equal text elsewhere
and may be another one at the next moment. So objects are a parameter. Which attributes a text has
is fixed, and so is everything else about texts.
-/

namespace ClientFacade.Template

def operatorNames : List Text :=
  ["__add__", "__contains__", "__delattr__", "__eq__", "__ge__", "__getattribute__",
   "__getitem__", "__gt__", "__hash__", "__init__", "__iter__", "__le__", "__len__", "__lt__",
   "__mod__", "__mul__", "__ne__", "__repr__", "__rmod__", "__rmul__", "__setattr__",
   "__str__"].map String.toList

def typeMethodNames : List Text :=
  ["__init_subclass__", "__new__", "__subclasshook__", "maketrans"]

def methodNames : List Text :=
  ["__dir__", "__format__", "__getnewargs__", "__getstate__", "__reduce__", "__reduce_ex__",
   "__sizeof__", "capitalize", "casefold", "center", "count", "encode", "endswith", "expandtabs",
   "find", "format", "format_map", "index", "isalnum", "isalpha", "isascii", "isdecimal",
   "isdigit", "isidentifier", "islower", "isnumeric", "isprintable", "isspace", "istitle",
   "isupper", "join", "ljust", "lower", "lstrip", "partition", "removeprefix", "removesuffix",
   "replace", "rfind", "rindex", "rjust", "rpartition", "rsplit", "rstrip", "split",
   "splitlines", "startswith", "strip", "swapcase", "title", "translate", "upper",
   "zfill"].map String.toList

def textAttributes : List Text :=
  "__class__" :: "__doc__" :: (operatorNames ++ typeMethodNames ++ methodNames)

/-- What a field has arrived at: a text, or an object that is known by the text and the accesses
that lead to it. -/
inductive Thing
  | text (content : Text)
  | object (origin : Text) (path : List Access)
  deriving DecidableEq, Repr

/-- A moment in the rendering of a template: how much of each list is left, innermost first. -/
abbrev Moment := List Nat

/-- What the objects behind a text do, at every moment of one rendering. -/
structure Objects where
  /-- Where the accesses of a text lead to: to a text, or else to an object. -/
  reach : Moment → Text → List Access → Except Raised (Option Text)
  convert : Moment → Text → List Access → Char → Except Raised Text
  format : Moment → Text → List Access → Text → Except Raised Text

/-! ## Objects at an address -/

namespace Objects

def typeDocument : Text :=
  "str(object='') -> str\nstr(bytes_or_buffer[, encoding[, errors]]) -> str\n\n" ++
  "Create a new string object from the given object. If encoding or\n" ++
  "errors is specified, then the object must expose a data buffer\n" ++
  "that will be decoded using the given encoding and error handler.\n" ++
  "Otherwise, returns the result of object.__str__() (if defined)\nor repr(object).\n" ++
  "encoding defaults to sys.getdefaultencoding().\nerrors defaults to 'strict'."

def typeName : List Access → Text
  | [.attribute name] =>
    if name = "__class__".toList then "type"
    else if operatorNames.elem name then "method-wrapper"
    else "builtin_function_or_method"
  | _ => "method-wrapper"

def shown (address : Nat) (path : List Access) : Text :=
  let place : Text := " object at 0x" ++ Nat.toDigits 16 address ++ ['>']
  match path with
  | [.attribute name] =>
    if name = "__class__".toList then "<class 'str'>"
    else if operatorNames.elem name then "<method-wrapper '" ++ name ++ "' of str" ++ place
    else if typeMethodNames.elem name then "<built-in method " ++ name ++ " of type" ++ place
    else "<built-in method " ++ name ++ " of str" ++ place
  | _ => "<method-wrapper '__call__' of builtin_function_or_method" ++ place

/-- The objects behind a text at an address, as far as fields go. -/
def atAddress (address : Nat) : Objects where
  reach _ origin path :=
    let missing (of : List Access) (name : Text) : Except Raised (Option Text) :=
      .error ⟨.attribute, "'" ++ typeName of ++ "' object has no attribute '" ++ name ++ "'"⟩
    match path with
    | [.attribute name] => .ok (if name = "__doc__".toList then some typeDocument else none)
    | [.attribute name, .attribute inner] =>
      if inner = "__name__".toList then
        .ok (some (if name = "__class__".toList then "str".toList else name))
      else if name = "__class__".toList ∨ typeMethodNames.elem name then
        missing [.attribute name] inner
      else if inner = "__self__".toList then .ok (some origin)
      else if inner = "__call__".toList then .ok none
      else missing [.attribute name] inner
    | [access, .attribute name] => missing [access] name
    | _ => .error ⟨.access, "'" ++ typeName path.dropLast ++ "' object is not subscriptable"⟩
  convert _ _ path _ := .ok (shown address path)
  format _ _ path spec :=
    if spec = [] then .ok (shown address path)
    else .error ⟨.access,
      "unsupported format string passed to " ++ typeName path ++ ".__format__"⟩

end Objects

end ClientFacade.Template

namespace ClientFacade

/-- What stays as it is when the program runs again. -/
class Machine where
  widthLimit : Nat
  /-- The objects behind the probe, the same in every check. -/
  checking : Template.Objects

/-- What a run of the program meets. -/
class Runtime extends Machine where
  /-- The objects behind a submodule when its type is made. -/
  typing : Text → Template.Objects

namespace Runtime

/-- The same program running again, with other objects behind the submodules. -/
@[reducible]
def retyped (runtime : Runtime) (typing : Text → Template.Objects) : Runtime :=
  { runtime with typing }

@[reducible]
def addressed (probe : Nat) (address : Text → Nat) : Runtime where
  widthLimit := 0x10000000000
  checking := .atAddress probe
  typing submodule := .atAddress (address submodule)

@[reducible]
def shared : Runtime := .addressed 0x7f0000001000 fun _ => 0x7f0000002000

end Runtime

end ClientFacade
