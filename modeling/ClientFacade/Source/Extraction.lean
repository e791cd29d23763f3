import ClientFacade.Log.Logged
import ClientFacade.Source.Scanner
import ClientFacade.Source.Submodule

/-!
# Extractions

What is extracted from a source is its submodule and its methods. A source without a submodule in
the expected nesting gives nothing. Each method whose header is not recognised is reported.
-/

namespace ClientFacade

/-- The text of a file together with the path that labels it. -/
structure Source where
  path : Text
  text : Text
  deriving DecidableEq, Repr

structure Extraction where
  submodule : Text
  path : Text
  methods : List Method
  deriving DecidableEq, Repr

namespace Source

/-- The submodule of a source is never empty text. -/
def submodule? (nesting : List Text) (source : Source) : Option Text :=
  Submodule.find? nesting source.text

def methods (source : Source) : List Method := Scanner.methods source.text

def extraction? (nesting : List Text) (source : Source) : Option Extraction :=
  (source.submodule? nesting).map fun submodule => ⟨submodule, source.path, source.methods⟩

def missingReport (nesting : List Text) (source : Source) : Record :=
  .of .extractor .warning ("Could not find submodule in " ++ source.path ++
    " (expected module nesting " ++ Text.join " > " (nesting ++ [("<Submodule>" : Text)]) ++ ")")

def unrecognisedReport (source : Source) (method : Method) : Record :=
  .of .extractor .warning ("Unrecognised method signature in " ++ source.path ++
    ", delegating without parameters: " ++ method.signature)

def countReport (extraction : Extraction) : Record :=
  .of .extractor .debug ("Extracted " ++ Text.ofNat extraction.methods.length ++
    " methods for submodule " ++ extraction.submodule ++ " from " ++ extraction.path)

def reports (nesting : List Text) (source : Source) : List Record :=
  match source.extraction? nesting with
  | none => [source.missingReport nesting]
  | some extraction =>
    (extraction.methods.filter (!·.recognised)).map source.unrecognisedReport ++
      [countReport extraction]

end Source

end ClientFacade
