import ClientFacade.Source.Extraction
import ClientFacade.Value.Check

/-!
# Sources and extractions as values

Sources, methods and extractions are read from values and written as values. A method is written
with its name and its parameters, which are ignored when it is read again, because they follow from
the signature.
-/

namespace ClientFacade

namespace Method

def modelName : Text := "MethodRecord"

def ofEntries (entries : List (Scalar × Value)) : Checked Method :=
  Checked.both Method.mk
    (Checked.optional "doc_lines" [] (Checked.list Checked.text) entries)
    (Checked.required "signature" Checked.text entries)

def ofValue : Value → Checked Method := Checked.model modelName ofEntries

/-- A method as a value. Name and parameters are added for the reader. -/
def toValue (method : Method) : Value :=
  .map [(.text "doc_lines", .ofTexts method.docLines),
    (.text "signature", .ofText method.signature), (.text "name", .ofText method.name),
    (.text "parameter_list", .ofText method.parameters)]

end Method

namespace Source

def modelName : Text := "SourceUnit"

def ofEntries (entries : List (Scalar × Value)) : Checked Source :=
  Checked.both Source.mk
    (Checked.required "file_path" Checked.text entries)
    (Checked.required "source_text" Checked.text entries)

def ofValue : Value → Checked Source := Checked.model modelName ofEntries

def toValue (source : Source) : Value :=
  .map [(.text "file_path", .ofText source.path), (.text "source_text", .ofText source.text)]

end Source

namespace Extraction

def modelName : Text := "ExtractionResult"

def ofEntries (entries : List (Scalar × Value)) : Checked Extraction :=
  Checked.both (fun f methods => f methods)
    (Checked.both Extraction.mk
      (Checked.required "submodule_name" Checked.nonEmptyText entries)
      (Checked.required "file_path" Checked.text entries))
    (Checked.optional "methods" [] (Checked.list Method.ofValue) entries)

def ofValue : Value → Checked Extraction := Checked.model modelName ofEntries

def toValue (extraction : Extraction) : Value :=
  .map [(.text "submodule_name", .ofText extraction.submodule),
    (.text "file_path", .ofText extraction.path),
    (.text "methods", .list (extraction.methods.map Method.toValue))]

end Extraction

end ClientFacade
