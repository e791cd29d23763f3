import ClientFacade.Source.Document

/-!
# The facade

A facade is a class inside a nesting of modules. It holds one sub-client for every submodule that
something was extracted from, and delegates the extracted methods to them. The type of a sub-client
is given by a template.
-/

namespace ClientFacade

structure Facade where
  /-- The modules around the class, outermost first. -/
  modulePath : List Text
  className : Text
  template : Text
  extractions : List Extraction
  deriving DecidableEq, Repr

namespace Facade

def submodules (facade : Facade) : List Text := facade.extractions.map (·.submodule)

def clientType [Runtime] (facade : Facade) (submodule : Text) : Except Template.Fault Text :=
  (Template.ofText facade.template).render (Runtime.typing submodule) submodule

section Checks

variable [Machine]

def assemble (modulePath : Checked (List Text)) (className template : Checked Text)
    (extractions : Checked (List Extraction)) : Checked Facade :=
  ((Checked.both Facade.mk modulePath className).ap template).ap extractions

def checkClassName (name : Text) : Checked Text :=
  if name = [] then Checked.problem .emptyText else .valid name

/-- A facade from parts that are checked as far as their types leave something open. -/
def checked (modulePath : List Text) (className template : Text) (extractions : List Extraction) :
    Checked Facade :=
  assemble (.valid modulePath) ((checkClassName className).within (.name "class_name"))
    ((Checked.template template).within (.name "subclient_type_template")) (.valid extractions)

def modelName : Text := "AggregateSpec"

def ofEntries (entries : List (Scalar × Value)) : Checked Facade :=
  assemble (Checked.required "module_path" (Checked.list Checked.text) entries)
    (Checked.required "class_name"
      (fun value => (Checked.text value).andThen checkClassName) entries)
    (Checked.required "subclient_type_template"
      (fun value => (Checked.text value).andThen Checked.template) entries)
    (Checked.optional "results" [] (Checked.list Extraction.ofValue) entries)

def ofValue : Value → Checked Facade := Checked.model modelName ofEntries

end Checks

def toValue (facade : Facade) : Value :=
  .map [(.text "module_path", .ofTexts facade.modulePath),
    (.text "class_name", .ofText facade.className),
    (.text "subclient_type_template", .ofText facade.template),
    (.text "results", .list (facade.extractions.map Extraction.toValue))]

end Facade

end ClientFacade
