import ClientFacade.Facade.Basic
import ClientFacade.Proofs.Value.Check
import ClientFacade.Proofs.Value.Json

/-!
# Facades as documents

A facade that is written as a value and read again is the same facade, as long as it passes the
checks of its class name, its template and its submodules. The name and the parameters that stand
beside a header are for the reader only: whatever stands there, the method is that of the header.
-/

namespace ClientFacade

namespace Method

/-- A value that gives the comment lines and the header of a method, with anything in place of its
name and its parameters. -/
def WrittenAs (method : Method) (value : Value) : Prop :=
  ∃ name parameters, value = .map [(.text "doc_lines", .ofTexts method.docLines),
    (.text "signature", .ofText method.signature), (.text "name", name),
    (.text "parameter_list", parameters)]

theorem writtenAs_toValue (method : Method) : method.WrittenAs method.toValue := ⟨_, _, rfl⟩

theorem plain_toValue (method : Method) : Json.Plain method.toValue := by
  apply Json.Plain.map
  · simp
  · simp [Json.Plain.texts, Json.Plain.text]

theorem ofValue_of_writtenAs {method : Method} {value : Value} (h : method.WrittenAs value) :
    ofValue value = .valid method := by
  obtain ⟨name, parameters, rfl⟩ := h
  apply Checked.both_eq_valid_iff.mpr
  refine ⟨method.docLines, method.signature, ?_, ?_, rfl⟩
  · exact Checked.optional_eq_valid_of_get? rfl (Checked.list_text method.docLines)
  · exact Checked.required_eq_valid rfl rfl

end Method

namespace Extraction

/-- A value that gives an extraction, with anything in place of what follows from the headers. -/
def WrittenAs (extraction : Extraction) (value : Value) : Prop :=
  ∃ methods, List.Forall₂ Method.WrittenAs extraction.methods methods ∧
    value = .map [(.text "submodule_name", .ofText extraction.submodule),
      (.text "file_path", .ofText extraction.path), (.text "methods", .list methods)]

theorem writtenAs_toValue (extraction : Extraction) : extraction.WrittenAs extraction.toValue := by
  refine ⟨extraction.methods.map Method.toValue, ?_, rfl⟩
  rw [List.forall₂_map_right_iff, List.forall₂_same]
  exact fun method _ => method.writtenAs_toValue

theorem plain_toValue (extraction : Extraction) : Json.Plain extraction.toValue := by
  have hmethods : Json.Plain (.list (extraction.methods.map Method.toValue)) := by
    apply Json.Plain.list
    simp [Method.plain_toValue]
  apply Json.Plain.map
  · simp
  · simp [Json.Plain.text, hmethods]

theorem ofValue_of_writtenAs {extraction : Extraction} {value : Value}
    (hsubmodule : extraction.submodule ≠ []) (h : extraction.WrittenAs value) :
    ofValue value = .valid extraction := by
  obtain ⟨methods, hmethods, rfl⟩ := h
  have hread : List.Forall₂ (fun value method => Method.ofValue value = .valid method) methods
      extraction.methods := by
    apply List.Forall₂.flip
    exact hmethods.imp fun _ _ => Method.ofValue_of_writtenAs
  have hname : Checked.nonEmptyText (.ofText extraction.submodule) =
      .valid extraction.submodule := if_neg hsubmodule
  apply Checked.both_eq_valid_iff.mpr
  refine ⟨Extraction.mk extraction.submodule extraction.path, extraction.methods, ?_, ?_, rfl⟩
  · apply Checked.both_eq_valid_iff.mpr
    exact ⟨_, _, Checked.required_eq_valid rfl hname, Checked.required_eq_valid rfl rfl, rfl⟩
  · exact Checked.optional_eq_valid_of_get? rfl (Checked.list_eq_valid hread)

end Extraction

namespace Facade

/-- A value that gives a facade, with anything in place of what follows from the headers. -/
def WrittenAs (facade : Facade) (value : Value) : Prop :=
  ∃ extractions, List.Forall₂ Extraction.WrittenAs facade.extractions extractions ∧
    value = .map [(.text "module_path", .ofTexts facade.modulePath),
      (.text "class_name", .ofText facade.className),
      (.text "subclient_type_template", .ofText facade.template),
      (.text "results", .list extractions)]

theorem writtenAs_toValue (facade : Facade) : facade.WrittenAs facade.toValue := by
  refine ⟨facade.extractions.map Extraction.toValue, ?_, rfl⟩
  rw [List.forall₂_map_right_iff, List.forall₂_same]
  exact fun extraction _ => extraction.writtenAs_toValue

theorem plain_toValue (facade : Facade) : Json.Plain facade.toValue := by
  have hextractions : Json.Plain (.list (facade.extractions.map Extraction.toValue)) := by
    apply Json.Plain.list
    simp [Extraction.plain_toValue]
  apply Json.Plain.map
  · simp
  · simp [Json.Plain.texts, Json.Plain.text, hextractions]

/-- A facade as a JSON document, which is one line after another. -/
def dump (facade : Facade) : Text := Json.write 0 facade.toValue ++ ['\n']

theorem read?_dump (facade : Facade) : Json.read? facade.dump = some facade.toValue :=
  Json.read?_write facade.plain_toValue

theorem clean_dump (facade : Facade) : facade.dump.Clean := by
  simp [dump, Json.clean_write facade.plain_toValue]

structure Wellformed [Machine] (facade : Facade) : Prop where
  className : facade.className ≠ []
  template : Template.check facade.template = .accepted
  submodules : ∀ submodule ∈ facade.submodules, submodule ≠ []

theorem ofValue_of_writtenAs [Machine] {facade : Facade} {value : Value}
    (hfacade : facade.Wellformed)
    (h : facade.WrittenAs value) : ofValue value = .valid facade := by
  obtain ⟨extractions, hextractions, rfl⟩ := h
  have hread : List.Forall₂ (fun value extraction => Extraction.ofValue value = .valid extraction)
      extractions facade.extractions := by
    apply List.Forall₂.flip
    have hnamed : List.Forall₂ (fun extraction value =>
        extraction.submodule ≠ [] ∧ extraction.WrittenAs value) facade.extractions extractions := by
      refine (List.forall₂_and_left _ _).mpr ⟨fun extraction hmem => ?_, hextractions⟩
      exact hfacade.submodules _ (List.mem_map_of_mem hmem)
    exact hnamed.imp fun _ _ hboth => Extraction.ofValue_of_writtenAs hboth.1 hboth.2
  have hclassName : checkClassName facade.className = .valid facade.className :=
    if_neg hfacade.className
  have htemplate : Checked.template facade.template = .valid facade.template :=
    Checked.template_eq_valid_iff.mpr ⟨hfacade.template, rfl⟩
  apply Checked.ap_eq_valid_iff.mpr
  refine ⟨Facade.mk facade.modulePath facade.className facade.template, facade.extractions, ?_, ?_,
    rfl⟩
  · apply Checked.ap_eq_valid_iff.mpr
    refine ⟨Facade.mk facade.modulePath facade.className, facade.template, ?_,
      Checked.required_eq_valid rfl htemplate, rfl⟩
    apply Checked.both_eq_valid_iff.mpr
    refine ⟨facade.modulePath, facade.className, ?_, ?_, rfl⟩
    · exact Checked.required_eq_valid rfl (Checked.list_text facade.modulePath)
    · exact Checked.required_eq_valid rfl hclassName
  · exact Checked.optional_eq_valid_of_get? rfl (Checked.list_eq_valid hread)

end Facade

end ClientFacade
