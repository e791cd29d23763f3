import ClientFacade.Proofs.Template.Abort
import ClientFacade.Proofs.Value.Check
import ClientFacade.Settings.Basic

/-!
# Which problems of settings are reported

Whatever the entries of settings are, each of them is checked to its end and its problems are
reported, with one exception. If the probe meets a fault of the template that the check of templates
does not report, this fault takes the place of the settings and of all problems.
-/

namespace ClientFacade.Settings

theorem concludes_moduleNames (value : Value) : (moduleNames value).Concludes := by
  refine (Checked.concludes_list Checked.concludes_text value).andThen fun names => ?_
  unfold checkModuleNames
  dsimp only
  split_ifs
  · exact Checked.concludes_valid names
  · exact Checked.concludes_problem _

theorem concludes_className? (value : Value) : (className? value).Concludes := by
  refine (Checked.concludes_text value).andThen fun name => ?_
  unfold checkClassName
  split_ifs
  · exact Checked.concludes_valid name
  · exact Checked.concludes_problem _

theorem concludes_file (value : Value) : (file value).Concludes := by
  unfold file
  split
  · exact Checked.concludes_valid _
  · exact Checked.concludes_problem _

theorem template?_eq_aborted_iff [Machine] {value : Value} {fault : Template.Fault} :
    template? value = .aborted fault ↔
      ∃ text, value.text? = some text ∧ Template.check text = .aborted fault := by
  unfold template? Checked.text
  cases value.text? with
  | none => simp [Checked.andThen, Checked.problem]
  | some text => simp [Checked.andThen, Checked.template_eq_aborted_iff]

/-- The text that the entries give for the template. -/
def givenTemplate? (entries : List (Scalar × Value)) : Option Text :=
  (Value.get? "subclient_type_template" entries).bind Value.text?

theorem ofEntries_eq_aborted_iff [Machine] {entries : List (Scalar × Value)}
    {fault : Template.Fault} :
    ofEntries entries = .aborted fault ↔
      ∃ text, givenTemplate? entries = some text ∧ Template.check text = .aborted fault := by
  have hmodulePath : (Checked.optional "module_path" defaults.modulePath moduleNames
      entries).Concludes := .optional concludes_moduleNames entries
  have hclassName : (Checked.optional "class_name" defaults.className className?
      entries).Concludes := .optional concludes_className? entries
  have hnesting : (Checked.optional "submodule_namespace" defaults.nesting moduleNames
      entries).Concludes := .optional concludes_moduleNames entries
  have hfiles : (Checked.optional "files" defaults.files (Checked.list file)
      entries).Concludes := .optional (Checked.concludes_list concludes_file) entries
  have hstrict : (Checked.optional "strict_identifiers" defaults.strict Checked.bool
      entries).Concludes := .optional Checked.concludes_bool entries
  rw [ofEntries, Checked.ap, Checked.both_eq_aborted_iff_left hstrict, Checked.ap,
    Checked.both_eq_aborted_iff_left hfiles, Checked.ap,
    Checked.both_eq_aborted_iff_right ((hmodulePath.both hclassName).ap hnesting),
    Checked.optional_eq_aborted_iff]
  simp only [template?_eq_aborted_iff, givenTemplate?, Option.bind_eq_some_iff]
  constructor
  · rintro ⟨value, hvalue, text, htext, hcheck⟩
    exact ⟨text, ⟨value, hvalue, htext⟩, hcheck⟩
  · rintro ⟨text, ⟨value, hvalue, htext⟩, hcheck⟩
    exact ⟨value, hvalue, text, htext, hcheck⟩

/-- The probe meets the fault in the given template, and the fault comes from an access by attribute
or by key, from an object behind an attribute, or from a width that no text is built for. -/
def Aborts [Machine] (entries : List (Scalar × Value)) (fault : Template.Fault) : Prop :=
  ∃ text, givenTemplate? entries = some text ∧ Template.placeholder <:+: text ∧
    (Template.ofText text).render Machine.checking Template.probe = .error fault ∧
    Template.Aborts (Template.ofText text).allAccesses fault

theorem read_eq_template_fault_iff [Machine] {entries : List (Scalar × Value)}
    {fault : Template.Fault} :
    read (.map entries) = .error (.template fault) ↔ Aborts entries fault := by
  have hread : read (.map entries) = .error (.template fault) ↔
      ofEntries entries = .aborted fault := by
    cases hof : ofEntries entries <;> simp [read, ofValue, Checked.model, hof]
  rw [hread, ofEntries_eq_aborted_iff]
  simp only [Template.check_eq_aborted_iff, Aborts]

/-- The entries of settings are read to settings or to a report of their problems, unless the check
of the given template ends early. Then the fault of the template is all that comes of them. -/
theorem problems_are_reported_unless_template_aborts [Machine] (entries : List (Scalar × Value)) :
    ((∃ settings, read (.map entries) = .ok settings) ∨
        (∃ problems, read (.map entries) = .error (.invalid problems)) ↔
      ∀ fault, ¬ Aborts entries fault) ∧
    ∀ fault, read (.map entries) = .error (.template fault) ↔ Aborts entries fault := by
  refine ⟨⟨?_, fun hnone => ?_⟩, fun fault => read_eq_template_fault_iff⟩
  · intro hreported fault haborts
    have hfault := read_eq_template_fault_iff.mpr haborts
    rw [hfault] at hreported
    rcases hreported with ⟨settings, hsettings⟩ | ⟨problems, hproblems⟩
    · cases hsettings
    · cases hproblems
  · cases hread : read (.map entries) with
    | ok settings => exact Or.inl ⟨settings, rfl⟩
    | error found =>
      cases found with
      | invalid problems => exact Or.inr ⟨problems, rfl⟩
      | template fault => exact absurd (read_eq_template_fault_iff.mp hread) (hnone fault)

section Examples

attribute [local instance] Runtime.shared

/-- Entries whose template asks for an attribute that no text has. -/
def attributeEntries : List (Scalar × Value) :=
  [(.text "subclient_type_template", .ofText "\x7bsubmodule\x7d\x7bsubmodule.q\x7d")]

theorem not_forall_problems_reported :
    ¬ ∀ entries : List (Scalar × Value), (∃ settings, read (.map entries) = .ok settings) ∨
      ∃ problems, read (.map entries) = .error (.invalid problems) := by
  intro h
  have hread : read (.map attributeEntries) = .error (.template (.noAttribute "q")) := by
    decide +kernel
  rcases h attributeEntries with ⟨settings, hsettings⟩ | ⟨problems, hproblems⟩
  · rw [hread] at hsettings
    cases hsettings
  · rw [hread] at hproblems
    cases hproblems

end Examples

end ClientFacade.Settings
