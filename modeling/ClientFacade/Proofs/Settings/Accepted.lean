import ClientFacade.Proofs.Template.Placeholder
import ClientFacade.Proofs.Value.Check
import ClientFacade.Settings.Basic

/-!
# Accepted settings

Settings are accepted if every check of theirs lets them through. All settings that a program can
have are accepted: the defaults, whatever is read from a value, and either of them with overrides.
The facade of accepted settings passes the checks of a facade.
-/

namespace ClientFacade

namespace Settings

structure Accepted [Machine] (settings : Settings) : Prop where
  modulePath : ∀ name ∈ settings.modulePath, isModuleName name = true
  className : isConstantName settings.className = true
  nesting : ∀ name ∈ settings.nesting, isModuleName name = true
  template : Template.check settings.template = .accepted

theorem accepted_defaults [Machine] : defaults.Accepted where
  modulePath := by decide +kernel
  className := by decide +kernel
  nesting := by decide +kernel
  template := by
    have hparts : defaults.template =
        "::Line::Bot::V2::" ++ (Template.placeholder ++ "::ApiClient") := by decide +kernel
    rw [hparts]
    exact Template.check_surrounded (by decide) (by decide)

theorem checkModuleNames_eq_valid_iff {names accepted : List Text} :
    checkModuleNames names = .valid accepted ↔
      (∀ name ∈ names, isModuleName name = true) ∧ accepted = names := by
  have hnames : names.filter (!isModuleName ·) = [] ↔ ∀ name ∈ names, isModuleName name = true := by
    simp [List.filter_eq_nil_iff]
  unfold checkModuleNames
  dsimp only
  split_ifs with h
  · rw [Checked.valid.injEq, and_iff_right (hnames.mp h)]
    exact eq_comm
  · exact ⟨nofun, fun hall => absurd (hnames.mpr hall.1) h⟩

theorem forall_isModuleName {value : Value} {names : List Text}
    (h : moduleNames value = .valid names) : ∀ name ∈ names, isModuleName name = true := by
  obtain ⟨texts, -, hcheck⟩ := Checked.andThen_eq_valid_iff.mp h
  obtain ⟨hnames, rfl⟩ := checkModuleNames_eq_valid_iff.mp hcheck
  exact hnames

theorem isConstantName_of_className? {value : Value} {name : Text}
    (h : className? value = .valid name) : isConstantName name = true := by
  obtain ⟨text, -, hcheck⟩ := Checked.andThen_eq_valid_iff.mp h
  unfold checkClassName at hcheck
  split_ifs at hcheck with hconstant
  · rwa [← Checked.valid.inj hcheck]
  · simp [Checked.problem] at hcheck

theorem ofEntries_eq_valid_iff [Machine] {entries : List (Scalar × Value)} {settings : Settings} :
    ofEntries entries = .valid settings ↔
      Checked.optional "module_path" defaults.modulePath moduleNames entries =
          .valid settings.modulePath ∧
        Checked.optional "class_name" defaults.className className? entries =
          .valid settings.className ∧
        Checked.optional "submodule_namespace" defaults.nesting moduleNames entries =
          .valid settings.nesting ∧
        Checked.optional "subclient_type_template" defaults.template template? entries =
          .valid settings.template ∧
        Checked.optional "files" defaults.files (Checked.list file) entries =
          .valid settings.files ∧
        Checked.optional "strict_identifiers" defaults.strict Checked.bool entries =
          .valid settings.strict := by
  constructor
  · intro h
    obtain ⟨_, strict, h₁, hstrict, rfl⟩ := Checked.ap_eq_valid_iff.mp h
    obtain ⟨_, files, h₂, hfiles, rfl⟩ := Checked.ap_eq_valid_iff.mp h₁
    obtain ⟨_, template, h₃, htemplate, rfl⟩ := Checked.ap_eq_valid_iff.mp h₂
    obtain ⟨_, nesting, h₄, hnesting, rfl⟩ := Checked.ap_eq_valid_iff.mp h₃
    obtain ⟨modulePath, className, hmodulePath, hclassName, rfl⟩ := Checked.both_eq_valid_iff.mp h₄
    exact ⟨hmodulePath, hclassName, hnesting, htemplate, hfiles, hstrict⟩
  · rintro ⟨hmodulePath, hclassName, hnesting, htemplate, hfiles, hstrict⟩
    rw [ofEntries, hmodulePath, hclassName, hnesting, htemplate, hfiles, hstrict]
    rfl

theorem accepted_of_ofEntries [Machine] {entries : List (Scalar × Value)} {settings : Settings}
    (h : ofEntries entries = .valid settings) : settings.Accepted := by
  obtain ⟨modulePath, className, nesting, template, files, strict⟩ := settings
  obtain ⟨hmodulePath, hclassName, hnesting, htemplate, -, -⟩ := ofEntries_eq_valid_iff.mp h
  refine ⟨?_, ?_, ?_, ?_⟩
  · rcases Checked.optional_eq_valid hmodulePath with rfl | ⟨given, hgiven⟩
    · exact accepted_defaults.modulePath
    · exact forall_isModuleName hgiven
  · rcases Checked.optional_eq_valid hclassName with rfl | ⟨given, hgiven⟩
    · exact accepted_defaults.className
    · exact isConstantName_of_className? hgiven
  · rcases Checked.optional_eq_valid hnesting with rfl | ⟨given, hgiven⟩
    · exact accepted_defaults.nesting
    · exact forall_isModuleName hgiven
  · rcases Checked.optional_eq_valid htemplate with rfl | ⟨given, hgiven⟩
    · exact accepted_defaults.template
    · obtain ⟨text, -, hcheck⟩ := Checked.andThen_eq_valid_iff.mp hgiven
      obtain ⟨haccepted, rfl⟩ := Checked.template_eq_valid_iff.mp hcheck
      exact haccepted

theorem read_eq_ok_iff [Machine] {value : Value} {settings : Settings} :
    read value = .ok settings ↔ ∃ entries, value = .map entries ∧
      ofEntries entries = .valid settings := by
  cases value with
  | map entries => cases hof : ofEntries entries <;> simp [read, ofValue, Checked.model, hof]
  | scalar | list => simp [read, ofValue, Checked.model, Checked.problem]

theorem accepted_of_read [Machine] {value : Value} {settings : Settings}
    (h : read value = .ok settings) :
    settings.Accepted := by
  obtain ⟨entries, -, hvalid⟩ := read_eq_ok_iff.mp h
  exact accepted_of_ofEntries hvalid

theorem Accepted.override [Machine] {settings : Settings} (h : settings.Accepted)
    (files : List Path)
    (strict : Option Bool) : (settings.override files strict).Accepted :=
  ⟨h.modulePath, h.className, h.nesting, h.template⟩

theorem Accepted.withTemplate [Machine] {settings : Settings} (h : settings.Accepted)
    {template : Text}
    (htemplate : Template.check template = .accepted) :
    Accepted { settings with template := template } :=
  ⟨h.modulePath, h.className, h.nesting, htemplate⟩

def facadeOf (settings : Settings) (extractions : List Extraction) : Facade :=
  ⟨settings.modulePath, settings.className, settings.template, extractions⟩

theorem facade_eq_valid [Machine] {settings : Settings} {extractions : List Extraction}
    {facade : Facade}
    (h : settings.facade extractions = .valid facade) :
    facade = settings.facadeOf extractions := by
  obtain ⟨_, found, h₁, hfound, rfl⟩ := Checked.ap_eq_valid_iff.mp h
  obtain ⟨_, template, h₂, htemplate, rfl⟩ := Checked.ap_eq_valid_iff.mp h₁
  obtain ⟨modulePath, className, hmodulePath, hclassName, rfl⟩ := Checked.both_eq_valid_iff.mp h₂
  rw [Checked.within_eq_valid_iff] at htemplate hclassName
  obtain ⟨-, rfl⟩ := Checked.template_eq_valid_iff.mp htemplate
  unfold Facade.checkClassName at hclassName
  split_ifs at hclassName
  · simp [Checked.problem] at hclassName
  · cases hmodulePath
    cases hclassName
    cases hfound
    rfl

end Settings

end ClientFacade
