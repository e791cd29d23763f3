import ClientFacade.Proofs.Outcome
import ClientFacade.Proofs.Path
import ClientFacade.Proofs.Settings.Accepted
import ClientFacade.Proofs.Text.Utf8
import ClientFacade.Proofs.Yaml.Print
import ClientFacade.Settings.File

/-!
# Settings as documents

Settings that a program can have pass their own checks when they are written as a value and read
again: whatever a check has let through once, it lets through once more, and the path of a file is
the one that its text leads to. What is shown of them is text that a file keeps as it is. So a file
in the working directory that holds it has the same settings, if the reader of YAML finds in it what
was printed.
-/

namespace ClientFacade.Settings

/-- Settings that a program can have. -/
inductive Obtainable [Machine] : Settings → Prop
  | defaults : Obtainable defaults
  | read {value : Value} {settings : Settings} (h : read value = .ok settings) : Obtainable settings
  | file {store : Store} {path : Path} {settings : Settings} (hpath : path.Wellformed)
      (h : readFile store path = .ok settings) : Obtainable settings
  | override {settings : Settings} {files : List Path} (strict : Option Bool)
      (hfiles : ∀ path ∈ files, path.Wellformed) (h : Obtainable settings) :
      Obtainable (settings.override files strict)

/-- What the checks and the paths of settings have in common. -/
structure Sound [Machine] (settings : Settings) : Prop where
  accepted : settings.Accepted
  files : ∀ path ∈ settings.files, path.Wellformed

theorem sound_defaults [Machine] : defaults.Sound where
  accepted := accepted_defaults
  files := by
    intro path hpath
    obtain ⟨name, -, rfl⟩ := List.mem_map.mp hpath
    exact Path.wellformed_ofText name.toList

theorem wellformed_of_file {value : Value} {path : Path} (h : file value = .valid path) :
    path.Wellformed := by
  unfold file at h
  cases htext : value.text? with
  | none =>
    rw [htext] at h
    cases h
  | some text =>
    rw [htext] at h
    obtain rfl : Path.ofText text = path := Checked.valid.inj h
    exact Path.wellformed_ofText text

theorem sound_of_read [Machine] {value : Value} {settings : Settings}
    (h : Settings.read value = .ok settings) : settings.Sound := by
  refine ⟨accepted_of_read h, ?_⟩
  obtain ⟨entries, -, hvalid⟩ := read_eq_ok_iff.mp h
  obtain ⟨-, -, -, -, hfiles, -⟩ := ofEntries_eq_valid_iff.mp hvalid
  intro path hpath
  rcases Checked.optional_eq_valid hfiles with hdefault | ⟨given, hgiven⟩
  · rw [hdefault] at hpath
    exact sound_defaults.files path hpath
  · obtain ⟨value, hvalue⟩ := Checked.exists_of_mem_list hgiven path hpath
    exact wellformed_of_file hvalue

theorem Sound.seenFrom [Machine] {settings : Settings} {directory : Path} (h : settings.Sound)
    (hdirectory : directory.Wellformed) : (settings.seenFrom directory).Sound where
  accepted := ⟨h.accepted.modulePath, h.accepted.className, h.accepted.nesting, h.accepted.template⟩
  files := by
    intro path hpath
    obtain ⟨file, hfile, rfl⟩ := List.mem_map.mp hpath
    exact hdirectory.under (h.files file hfile)

theorem sound_of_readFile [Machine] {store : Store} {path : Path} {settings : Settings}
    (hpath : path.Wellformed) (h : readFile store path = .ok settings) : settings.Sound := by
  unfold readFile at h
  cases hyaml : Yaml.readFile store path with
  | error fault =>
    rw [hyaml] at h
    cases h
  | ok value =>
    rw [hyaml] at h
    dsimp only at h
    unfold ofFileValue at h
    split at h
    · obtain rfl := Except.ok.inj h
      exact sound_defaults.seenFrom hpath.parent
    · next entries =>
      cases hread : Settings.read (.map entries) with
      | error fault =>
        rw [hread] at h
        cases h
      | ok found =>
        rw [hread] at h
        obtain rfl := Except.ok.inj h
        exact (sound_of_read hread).seenFrom hpath.parent
    · cases h

theorem Sound.override [Machine] {settings : Settings} {files : List Path} (h : settings.Sound)
    (hfiles : ∀ path ∈ files, path.Wellformed) (strict : Option Bool) :
    (settings.override files strict).Sound := by
  refine ⟨h.accepted.override files strict, ?_⟩
  unfold Settings.override
  dsimp only
  split_ifs
  · exact h.files
  · exact hfiles

theorem Obtainable.sound [Machine] {settings : Settings} (h : settings.Obtainable) :
    settings.Sound := by
  induction h with
  | defaults => exact sound_defaults
  | read h => exact sound_of_read h
  | file hpath h => exact sound_of_readFile hpath h
  | override strict hfiles h ih => exact ih.override hfiles strict

theorem moduleNames_ofTexts {names : List Text} (h : ∀ name ∈ names, isModuleName name = true) :
    moduleNames (.ofTexts names) = .valid names := by
  rw [moduleNames, Checked.list_text, Checked.andThen]
  exact checkModuleNames_eq_valid_iff.mpr ⟨h, rfl⟩

theorem list_file_ofTexts {files : List Path} (h : ∀ path ∈ files, path.Wellformed) :
    Checked.list file (.ofTexts (files.map Path.text)) = .valid files := by
  rw [Value.ofTexts, List.map_map]
  apply Checked.list_map_eq_valid
  intro path hpath
  exact congrArg Checked.valid (Path.ofText_text (h path hpath))

/-- Whatever the checks of settings have let through they let through again. -/
theorem read_toValue [Machine] {settings : Settings} (h : settings.Sound) :
    Settings.read settings.toValue = .ok settings := by
  have hclassName : className? (.ofText settings.className) = .valid settings.className :=
    if_pos h.accepted.className
  have htemplate : template? (.ofText settings.template) = .valid settings.template :=
    Checked.template_eq_valid_iff.mpr ⟨h.accepted.template, rfl⟩
  apply read_eq_ok_iff.mpr
  refine ⟨_, rfl, ofEntries_eq_valid_iff.mpr ⟨?_, ?_, ?_, ?_, ?_, ?_⟩⟩
  · exact Checked.optional_eq_valid_of_get? rfl (moduleNames_ofTexts h.accepted.modulePath)
  · exact Checked.optional_eq_valid_of_get? rfl hclassName
  · exact Checked.optional_eq_valid_of_get? rfl (moduleNames_ofTexts h.accepted.nesting)
  · exact Checked.optional_eq_valid_of_get? rfl htemplate
  · exact Checked.optional_eq_valid_of_get? rfl (list_file_ofTexts h.files)
  · exact Checked.optional_eq_valid_of_get? rfl rfl

/-- There are no further conditions on what a program can have. -/
theorem obtainable_iff_sound [Machine] {settings : Settings} :
    settings.Obtainable ↔ settings.Sound :=
  ⟨Obtainable.sound, fun h => .read (read_toValue h)⟩

theorem ofFileValue_toValue [Machine] {settings : Settings} (h : settings.Sound) (path : Path) :
    ofFileValue path settings.toValue = .ok (settings.seenFrom path.parent) := by
  have hread := read_toValue h
  unfold toValue at hread ⊢
  rw [ofFileValue, hread]

theorem seenFrom_workingDirectory (settings : Settings) :
    settings.seenFrom ⟨.relative, []⟩ = settings := by
  have hfiles : settings.files.map (Path.under ⟨.relative, []⟩) = settings.files := by
    apply List.map_id''
    exact Path.under_workingDirectory
  rw [seenFrom, hfiles]

/-- What is shown of settings has no control characters other than line feeds. -/
theorem clean_shown (settings : Settings) : settings.shown.Clean := by
  apply Yaml.Print.clean_document
  simp only [contents, List.forall_mem_cons]
  decide

/-- A file keeps what is shown of settings as it is, so that its reader finds them again. In the
working directory their files stay where they are. -/
theorem readFile_shown [Machine] {settings : Settings} (h : settings.Sound) {store : Store}
    {name : Text}
    (hread : store.read ⟨.relative, [name]⟩ = .ok (Utf8.encode settings.shown))
    (hyaml : Yaml.Print.ReadsBack settings.contents) :
    readFile store ⟨.relative, [name]⟩ = .ok settings := by
  have hdecode : Yaml.decodePieces (Utf8.encode settings.shown) = .ok settings.shown := by
    rw [Yaml.decodePieces, Utf8.decode_encode]
  have hvalue : Yaml.readFile store ⟨.relative, [name]⟩ = .ok settings.toValue := by
    apply except_bind_eq_ok_iff.mpr
    refine ⟨Utf8.encode settings.shown, except_mapError_eq_ok_iff.mpr hread, ?_⟩
    apply except_bind_eq_ok_iff.mpr
    refine ⟨settings.shown, except_mapError_eq_ok_iff.mpr hdecode, ?_⟩
    apply except_mapError_eq_ok_iff.mpr
    rw [(clean_shown settings).unifyLineEnds]
    exact hyaml
  rw [readFile, hvalue]
  dsimp only
  rw [ofFileValue_toValue h, Path.parent, List.dropLast_singleton, seenFrom_workingDirectory]

end ClientFacade.Settings
