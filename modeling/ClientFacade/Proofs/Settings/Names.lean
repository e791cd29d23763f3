import ClientFacade.Proofs.Settings.ConstantName
import ClientFacade.Proofs.Settings.Document
import ClientFacade.Proofs.Value.Entries

/-!
# Names in settings

Entries that give settings give them with another name of the class, or with other names of
modules, just if these names are of their languages. Nothing else of the settings changes.
-/

namespace ClientFacade

namespace Checked

variable {α : Type} {key other : Text} {default : α} {read : Value → Checked α} {value : Value}
  {entries : List (Scalar × Value)}

theorem optional_insert_self :
    optional key default read (Value.insert (.text key) value entries) =
      (read value).within (.name key) := by
  rw [optional, Value.get?_insert_self]

theorem optional_insert_of_ne (h : other ≠ key) :
    optional other default read (Value.insert (.text key) value entries) =
      optional other default read entries := by
  rw [optional, Value.get?_insert_of_ne h, optional]

end Checked

namespace Settings

theorem className?_ofText_eq_valid_iff {name accepted : Text} :
    className? (.ofText name) = .valid accepted ↔ name ∈ constants ∧ accepted = name := by
  have hcheck : className? (.ofText name) = checkClassName name := rfl
  rw [hcheck, checkClassName, mem_constants_iff]
  split_ifs with h
  · simp [h, eq_comm]
  · simp [h, Checked.problem]

theorem moduleNames_ofTexts_eq_valid_iff {names accepted : List Text} :
    moduleNames (.ofTexts names) = .valid accepted ↔
      (∀ name ∈ names, name ∈ constants * finalFeed) ∧ accepted = names := by
  rw [moduleNames, Checked.list_text, Checked.andThen, checkModuleNames_eq_valid_iff]
  simp only [mem_constants_mul_finalFeed_iff]

theorem read_map_eq_ok_iff [Machine] {entries : List (Scalar × Value)} {settings : Settings} :
    read (.map entries) = .ok settings ↔ ofEntries entries = .valid settings := by
  rw [read_eq_ok_iff]
  exact ⟨fun ⟨_, heq, h⟩ => Value.map.inj heq ▸ h, fun h => ⟨entries, rfl, h⟩⟩

variable {entries : List (Scalar × Value)} {settings found : Settings}

theorem read_insert_className_iff [Machine] (h : read (.map entries) = .ok settings) {name : Text} :
    read (.map (Value.insert (.text "class_name") (.ofText name) entries)) = .ok found ↔
      name ∈ constants ∧ found = { settings with className := name } := by
  rw [read_map_eq_ok_iff, ofEntries_eq_valid_iff] at h ⊢
  obtain ⟨hmodulePath, -, hnesting, htemplate, hfiles, hstrict⟩ := h
  rw [Checked.optional_insert_self, Checked.within_eq_valid_iff, className?_ofText_eq_valid_iff]
  repeat rw [Checked.optional_insert_of_ne (by decide)]
  rw [hmodulePath, hnesting, htemplate, hfiles, hstrict]
  obtain ⟨modulePath, className, nesting, template, files, strict⟩ := found
  simp only [Checked.valid.injEq, Settings.mk.injEq]
  tauto

theorem read_insert_modulePath_iff [Machine] (h : read (.map entries) = .ok settings)
    {names : List Text} :
    read (.map (Value.insert (.text "module_path") (.ofTexts names) entries)) = .ok found ↔
      (∀ name ∈ names, name ∈ constants * finalFeed) ∧
        found = { settings with modulePath := names } := by
  rw [read_map_eq_ok_iff, ofEntries_eq_valid_iff] at h ⊢
  obtain ⟨-, hclassName, hnesting, htemplate, hfiles, hstrict⟩ := h
  rw [Checked.optional_insert_self, Checked.within_eq_valid_iff, moduleNames_ofTexts_eq_valid_iff]
  repeat rw [Checked.optional_insert_of_ne (by decide)]
  rw [hclassName, hnesting, htemplate, hfiles, hstrict]
  obtain ⟨modulePath, className, nesting, template, files, strict⟩ := found
  simp only [Checked.valid.injEq, Settings.mk.injEq]
  tauto

theorem read_insert_nesting_iff [Machine] (h : read (.map entries) = .ok settings)
    {names : List Text} :
    read (.map (Value.insert (.text "submodule_namespace") (.ofTexts names) entries)) = .ok found ↔
      (∀ name ∈ names, name ∈ constants * finalFeed) ∧
        found = { settings with nesting := names } := by
  rw [read_map_eq_ok_iff, ofEntries_eq_valid_iff] at h ⊢
  obtain ⟨hmodulePath, hclassName, -, htemplate, hfiles, hstrict⟩ := h
  rw [Checked.optional_insert_self, Checked.within_eq_valid_iff, moduleNames_ofTexts_eq_valid_iff]
  repeat rw [Checked.optional_insert_of_ne (by decide)]
  rw [hmodulePath, hclassName, htemplate, hfiles, hstrict]
  obtain ⟨modulePath, className, nesting, template, files, strict⟩ := found
  simp only [Checked.valid.injEq, Settings.mk.injEq]
  tauto

end Settings

end ClientFacade
