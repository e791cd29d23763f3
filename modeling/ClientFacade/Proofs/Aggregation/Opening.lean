import ClientFacade.Proofs.Aggregation
import ClientFacade.Proofs.Facade.Lines
import ClientFacade.Proofs.Settings.Names

/-!
# The opening that settings ask for

The text of a run starts with one line for every module and one for the class. A module whose name
is followed by a line feed has an empty line behind its own. The check of the names of modules lets
this line feed through and the check of the name of the class does not.
-/

namespace ClientFacade

open Line (defaultIndent indentation)

namespace Facade

/-- The texts of the module lines, the outermost at the depth given. A name that is no constant ends
in a line feed, which leaves an empty line. -/
def moduleTexts (depth : Nat) : List Text → List Text
  | [] => []
  | name :: inner =>
    (indentation defaultIndent depth ++ "module " ++ dropFinalFeed name) ::
      ((if isConstantName name then [] else [[]]) ++ moduleTexts (depth + 1) inner)

theorem length_moduleTexts (depth : Nat) (names : List Text) :
    (moduleTexts depth names).length = names.length + names.countP (!isConstantName ·) := by
  induction names generalizing depth with
  | nil => rfl
  | cons name inner ih =>
    rw [moduleTexts, List.length_cons, List.length_append, ih, List.length_cons]
    by_cases h : isConstantName name = true
    · rw [if_pos h, List.countP_cons_of_neg (by simp [h]), List.length_nil]
      omega
    · rw [if_neg h, List.countP_cons_of_pos (by simp [h]), List.length_singleton]
      omega

/-- What one module line is read back as. -/
theorem pieces_moduleLine {name : Text} (h : isModuleName name = true) (depth : Nat) :
    Text.pieces '\n' ((Line.code depth ("module " ++ name)).text defaultIndent) =
      (indentation defaultIndent depth ++ "module " ++ dropFinalFeed name) ::
        if isConstantName name then [] else [[]] := by
  have hone : ∀ {constant : Text}, isConstantName constant = true →
      Text.pieces '\n' (indentation defaultIndent depth ++ ("module " ++ constant)) =
        [indentation defaultIndent depth ++ ("module " ++ constant)] := by
    intro constant hconstant
    have hfeed := feed_not_mem_of_mem_constants (mem_constants_iff.mpr hconstant)
    have hline : (Line.code depth ("module " ++ constant)).OneLine := by
      simp [Line.oneLine_code_iff, hfeed]
    exact hline.pieces_text
  rw [Line.text]
  rcases isModuleName_iff.mp h with hconstant | ⟨constant, hconstant, rfl⟩
  · rw [if_pos hconstant, dropFinalFeed_eq_self hconstant, hone hconstant, List.append_assoc]
  · -- The feed of the name ends the line, so that nothing stands before the feed of the line.
    have hfeed : indentation defaultIndent depth ++ ("module " ++ (constant ++ ['\n'])) =
        indentation defaultIndent depth ++ ("module " ++ constant) ++ '\n' :: [] := by simp
    rw [if_neg (not_isConstantName_append_feed constant), dropFinalFeed_append_feed, hfeed,
      Text.pieces_append_mark, hone hconstant, List.append_assoc]
    rfl

theorem flatMap_pieces_moduleLines (depth : Nat) {names : List Text}
    (h : ∀ name ∈ names, isModuleName name = true) :
    ((moduleLines depth names).flatMap fun line => Text.pieces '\n' (line.text defaultIndent)) =
      moduleTexts depth names := by
  induction names generalizing depth with
  | nil => rfl
  | cons name inner ih =>
    obtain ⟨hname, hinner⟩ := List.forall_mem_cons.mp h
    rw [moduleLines, List.flatMap_cons, pieces_moduleLine hname, ih (depth + 1) hinner, moduleTexts,
      List.cons_append]

end Facade

namespace Settings

open Facade (moduleTexts)

def openingTexts (settings : Settings) : List Text :=
  moduleTexts 0 settings.modulePath ++
    [indentation defaultIndent settings.modulePath.length ++ "class " ++ settings.className]

/-- Every module has one line just if all of their names are constants. -/
theorem length_openingTexts_iff {settings : Settings} :
    settings.openingTexts.length = settings.modulePath.length + 1 ↔
      ∀ name ∈ settings.modulePath, name ∈ constants := by
  have hcount : settings.openingTexts.length =
      settings.modulePath.length + settings.modulePath.countP (!isConstantName ·) + 1 := by
    rw [openingTexts, List.length_append, Facade.length_moduleTexts, List.length_singleton]
  have hnone : settings.modulePath.countP (!isConstantName ·) = 0 ↔
      ∀ name ∈ settings.modulePath, name ∈ constants := by
    simp [List.countP_eq_zero, mem_constants_iff]
  rw [hcount, ← hnone]
  omega

theorem Accepted.pieces_opening [Runtime] {settings : Settings} (h : settings.Accepted)
    (extractions : List Extraction) :
    ((settings.facadeOf extractions).openingLines.flatMap fun line =>
      Text.pieces '\n' (line.text defaultIndent)) = settings.openingTexts := by
  have hclass :
      (Line.code settings.modulePath.length ("class " ++ settings.className)).OneLine := by
    have hfeed := feed_not_mem_of_mem_constants (mem_constants_iff.mpr h.className)
    simp [Line.oneLine_code_iff, hfeed]
  have hmodules := Facade.flatMap_pieces_moduleLines 0 h.modulePath
  rw [Facade.openingLines, List.flatMap_append, List.flatMap_singleton, openingTexts,
    List.append_assoc]
  exact congrArg₂ (· ++ ·) hmodules hclass.pieces_text

end Settings

namespace Aggregator

theorem opening_of_run [Runtime] {settings : Settings} (haccepted : settings.Accepted)
    {sources : List Source}
    {text : Text} (h : ((ofSettings settings).run sources).outcome = .ok text) :
    ∃ rest, text.pieces '\n' = settings.openingTexts ++ rest := by
  obtain ⟨-, hrender⟩ := run_outcome_eq_ok h
  obtain ⟨-, rfl⟩ := Facade.render_eq_ok hrender
  have hindent : (ofSettings settings).indent = defaultIndent := rfl
  rw [hindent, Facade.layout_eq, Line.pieces_render, List.flatMap_append, List.append_assoc]
  exact ⟨_, congrArg (· ++ _) (haccepted.pieces_opening _)⟩

end Aggregator

namespace Settings

/-- Entries that give settings give them with any other name of the class just if this name is a
constant, and with any other names of modules just if these are constants, each perhaps with a line
feed behind it. A text of theirs starts with the lines of the modules and of the class, and every
module has one line just if its name is a constant. -/
theorem names_are_constants_up_to_feed [Runtime] (entries : List (Scalar × Value))
    (settings : Settings)
    (h : read (.map entries) = .ok settings) :
    (∀ name found,
      read (.map (Value.insert (.text "class_name") (.ofText name) entries)) = .ok found ↔
        name ∈ constants ∧ found = { settings with className := name }) ∧
    (∀ names found,
      read (.map (Value.insert (.text "module_path") (.ofTexts names) entries)) = .ok found ↔
        (∀ name ∈ names, name ∈ constants * finalFeed) ∧
          found = { settings with modulePath := names }) ∧
    (∀ names found,
      read (.map (Value.insert (.text "submodule_namespace") (.ofTexts names) entries)) =
          .ok found ↔
        (∀ name ∈ names, name ∈ constants * finalFeed) ∧
          found = { settings with nesting := names }) ∧
    (∀ sources text, ((Aggregator.ofSettings settings).run sources).outcome = .ok text →
      ∃ rest, text.pieces '\n' = settings.openingTexts ++ rest) ∧
    (settings.openingTexts.length = settings.modulePath.length + 1 ↔
      ∀ name ∈ settings.modulePath, name ∈ constants) := by
  refine ⟨?_, ?_, ?_, ?_, length_openingTexts_iff⟩
  · exact fun name found => read_insert_className_iff h
  · exact fun names found => read_insert_modulePath_iff h
  · exact fun names found => read_insert_nesting_iff h
  · exact fun sources text htext => Aggregator.opening_of_run (accepted_of_read h) htext

/-- Entries with a line feed behind the name of the innermost module. -/
def feedEntries : List (Scalar × Value) :=
  [(.text "module_path", .ofTexts ["Line", "All\n"])]

def feedSettings : Settings := { defaults with modulePath := ["Line", "All\n"] }

section Examples

attribute [local instance] Runtime.shared

theorem names_are_constants_up_to_feed_of_feedEntries :
    read (.map feedEntries) = .ok feedSettings ∧
    (¬ ∃ found,
      read (.map (Value.insert (.text "class_name") (.ofText "All\n") feedEntries)) = .ok found) ∧
    (∃ found, read (.map (Value.insert (.text "submodule_namespace") (.ofTexts ["All\n"])
      feedEntries)) = .ok found) ∧
    ∃ text rest, ((Aggregator.ofSettings feedSettings).run []).outcome = .ok text ∧
      text.pieces '\n' =
        (["module Line", "  module All", "", "    class ApiClient"] : List Text) ++ rest := by
  have hread : read (.map feedEntries) = .ok feedSettings := by decide +kernel
  obtain ⟨hclass, -, hnesting, hruns, -⟩ :=
    names_are_constants_up_to_feed feedEntries feedSettings hread
  have hmodule : ∀ name ∈ (["All\n"] : List Text), name ∈ constants * finalFeed := by
    simp only [mem_constants_mul_finalFeed_iff]
    decide +kernel
  have hopening : feedSettings.openingTexts =
      (["module Line", "  module All", "", "    class ApiClient"] : List Text) := by decide +kernel
  have hsome : (((Aggregator.ofSettings feedSettings).run []).outcome.toOption.any
      fun _ => true) = true := by decide +kernel
  refine ⟨hread, ?_, ⟨_, (hnesting _ _).mpr ⟨hmodule, rfl⟩⟩, ?_⟩
  · rintro ⟨found, hfound⟩
    exact feed_not_mem_of_mem_constants ((hclass _ _).mp hfound).1 (by decide)
  · obtain ⟨text, htext, -⟩ := exists_ok_of_any_toOption hsome
    obtain ⟨rest, hrest⟩ := hruns [] text htext
    exact ⟨text, rest, htext, hopening ▸ hrest⟩

/-- A constant name with a line feed behind it names a module and no class. -/
theorem not_forall_names_read_alike :
    ¬ ∀ (entries : List (Scalar × Value)) (settings : Settings) (name : Text),
      read (.map entries) = .ok settings →
      ((∃ found,
        read (.map (Value.insert (.text "class_name") (.ofText name) entries)) = .ok found) ↔
      ∃ found,
        read (.map (Value.insert (.text "module_path") (.ofTexts [name]) entries)) =
          .ok found) := by
  intro h
  have hmodule : read (.map (Value.insert (.text "module_path") (.ofTexts ["A\n"]) [])) =
      .ok { defaults with modulePath := ["A\n"] } := by decide +kernel
  obtain ⟨found, hfound⟩ := (h [] defaults "A\n" (by decide +kernel)).mpr ⟨_, hmodule⟩
  have hclass : read (.map (Value.insert (.text "class_name") (.ofText "A\n") [])) =
      .error (.invalid [⟨[.name "class_name"], .notConstant⟩]) := by decide +kernel
  rw [hclass] at hfound
  cases hfound

end Examples

end Settings

end ClientFacade
