import ClientFacade.Proofs.Facade.Readable
import ClientFacade.Proofs.Settings.Accepted
import ClientFacade.Proofs.Settings.ConstantName

/-!
# The opening of a facade

The names in the opening are constant names, the names of modules perhaps with a line feed behind
them. So no line of the opening is taken for a comment or for a header. A source that starts with
the opening belongs to the innermost module, seen from the nesting of the others.
-/

namespace ClientFacade

theorem not_isBlank_of_isNameChar {c : Char} (h : isNameChar c = true) : isBlank c = false := by
  refine inRanges_eq_false fun range hrange => ?_
  simp only [isNameChar, isCapital, Bool.or_eq_true, Bool.and_eq_true, decide_eq_true_eq,
    Char.le_def, UInt32.le_iff_toNat_le] at h
  have hunderscore : c = '_' → c.toNat = 95 := by
    rintro rfl
    rfl
  have hcode : 48 ≤ c.toNat ∧ c.toNat ≤ 122 := by
    rcases h with ((h | h) | h) | h
    · exact ⟨Nat.le_trans (by decide) h.1, Nat.le_trans h.2 (by decide)⟩
    · exact ⟨Nat.le_trans (by decide) h.1, Nat.le_trans h.2 (by decide)⟩
    · exact ⟨Nat.le_trans (by decide) h.1, Nat.le_trans h.2 (by decide)⟩
    · have := hunderscore h
      omega
  have houtside : ∀ range ∈ blankRanges, range.2 < 48 ∨ 122 < range.1 := by decide
  rcases houtside range hrange with hlow | hhigh <;> omega

theorem isWord_of_isConstantName {name : Text} (h : isConstantName name = true) : IsWord name := by
  cases name with
  | nil => exact absurd h Bool.false_ne_true
  | cons first rest =>
    obtain ⟨hfirst, hrest⟩ := Bool.and_eq_true_iff.mp h
    refine ⟨List.cons_ne_nil first rest, fun c hc => not_isBlank_of_isNameChar ?_⟩
    rcases List.mem_cons.mp hc with rfl | hc
    · simp [isNameChar, hfirst]
    · exact List.all_eq_true.mp hrest c hc

theorem IsWord.feed_not_mem {text : Text} (h : IsWord text) : '\n' ∉ text := by
  intro hm
  exact absurd (h.noBlank '\n' hm) (by decide)

namespace Line

theorem lines_code_feed (depth : Nat) (text : Text) :
    Text.lines ((code depth (text ++ ['\n'])).text defaultIndent) =
      Text.lines ((code depth text).text defaultIndent) ++ [[]] := by
  have happend : (code depth (text ++ ['\n'])).text defaultIndent =
      (code depth text).text defaultIndent ++ '\n' :: [] := by
    simp [Line.text]
  rw [happend, Text.lines_append_feed]
  rfl

/-- A plain line that is followed by a line feed of its own is read as itself and an empty line. -/
theorem Plain.lines {depth : Nat} {text : Text} (h : (code depth text).Plain)
    (hline : '\n' ∉ text) :
    ∀ line ∈ Text.lines ((code depth text).text defaultIndent) ++ [[]],
      ¬ IsComment line ∧ ¬ IsHeader line := by
  have hone : (code depth text).OneLine := hline
  rw [Text.lines_eq_singleton hone.feed_not_mem]
  simp only [List.forall_mem_append, List.forall_mem_singleton]
  refine ⟨?_, by decide, by decide⟩
  exact ⟨fun hc => h.1 (isComment_read.mp hc), fun hh => h.2 (isHeader_read.mp hh)⟩

end Line

namespace Facade

open Line

theorem mem_moduleLines {depth : Nat} {names : List Text} {line : Line}
    (h : line ∈ moduleLines depth names) :
    ∃ depth, ∃ name ∈ names, line = .code depth ("module " ++ name) := by
  induction names generalizing depth with
  | nil => exact absurd h List.not_mem_nil
  | cons name inner ih =>
    rcases List.mem_cons.mp h with rfl | hinner
    · exact ⟨depth, name, List.mem_cons_self, rfl⟩
    · obtain ⟨depth, other, hother, rfl⟩ := ih hinner
      exact ⟨depth, other, List.mem_cons_of_mem _ hother, rfl⟩

theorem plain_openingTexts {facade : Facade}
    (hmodules : ∀ name ∈ facade.modulePath, isModuleName name = true)
    (hclass : isConstantName facade.className = true) :
    ∀ line ∈ facade.openingTexts, ¬ IsComment line ∧ ¬ IsHeader line := by
  have hmodule : ∀ name : Text, ¬ IsComment ("module " ++ name) ∧ ¬ IsHeader ("module " ++ name) :=
    fun name => plain_of_head (by decide) (by decide) (by decide) _
  intro text htext
  obtain ⟨line, hline, hread⟩ := List.mem_flatMap.mp htext
  rcases List.mem_append.mp hline with hmem | hmem
  · obtain ⟨depth, name, hname, rfl⟩ := mem_moduleLines hmem
    rcases isModuleName_iff.mp (hmodules name hname) with hconstant | ⟨constant, hconstant, rfl⟩
    · have hone : '\n' ∉ ("module " : Text) ++ name := by
        simp [(isWord_of_isConstantName hconstant).feed_not_mem]
      exact Plain.lines (plain_code_iff.mpr (hmodule name)) hone text (List.mem_append_left _ hread)
    · have hone : '\n' ∉ ("module " : Text) ++ constant := by
        simp [(isWord_of_isConstantName hconstant).feed_not_mem]
      rw [← List.append_assoc, lines_code_feed] at hread
      exact Plain.lines (plain_code_iff.mpr (hmodule constant)) hone text hread
  · rw [List.mem_singleton.mp hmem] at hread
    have hone : '\n' ∉ ("class " : Text) ++ facade.className := by
      simp [(isWord_of_isConstantName hclass).feed_not_mem]
    have hplain : (code facade.classDepth ("class " ++ facade.className)).Plain :=
      plain_of_head (by decide) (by decide) (by decide) ("lass " ++ facade.className)
    exact hplain.lines hone text (List.mem_append_left _ hread)

end Facade

namespace Submodule

open Line
open Facade (moduleLines)

theorem afterBlanks?_feed (rest : Text) : afterBlanks? ('\n' :: rest) = some rest.trimLeft := rfl

theorem afterModule?_module (rest : Text) : afterModule? ("module " ++ rest) = some rest := rfl

theorem afterOpening?_module (name rest : Text) :
    afterOpening? name ("module " ++ (name ++ '\n' :: rest)) = some rest.trimLeft := by
  rw [afterOpening?, afterModule?_module, Option.bind_some, Text.dropBeginning?_append,
    Option.bind_some, afterBlanks?_feed]

theorem trimLeft_render_module (depth : Nat) (name : Text) (rest : List Line) :
    (render defaultIndent (.code depth ("module " ++ name) :: rest)).trimLeft =
      "module " ++ (name ++ '\n' :: render defaultIndent rest) := by
  have htext : render defaultIndent (.code depth ("module " ++ name) :: rest) =
      indentation defaultIndent depth ++
        ("module " ++ (name ++ '\n' :: render defaultIndent rest)) := by
    rw [render_cons]
    simp [Line.text]
  rw [htext, Text.trimLeft_append isBlank_of_mem_indentation]
  exact Text.trimLeft_cons (by decide) _

/-- Each module line opens the next module of the nesting, whatever its name is. -/
theorem afterNesting?_moduleLines (names : List Text) (depth : Nat) (rest : List Line) :
    afterNesting? names (render defaultIndent (moduleLines depth names ++ rest)).trimLeft =
      some (render defaultIndent rest).trimLeft := by
  induction names generalizing depth with
  | nil => rfl
  | cons name inner ih =>
    rw [moduleLines, List.cons_append, trimLeft_render_module, afterNesting?,
      afterOpening?_module, Option.bind_some, ih]

theorem opened?_module {name : Text} (h : IsWord name) (rest : Text) :
    opened? ("module " ++ (name ++ '\n' :: rest)) = some name := by
  rw [opened?, afterModule?_module, Option.bind_some]
  dsimp only
  rw [Text.takeWhile_word h.noBlank (by decide), Text.dropWhile_word h.noBlank (by decide),
    if_neg h.ne_nil, afterBlanks?_feed, Option.map_some]

theorem find?_of_here? {nesting : List Text} {text name : Text}
    (h : here? nesting text = some name) : find? nesting text = some name := by
  cases text with
  | nil => exact h
  | cons c rest => simp only [find?, h]

theorem moduleLines_concat (depth : Nat) (outer : List Text) (name : Text) :
    moduleLines depth (outer ++ [name]) =
      moduleLines depth outer ++ [.code (depth + outer.length) ("module " ++ name)] := by
  induction outer generalizing depth with
  | nil => rfl
  | cons first inner ih =>
    rw [List.cons_append, moduleLines, ih, moduleLines, List.length_cons, Nat.add_right_comm,
      Nat.add_assoc, List.cons_append]

/-- The first module line stands at the start of the text, where the nesting is found. -/
theorem find?_moduleLines (outer : List Text) {name : Text} (h : IsWord name)
    (rest : List Line) :
    find? outer (render defaultIndent (moduleLines 0 (outer ++ [name]) ++ rest)) = some name := by
  have hstart : ∀ first (lines : List Line), (render defaultIndent
      (.code 0 ("module " ++ first) :: lines)).trimLeft =
      render defaultIndent (.code 0 ("module " ++ first) :: lines) := by
    intro first lines
    rw [trimLeft_render_module, render_cons]
    simp [Line.text, indentation]
  have htrim : (render defaultIndent (moduleLines 0 (outer ++ [name]) ++ rest)).trimLeft =
      render defaultIndent (moduleLines 0 (outer ++ [name]) ++ rest) := by
    cases outer with
    | nil => exact hstart name rest
    | cons first inner => exact hstart first _
  refine find?_of_here? ?_
  rw [here?, ← htrim, moduleLines_concat, List.append_assoc, afterNesting?_moduleLines,
    Option.bind_some, List.singleton_append, trimLeft_render_module]
  exact opened?_module h _

end Submodule

end ClientFacade
