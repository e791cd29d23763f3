import ClientFacade.Settings.Basic
import Mathlib.Computability.Language

/-!
# The language of constant names

Constant names are one capital letter and then any letters, digits and underscores, all of ASCII.
The name of a module is a constant name whose end may still be followed by one line feed.
-/

namespace ClientFacade

open Computability

/-- The ranges that a character may be in. -/
abbrev Ranges := List (Char × Char)

def Ranges.Hold (ranges : Ranges) (c : Char) : Prop :=
  ∃ range ∈ ranges, range.1 ≤ c ∧ c ≤ range.2

/-- The texts of one character out of the ranges. -/
def oneOf (ranges : Ranges) : Language Char := {text | ∃ c, ranges.Hold c ∧ text = [c]}

theorem mem_oneOf {ranges : Ranges} {text : Text} :
    text ∈ oneOf ranges ↔ ∃ c, ranges.Hold c ∧ text = [c] := Iff.rfl

theorem mem_kstar_oneOf {ranges : Ranges} {text : Text} :
    text ∈ (oneOf ranges)∗ ↔ ∀ c ∈ text, ranges.Hold c := by
  rw [Language.mem_kstar]
  constructor
  · rintro ⟨parts, rfl, hparts⟩ c hc
    obtain ⟨part, hpart, hmem⟩ := List.mem_flatten.mp hc
    obtain ⟨d, hd, rfl⟩ := mem_oneOf.mp (hparts part hpart)
    rwa [List.mem_singleton.mp hmem]
  · intro h
    refine ⟨text.map fun c => [c], (List.flatMap_singleton' text).symm, ?_⟩
    intro part hpart
    obtain ⟨c, hc, rfl⟩ := List.mem_map.mp hpart
    exact mem_oneOf.mpr ⟨c, h c hc, rfl⟩

def capitals : Ranges := [('A', 'Z')]

def nameChars : Ranges := [('A', 'Z'), ('a', 'z'), ('0', '9'), ('_', '_')]

def constants : Language Char := oneOf capitals * (oneOf nameChars)∗

/-- What may stand behind the constant name in the name of a module. -/
def finalFeed : Language Char := 1 + {['\n']}

theorem hold_capitals {c : Char} : capitals.Hold c ↔ isCapital c = true := by
  simp [Ranges.Hold, capitals, isCapital]

theorem hold_nameChars {c : Char} : nameChars.Hold c ↔ isNameChar c = true := by
  have hunderscore : '_' ≤ c ∧ c ≤ '_' ↔ c = '_' :=
    ⟨fun h => Char.le_antisymm h.2 h.1, fun h => h ▸ ⟨Char.le_refl _, Char.le_refl _⟩⟩
  simp [Ranges.Hold, nameChars, isNameChar, isCapital, hunderscore, or_assoc]

theorem mem_constants_iff {name : Text} : name ∈ constants ↔ isConstantName name = true := by
  rw [constants, Language.mem_mul]
  constructor
  · rintro ⟨first, hfirst, rest, hrest, rfl⟩
    obtain ⟨c, hc, rfl⟩ := mem_oneOf.mp hfirst
    rw [List.singleton_append, isConstantName, Bool.and_eq_true, List.all_eq_true]
    exact ⟨hold_capitals.mp hc, fun d hd => hold_nameChars.mp (mem_kstar_oneOf.mp hrest d hd)⟩
  · intro h
    cases name with
    | nil => cases h
    | cons c rest =>
      rw [isConstantName, Bool.and_eq_true, List.all_eq_true] at h
      refine ⟨[c], mem_oneOf.mpr ⟨c, hold_capitals.mpr h.1, rfl⟩, rest, ?_, rfl⟩
      exact mem_kstar_oneOf.mpr fun d hd => hold_nameChars.mpr (h.2 d hd)

theorem feed_not_mem_of_mem_constants {name : Text} (h : name ∈ constants) : '\n' ∉ name := by
  obtain ⟨first, hfirst, rest, hrest, rfl⟩ := Language.mem_mul.mp h
  have hfeed : ¬ nameChars.Hold '\n' := by
    rw [hold_nameChars]
    decide
  obtain ⟨c, hc, rfl⟩ := mem_oneOf.mp hfirst
  intro hm
  rcases List.mem_cons.mp hm with rfl | hm
  · rw [hold_capitals] at hc
    exact absurd hc (by decide)
  · exact hfeed (mem_kstar_oneOf.mp hrest '\n' hm)

theorem not_isConstantName_append_feed (text : Text) :
    ¬ isConstantName (text ++ ['\n']) = true := by
  intro h
  exact feed_not_mem_of_mem_constants (mem_constants_iff.mpr h) (by simp)

theorem dropFinalFeed_append_feed (text : Text) : dropFinalFeed (text ++ ['\n']) = text := by
  rw [dropFinalFeed, if_pos (by simp), List.dropLast_concat]

theorem dropFinalFeed_eq_self {name : Text} (h : isConstantName name = true) :
    dropFinalFeed name = name := by
  refine if_neg fun hlast => ?_
  exact feed_not_mem_of_mem_constants (mem_constants_iff.mpr h) (List.mem_of_getLast? hlast)

theorem isModuleName_iff {name : Text} :
    isModuleName name = true ↔ isConstantName name = true ∨
      ∃ constant, isConstantName constant = true ∧ name = constant ++ ['\n'] := by
  constructor
  · intro h
    by_cases hlast : name.getLast? = some '\n'
    · obtain ⟨constant, rfl⟩ := List.getLast?_eq_some_iff.mp hlast
      rw [isModuleName, dropFinalFeed_append_feed] at h
      exact Or.inr ⟨constant, h, rfl⟩
    · rw [isModuleName, dropFinalFeed, if_neg hlast] at h
      exact Or.inl h
  · rintro (h | ⟨constant, h, rfl⟩)
    · rwa [isModuleName, dropFinalFeed_eq_self h]
    · rwa [isModuleName, dropFinalFeed_append_feed]

/-- The names of modules are the constant names, each of them also with a line feed behind it. -/
theorem mem_constants_mul_finalFeed_iff {name : Text} :
    name ∈ constants * finalFeed ↔ isModuleName name = true := by
  rw [finalFeed, mul_add, mul_one, Language.mem_add, Language.mem_mul, isModuleName_iff,
    mem_constants_iff]
  constructor
  · rintro (h | ⟨constant, hconstant, ending, rfl, rfl⟩)
    · exact Or.inl h
    · exact Or.inr ⟨constant, mem_constants_iff.mp hconstant, rfl⟩
  · rintro (h | ⟨constant, hconstant, rfl⟩)
    · exact Or.inl h
    · exact Or.inr ⟨constant, mem_constants_iff.mpr hconstant, ['\n'], rfl, rfl⟩

end ClientFacade
