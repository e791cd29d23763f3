import ClientFacade.Proofs.Text.Returns
import ClientFacade.Source.Extraction
import Mathlib.Data.List.Infix

/-!
# Sources with other line ends

What is extracted from a source does not change if its lines end with a carriage return and a line
feed. The lines that a scanner sees are the same. The submodule is found by blanks and words, and
the two texts agree on these wherever the search reads a run of blanks. Only behind `module` it
reads a single one, so there the line must not end.
-/

namespace ClientFacade

namespace Submodule

open Text (withReturns)

/-- No line ends right behind `module`. -/
def Unbroken (text : Text) : Prop := ¬ ("module\n" : Text) <:+: text

instance (text : Text) : Decidable (Unbroken text) := inferInstanceAs (Decidable (¬ _))

theorem Unbroken.of_suffix {text rest : Text} (h : Unbroken text) (hrest : rest <:+ text) :
    Unbroken rest :=
  fun hpart => h (hpart.trans hrest.isInfix)

theorem afterBlanks?_suffix {text rest : Text} (h : afterBlanks? text = some rest) :
    rest <:+ text := by
  cases text with
  | nil => cases h
  | cons c more =>
    unfold afterBlanks? at h
    dsimp only at h
    split_ifs at h
    obtain rfl := Option.some.inj h
    exact (List.dropWhile_suffix isBlank).trans (List.suffix_cons c more)

theorem afterModule?_eq_some {text rest : Text} (h : afterModule? text = some rest) :
    ∃ c, isBlank c = true ∧ text = "module" ++ c :: rest := by
  unfold afterModule? at h
  split at h
  next c more hfound =>
    split_ifs at h with hblank
    obtain rfl := Option.some.inj h
    exact ⟨c, hblank, Text.dropBeginning?_eq_some_iff.mp hfound⟩
  next => cases h

theorem afterModule?_suffix {text rest : Text} (h : afterModule? text = some rest) :
    rest <:+ text := by
  obtain ⟨c, -, rfl⟩ := afterModule?_eq_some h
  exact (List.suffix_cons c rest).trans (List.suffix_append _ _)

theorem afterOpening?_suffix {name text rest : Text} (h : afterOpening? name text = some rest) :
    rest <:+ text := by
  obtain ⟨inner, hmodule, hname⟩ := Option.bind_eq_some_iff.mp h
  obtain ⟨behind, hbehind, hblanks⟩ := Option.bind_eq_some_iff.mp hname
  have hinner : behind <:+ inner := by
    rw [Text.dropBeginning?_eq_some_iff.mp hbehind]
    apply List.suffix_append
  exact (afterBlanks?_suffix hblanks).trans (hinner.trans (afterModule?_suffix hmodule))

theorem afterBlanks?_withReturns (text : Text) :
    afterBlanks? (withReturns text) = (afterBlanks? text).map withReturns := by
  cases text with
  | nil => rfl
  | cons c rest =>
    by_cases hc : c = '\n'
    · subst hc
      apply congrArg some
      exact Text.trimLeft_withReturns rest
    · rw [Text.withReturns_cons hc, afterBlanks?, afterBlanks?]
      split_ifs
      · rw [Option.map_some, Text.trimLeft_withReturns]
      · rfl

theorem afterModule?_withReturns {text : Text} (h : Unbroken text) :
    afterModule? (withReturns text) = (afterModule? text).map withReturns := by
  have hmodule : Text.dropBeginning? "module" (withReturns text) =
      (Text.dropBeginning? "module" text).map withReturns :=
    Text.dropBeginning?_withReturns (by decide) (by decide) text
  rw [afterModule?, afterModule?, hmodule]
  cases hrest : Text.dropBeginning? "module" text with
  | none => rfl
  | some rest =>
    cases rest with
    | nil => rfl
    | cons c rest =>
      have hc : c ≠ '\n' := by
        rintro rfl
        apply h
        rw [Text.dropBeginning?_eq_some_iff.mp hrest]
        exact (List.prefix_append ("module\n" : Text) rest).isInfix
      rw [Option.map_some, Text.withReturns_cons hc]
      dsimp only
      split_ifs
      · rfl
      · rfl

theorem afterOpening?_withReturns {name text : Text} (hname : '\r' ∉ name ∧ '\n' ∉ name)
    (h : Unbroken text) :
    afterOpening? name (withReturns text) = (afterOpening? name text).map withReturns := by
  rw [afterOpening?, afterOpening?, afterModule?_withReturns h]
  cases afterModule? text with
  | none => rfl
  | some rest =>
    rw [Option.map_some, Option.bind_some, Option.bind_some,
      Text.dropBeginning?_withReturns hname.1 hname.2]
    cases Text.dropBeginning? name rest with
    | none => rfl
    | some behind => exact afterBlanks?_withReturns behind

theorem opened?_withReturns {text : Text} (h : Unbroken text) :
    opened? (withReturns text) = opened? text := by
  rw [opened?, opened?, afterModule?_withReturns h]
  cases afterModule? text with
  | none => rfl
  | some rest =>
    simp only [Option.map_some, Option.bind_some, Text.takeWhile_withReturns,
      Text.dropWhile_withReturns, afterBlanks?_withReturns, Option.map_map, Function.comp_def]

theorem here?_withReturns {nesting : List Text} {text : Text}
    (hnames : ∀ name ∈ nesting, '\r' ∉ name ∧ '\n' ∉ name) (h : Unbroken text) :
    here? nesting (withReturns text) = here? nesting text := by
  induction nesting generalizing text with
  | nil => exact opened?_withReturns h
  | cons name inner ih =>
    obtain ⟨hname, hinner⟩ := List.forall_mem_cons.mp hnames
    unfold here? at ih ⊢
    rw [afterNesting?, afterNesting?, afterOpening?_withReturns hname h]
    cases hopening : afterOpening? name text with
    | none => rfl
    | some rest =>
      rw [Option.map_some, Option.bind_some, Option.bind_some]
      exact ih hinner (h.of_suffix (afterOpening?_suffix hopening))

/-- A nesting starts with `module`, so that none starts at a line end. -/
theorem here?_eq_none {c : Char} (hc : c ≠ 'm') (nesting : List Text) (rest : Text) :
    here? nesting (c :: rest) = none := by
  have hmodule : afterModule? (c :: rest) = none := by
    apply Option.eq_none_iff_forall_ne_some.mpr
    intro found hfound
    obtain ⟨blank, -, htext⟩ := afterModule?_eq_some hfound
    exact hc (List.cons.inj htext).1
  cases nesting with
  | nil => rw [here?, afterNesting?, Option.bind_some, opened?, hmodule, Option.bind_none]
  | cons name inner =>
    rw [here?, afterNesting?, afterOpening?, hmodule, Option.bind_none, Option.bind_none,
      Option.bind_none]

theorem find?_cons_of_ne {c : Char} (hc : c ≠ 'm') (nesting : List Text) (rest : Text) :
    find? nesting (c :: rest) = find? nesting rest := by
  rw [find?, here?_eq_none hc]

theorem find?_withReturns {nesting : List Text} {text : Text}
    (hnames : ∀ name ∈ nesting, '\r' ∉ name ∧ '\n' ∉ name) (h : Unbroken text) :
    find? nesting (withReturns text) = find? nesting text := by
  induction text with
  | nil => rfl
  | cons c rest ih =>
    have hrest := ih (h.of_suffix (List.suffix_cons c rest))
    by_cases hc : c = '\n'
    · subst hc
      rw [Text.withReturns_feed, find?_cons_of_ne (by decide), find?_cons_of_ne (by decide),
        find?_cons_of_ne (by decide), hrest]
    · have hhere := here?_withReturns hnames h
      rw [Text.withReturns_cons hc] at hhere ⊢
      rw [find?, find?, hhere, hrest]

end Submodule

namespace Source

def withReturns (source : Source) : Source := { source with text := source.text.withReturns }

theorem methods_withReturns {source : Source} (h : '\r' ∉ source.text) :
    source.withReturns.methods = source.methods := by
  unfold methods Scanner.methods Scanner.scan withReturns
  rw [Text.lines_withReturns h]

/-- Both the result and the records of an extraction are the same for both kinds of line ends. -/
theorem extraction_withReturns (nesting : List Text) (source : Source)
    (hnames : ∀ name ∈ nesting, '\r' ∉ name ∧ '\n' ∉ name) (hreturn : '\r' ∉ source.text)
    (hmodule : ¬ ("module\n" : Text) <:+: source.text) :
    source.withReturns.extraction? nesting = source.extraction? nesting ∧
      source.withReturns.reports nesting = source.reports nesting := by
  have hsubmodule : source.withReturns.submodule? nesting = source.submodule? nesting :=
    Submodule.find?_withReturns hnames hmodule
  have hextraction : source.withReturns.extraction? nesting = source.extraction? nesting := by
    rw [extraction?, extraction?, hsubmodule, methods_withReturns hreturn]
    rfl
  refine ⟨hextraction, ?_⟩
  unfold reports
  rw [hextraction]
  rfl

/-- Blanks of several kinds between the modules, comment lines and an unclosed parameter list. -/
def spacedSource : Source where
  path := "foo.rb"
  text := "module\tLine\n\n  module Bot \nmodule V2\n\nmodule Foo\n\n  # Sends.\n" ++
    ("  #\n  def send(to)\n\n  def raw(to\n" : Text)

theorem extraction_withReturns_of_spacedSource :
    spacedSource.withReturns.extraction? ["Line", "Bot", "V2"] =
        some ⟨"Foo", "foo.rb",
          [⟨["  # Sends.", "  #"], "def send(to)"⟩, ⟨[], "def raw(to"⟩]⟩ ∧
      (spacedSource.withReturns.reports ["Line", "Bot", "V2"]).length = 2 := by
  obtain ⟨hextraction, hreports⟩ := extraction_withReturns ["Line", "Bot", "V2"] spacedSource
    (by decide) (by decide +kernel) (by decide +kernel)
  rw [hextraction, hreports]
  refine ⟨?_, ?_⟩
  · decide +kernel
  · decide +kernel

/-- A line that ends right behind `module` is the exception: only one of the two characters of the
other line end is read there. -/
example : Submodule.find? [] "module\nFoo\n" = some "Foo" ∧
    Submodule.find? [] (Text.withReturns "module\nFoo\n") = none := by decide +kernel

end Source

end ClientFacade
