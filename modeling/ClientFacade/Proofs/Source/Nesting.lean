import ClientFacade.Proofs.Source.Extraction
import ClientFacade.Proofs.Source.LineEnds

/-!
# Where a submodule is declared

A text declares a submodule behind some beginning of it if the openings of the outer modules, the
opening of the submodule and a gap stand there, one after the other. The search finds the
declaration with the shortest beginning, and it finds one just if there is any. Nothing can be read
in two ways at one place: a gap ends where the next `module` starts, and a name is all that stands
between two blanks.
-/

namespace ClientFacade.Submodule

/-- A gap is a run of blanks that is not empty. -/
structure IsGap (text : Text) : Prop where
  ne_nil : text ≠ []
  blank : ∀ c ∈ text, isBlank c = true

/-- What stands in front of the name of a submodule: the openings of the modules of `nesting` and
`module` with one blank. -/
inductive Front : List Text → Text → Prop
  | own {blank : Char} : isBlank blank = true → Front [] ("module" ++ [blank])
  | inside {blank : Char} {name gap front : Text} {inner : List Text} : isBlank blank = true →
      IsGap gap → Front inner front →
      Front (name :: inner) ("module" ++ blank :: (name ++ (gap ++ front)))

/-- The parts of a text that declares the submodule `name` behind `before`. -/
structure Declaration (nesting : List Text) (text before front name gap after : Text) : Prop where
  nested : Front nesting front
  word : IsWord name
  isGap : IsGap gap
  eq_append : text = before ++ (front ++ (name ++ (gap ++ after)))

/-- Whether the text declares the submodule `name` behind `before`. -/
def Declares (nesting : List Text) (text before name : Text) : Prop :=
  ∃ front gap after, Declaration nesting text before front name gap after

theorem Front.head {nesting : List Text} {front : Text} (h : Front nesting front) (rest : Text) :
    ∀ c ∈ (front ++ rest).head?, isBlank c = false := by
  intro c hc
  have hm : c = 'm' := by cases h <;> simpa using hc.symm
  rw [hm]
  decide

theorem Front.last {nesting : List Text} {front : Text} (h : Front nesting front) :
    ∃ blank, front.getLast? = some blank ∧ isBlank blank = true := by
  induction h with
  | @own blank hblank => exact ⟨blank, by simp, hblank⟩
  | @inside blank name gap front inner _ _ _ ih =>
    obtain ⟨last, hlast, hblank⟩ := ih
    refine ⟨last, ?_, hblank⟩
    have hne : front ≠ [] := by
      rintro rfl
      cases hlast
    have happend : ("module" : Text) ++ blank :: (name ++ (gap ++ front)) =
        ("module" ++ blank :: (name ++ gap)) ++ front := by simp
    rw [happend, List.getLast?_append_of_ne_nil _ hne, hlast]

theorem afterBlanks?_eq_some_iff {text rest : Text} : afterBlanks? text = some rest ↔
    ∃ gap, IsGap gap ∧ text = gap ++ rest ∧ ∀ c ∈ rest.head?, isBlank c = false := by
  constructor
  · intro h
    cases text with
    | nil => cases h
    | cons c more =>
      unfold afterBlanks? at h
      dsimp only at h
      split_ifs at h with hc
      obtain rfl := Option.some.inj h
      refine ⟨c :: more.takeWhile isBlank, ⟨List.cons_ne_nil _ _, ?_⟩, ?_, Text.trimLeft_head more⟩
      · rw [List.forall_mem_cons]
        exact ⟨hc, fun d hd => List.mem_takeWhile_imp hd⟩
      · rw [Text.trimLeft, List.cons_append, List.takeWhile_append_dropWhile]
  · rintro ⟨gap, hgap, rfl, hhead⟩
    obtain ⟨c, more, rfl⟩ := List.exists_cons_of_ne_nil hgap.ne_nil
    obtain ⟨hc, hmore⟩ := List.forall_mem_cons.mp hgap.blank
    have htrim : Text.trimLeft (more ++ rest) = rest := by
      rw [Text.trimLeft_append hmore]
      cases rest with
      | nil => rfl
      | cons d others => exact Text.trimLeft_cons (hhead d rfl) others
    rw [List.cons_append, afterBlanks?, if_pos hc, htrim]

theorem afterModule?_eq_some_iff {text rest : Text} : afterModule? text = some rest ↔
    ∃ blank, isBlank blank = true ∧ text = "module" ++ blank :: rest := by
  constructor
  · exact afterModule?_eq_some
  · rintro ⟨blank, hblank, rfl⟩
    rw [afterModule?, Text.dropBeginning?_append]
    exact if_pos hblank

theorem afterOpening?_eq_some_iff {name text rest : Text} : afterOpening? name text = some rest ↔
    ∃ blank gap, isBlank blank = true ∧ IsGap gap ∧
      text = "module" ++ blank :: (name ++ (gap ++ rest)) ∧
      ∀ c ∈ rest.head?, isBlank c = false := by
  simp only [afterOpening?, Option.bind_eq_some_iff, afterModule?_eq_some_iff,
    Text.dropBeginning?_eq_some_iff, afterBlanks?_eq_some_iff]
  constructor
  · rintro ⟨_, ⟨blank, hblank, rfl⟩, _, rfl, gap, hgap, rfl, hhead⟩
    exact ⟨blank, gap, hblank, hgap, rfl, hhead⟩
  · rintro ⟨blank, gap, hblank, hgap, rfl, hhead⟩
    exact ⟨_, ⟨blank, hblank, rfl⟩, _, rfl, gap, hgap, rfl, hhead⟩

theorem opened?_eq_some_iff {text name : Text} : opened? text = some name ↔
    ∃ blank gap after, isBlank blank = true ∧ IsWord name ∧ IsGap gap ∧
      text = "module" ++ blank :: (name ++ (gap ++ after)) := by
  constructor
  · intro h
    have hword := isWord_of_opened? h
    obtain ⟨rest, hmodule, hname⟩ := Option.bind_eq_some_iff.mp h
    obtain ⟨blank, hblank, rfl⟩ := afterModule?_eq_some_iff.mp hmodule
    dsimp only at hname
    split_ifs at hname
    obtain ⟨after, hafter, rfl⟩ := Option.map_eq_some_iff.mp hname
    obtain ⟨gap, hgap, hrest, -⟩ := afterBlanks?_eq_some_iff.mp hafter
    refine ⟨blank, gap, after, hblank, hword, hgap, ?_⟩
    rw [← hrest, List.takeWhile_append_dropWhile]
  · rintro ⟨blank, gap, after, hblank, hword, hgap, rfl⟩
    obtain ⟨c, more, rfl⟩ := List.exists_cons_of_ne_nil hgap.ne_nil
    have hc : isBlank c = true := hgap.blank c List.mem_cons_self
    rw [opened?, afterModule?_eq_some_iff.mpr ⟨blank, hblank, rfl⟩, Option.bind_some]
    dsimp only
    rw [List.cons_append, Text.takeWhile_word hword.noBlank hc,
      Text.dropWhile_word hword.noBlank hc,
      if_neg hword.ne_nil, afterBlanks?, if_pos hc, Option.map_some]

/-- A declaration right at the start of the text. The names of the outer modules are taken as they
are, so that blanks in them do not count as gaps. -/
theorem here?_eq_some_iff {nesting : List Text} {text name : Text} :
    here? nesting text = some name ↔ Declares nesting text [] name := by
  induction nesting generalizing text with
  | nil =>
    rw [here?, afterNesting?, Option.bind_some, opened?_eq_some_iff]
    constructor
    · rintro ⟨blank, gap, after, hblank, hword, hgap, rfl⟩
      exact ⟨_, gap, after, .own hblank, hword, hgap, by simp⟩
    · rintro ⟨front, gap, after, hfront, hword, hgap, rfl⟩
      cases hfront with
      | @own blank hblank => exact ⟨blank, gap, after, hblank, hword, hgap, by simp⟩
  | cons outer inner ih =>
    have hstep : here? (outer :: inner) text =
        (afterOpening? outer text).bind (here? inner) := by
      rw [here?, afterNesting?, Option.bind_assoc]
      rfl
    rw [hstep, Option.bind_eq_some_iff]
    constructor
    · rintro ⟨rest, hrest, hhere⟩
      obtain ⟨blank, gap, hblank, hgap, rfl, -⟩ := afterOpening?_eq_some_iff.mp hrest
      obtain ⟨front, last, after, hfront, hword, hlast, rfl⟩ := ih.mp hhere
      exact ⟨_, last, after, .inside hblank hgap hfront, hword, hlast, by simp⟩
    · rintro ⟨front, last, after, hfront, hword, hlast, rfl⟩
      cases hfront with
      | @inside blank _ gap front _ hblank hgap hfront =>
        refine ⟨front ++ (name ++ (last ++ after)), ?_, ?_⟩
        · refine afterOpening?_eq_some_iff.mpr ⟨blank, gap, hblank, hgap, by simp, ?_⟩
          exact hfront.head _
        · exact ih.mpr ⟨front, last, after, hfront, hword, hlast, rfl⟩

theorem declares_iff {nesting : List Text} {text before name : Text} :
    Declares nesting text before name ↔
      ∃ rest, text = before ++ rest ∧ here? nesting rest = some name := by
  simp only [here?_eq_some_iff]
  constructor
  · rintro ⟨front, gap, after, hfront, hword, hgap, rfl⟩
    exact ⟨_, rfl, front, gap, after, hfront, hword, hgap, rfl⟩
  · rintro ⟨_, rfl, front, gap, after, hfront, hword, hgap, rfl⟩
    exact ⟨front, gap, after, hfront, hword, hgap, rfl⟩

theorem Declares.unique {nesting : List Text} {text before first second : Text}
    (h : Declares nesting text before first) (hsecond : Declares nesting text before second) :
    first = second := by
  obtain ⟨rest, rfl, hrest⟩ := declares_iff.mp h
  obtain ⟨other, hother, hsecond⟩ := declares_iff.mp hsecond
  rw [← List.append_cancel_left hother, hrest] at hsecond
  exact Option.some.inj hsecond

theorem Declares.cons {nesting : List Text} {c : Char} {text before name : Text}
    (h : Declares nesting text before name) :
    Declares nesting (c :: text) (c :: before) name := by
  obtain ⟨rest, rfl, hrest⟩ := declares_iff.mp h
  exact declares_iff.mpr ⟨rest, rfl, hrest⟩

/-- A declaration starts at the first character or behind it. -/
theorem declares_cons_cases {nesting : List Text} {c : Char} {text before name : Text}
    (h : Declares nesting (c :: text) before name) :
    (before = [] ∧ here? nesting (c :: text) = some name) ∨
      ∃ shorter, before = c :: shorter ∧ Declares nesting text shorter name := by
  obtain ⟨rest, htext, hrest⟩ := declares_iff.mp h
  cases before with
  | nil => exact Or.inl ⟨rfl, by rw [htext]; exact hrest⟩
  | cons d shorter =>
    obtain ⟨rfl, rfl⟩ := List.cons.inj htext
    exact Or.inr ⟨shorter, rfl, declares_iff.mpr ⟨rest, rfl, hrest⟩⟩

theorem exists_declares_of_find? {nesting : List Text} {text name : Text}
    (h : find? nesting text = some name) :
    ∃ before, Declares nesting text before name ∧
      ∀ other later, Declares nesting text other later → before.length ≤ other.length := by
  have hstart : ∀ {text : Text}, here? nesting text = some name →
      ∃ before, Declares nesting text before name ∧
        ∀ other later, Declares nesting text other later → before.length ≤ other.length :=
    fun hhere => ⟨[], declares_iff.mpr ⟨_, rfl, hhere⟩, fun _ _ _ => Nat.zero_le _⟩
  induction text with
  | nil => exact hstart h
  | cons c rest ih =>
    rw [find?] at h
    cases hhere : here? nesting (c :: rest) with
    | some found =>
      rw [hhere] at h
      exact hstart (hhere.trans h)
    | none =>
      rw [hhere] at h
      obtain ⟨before, hbefore, hshortest⟩ := ih h
      refine ⟨c :: before, hbefore.cons, fun other later hother => ?_⟩
      rcases declares_cons_cases hother with ⟨-, hfound⟩ | ⟨shorter, rfl, hshorter⟩
      · rw [hhere] at hfound
        cases hfound
      · exact Nat.succ_le_succ (hshortest shorter later hshorter)

theorem not_declares_of_find? {nesting : List Text} {text : Text} (h : find? nesting text = none)
    (before name : Text) : ¬ Declares nesting text before name := by
  induction text generalizing before with
  | nil =>
    intro hdeclares
    obtain ⟨rest, htext, hrest⟩ := declares_iff.mp hdeclares
    obtain ⟨-, rfl⟩ := List.append_eq_nil_iff.mp htext.symm
    rw [find?, hrest] at h
    cases h
  | cons c rest ih =>
    intro hdeclares
    rw [find?] at h
    cases hhere : here? nesting (c :: rest) with
    | some found =>
      rw [hhere] at h
      cases h
    | none =>
      rw [hhere] at h
      rcases declares_cons_cases hdeclares with ⟨-, hfound⟩ | ⟨shorter, rfl, hshorter⟩
      · rw [hhere] at hfound
        cases hfound
      · exact ih h shorter hshorter

theorem find?_eq_none_iff {nesting : List Text} {text : Text} :
    find? nesting text = none ↔ ¬ ∃ before name, Declares nesting text before name := by
  constructor
  · rintro h ⟨before, name, hdeclares⟩
    exact not_declares_of_find? h before name hdeclares
  · intro hnone
    cases hfind : find? nesting text with
    | none => rfl
    | some name =>
      obtain ⟨before, hbefore, -⟩ := exists_declares_of_find? hfind
      exact absurd ⟨before, name, hbefore⟩ hnone

theorem find?_eq_some_iff {nesting : List Text} {text name : Text} :
    find? nesting text = some name ↔ ∃ before, Declares nesting text before name ∧
      ∀ other later, Declares nesting text other later → before.length ≤ other.length := by
  constructor
  · exact exists_declares_of_find?
  · rintro ⟨before, hbefore, hshortest⟩
    cases hfind : find? nesting text with
    | none => exact absurd hbefore (not_declares_of_find? hfind before name)
    | some found =>
      obtain ⟨first, hfirst, hfirstShortest⟩ := exists_declares_of_find? hfind
      have hlength : first.length = before.length :=
        Nat.le_antisymm (hfirstShortest before name hbefore) (hshortest first found hfirst)
      obtain ⟨rest, hrest, -⟩ := declares_iff.mp hbefore
      obtain ⟨later, hlater, -⟩ := declares_iff.mp hfirst
      obtain ⟨rfl, -⟩ := List.append_inj (hlater.symm.trans hrest) hlength
      rw [hfirst.unique hbefore]

theorem Declaration.maximal {nesting : List Text} {text before front name gap after : Text}
    (h : Declaration nesting text before front name gap after) :
    (name ++ (gap ++ after)).takeWhile (!isBlank ·) = name := by
  obtain ⟨c, more, rfl⟩ := List.exists_cons_of_ne_nil h.isGap.ne_nil
  exact Text.takeWhile_word h.word.noBlank (h.isGap.blank c List.mem_cons_self) _

/-- The search is sound, complete and takes the first place. The name that it finds at a place is
the only one there, and it fills the space between a blank and the next one. -/
theorem search_takes_first_declaration (nesting : List Text) (text : Text) :
    (∀ name, find? nesting text = some name ↔ ∃ before, Declares nesting text before name ∧
      ∀ other later, Declares nesting text other later → before.length ≤ other.length) ∧
    (find? nesting text = none ↔ ¬ ∃ before name, Declares nesting text before name) ∧
    ∀ before front name gap after, Declaration nesting text before front name gap after →
      (∀ other, Declares nesting text before other → other = name) ∧
      (∃ blank, front.getLast? = some blank ∧ isBlank blank = true) ∧
      (name ++ (gap ++ after)).takeWhile (!isBlank ·) = name := by
  refine ⟨fun name => find?_eq_some_iff, find?_eq_none_iff, ?_⟩
  intro before front name gap after h
  have hdeclares : Declares nesting text before name := ⟨front, gap, after, h⟩
  exact ⟨fun other hother => hother.unique hdeclares, h.nested.last, h.maximal⟩

/-- The name `A` with a blank of its own leaves a gap behind it, and the end of the text is none. -/
example : find? ["A "] "module A module A  module B\n" = some "B" ∧
    find? ["A"] "module A module B" = none := by decide

end ClientFacade.Submodule
