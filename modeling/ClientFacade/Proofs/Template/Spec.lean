import ClientFacade.Proofs.Outcome
import ClientFacade.Template.Render
import Mathlib.Data.List.Forall2

/-!
# Specs that take characters from the name

A nested spec may take characters from the submodule name. No character of the probe, quoted or not,
means anything in a spec, except that any character may stand before an alignment mark, where it is
the fill character. So a spec that is usable for the probe has at most one character of the name in
it, and stays usable when this character is another one.
-/

namespace ClientFacade

namespace Template

/-- Whether a character occurs in the quoted probe. -/
def isMark (c : Char) : Bool := (Text.quoted probe).contains c

/-- A text without characters of the probe. -/
def Clean (text : Text) : Prop := ∀ c ∈ text, isMark c = false

theorem clean_nil : Clean [] := by simp [Clean]

theorem clean_cons {c : Char} {text : Text} :
    Clean (c :: text) ↔ isMark c = false ∧ Clean text := by
  simp [Clean]

theorem clean_append {first second : Text} :
    Clean (first ++ second) ↔ Clean first ∧ Clean second := by
  simp [Clean, or_imp, forall_and]

theorem isMark_of_mem_probe {c : Char} (h : c ∈ probe) : isMark c = true :=
  List.all_eq_true.mp (show probe.all isMark = true by decide +kernel) c h

theorem exists_of_isMark {c : Char} (h : isMark c = true) : c ∈ Text.quoted probe := by
  simpa [isMark] using h

/-- A character that is read as something else is no mark if no mark is read so. -/
theorem isMark_eq_false_of_read {α : Type} {read : Char → Option α} {c : Char} {a : α}
    (hnone : ((Text.quoted probe).all fun mark => (read mark).isNone) = true)
    (h : read c = some a) : isMark c = false := by
  by_contra hmark
  have hread := List.all_eq_true.mp hnone c (exists_of_isMark (by simpa using hmark))
  rw [h] at hread
  cases hread

theorem isMark_eq_false_of_digit {c : Char} {digit : Nat} (h : digitValue? c = some digit) :
    isMark c = false := isMark_eq_false_of_read (by decide +kernel) h

theorem isMark_eq_false_of_alignment {c : Char} {alignment : Alignment}
    (h : Alignment.ofChar? c = some alignment) : isMark c = false :=
  isMark_eq_false_of_read (by decide +kernel) h

namespace Layout

theorem clean_of_readCounter {value count : Nat} {text : Text} {found : Nat × Nat × Text}
    (h : readCounter value count text = some found) (hrest : Clean found.2.2) : Clean text := by
  induction text generalizing value count with
  | nil => exact clean_nil
  | cons c rest ih =>
    unfold readCounter at h
    cases hdigit : digitValue? c with
    | none =>
      rw [hdigit] at h
      cases h
      exact hrest
    | some digit =>
      rw [hdigit] at h
      dsimp only at h
      split_ifs at h with hlimit
      exact clean_cons.mpr ⟨isMark_eq_false_of_digit hdigit, ih h⟩

theorem clean_of_readNumber {text rest : Text} {number : Option Nat}
    (h : readNumber text = .ok (number, rest)) (hrest : Clean rest) : Clean text := by
  unfold readNumber at h
  cases hcounter : readCounter 0 0 text with
  | none => simp [hcounter] at h
  | some found =>
    obtain ⟨value, count, tail⟩ := found
    simp only [hcounter, Except.ok.injEq, Prod.mk.injEq] at h
    obtain ⟨-, rfl⟩ := h
    exact clean_of_readCounter hcounter hrest

theorem clean_of_readMark {mark : Char} (hmark : isMark mark = false) {text : Text}
    (hrest : Clean (readMark mark text).2) : Clean text := by
  cases text with
  | nil => exact clean_nil
  | cons c rest =>
    by_cases hc : c = mark
    · subst hc
      simp only [readMark, if_pos] at hrest
      exact clean_cons.mpr ⟨hmark, hrest⟩
    · simpa [readMark, hc] using hrest

theorem readMark_of_not_read {mark : Char} {text : Text} (h : (readMark mark text).1 = false) :
    (readMark mark text).2 = text := by
  cases text with
  | nil => rfl
  | cons c rest =>
    by_cases hc : c = mark
    · simp [readMark, hc] at h
    · simp [readMark, hc]

theorem readSign_of_none {text : Text} (h : (readSign text).1 = none) :
    (readSign text).2 = text := by
  cases text with
  | nil => rfl
  | cons c rest =>
    by_cases hc : c = ' ' ∨ c = '+' ∨ c = '-'
    · simp [readSign, hc] at h
    · simp [readSign, hc]

theorem clean_of_readPrecision {text rest : Text} {number : Option Nat}
    (h : readPrecision text = .ok (number, rest)) (hrest : Clean rest) : Clean text := by
  unfold readPrecision at h
  cases hmark : readMark '.' text with
  | mk read tail =>
    have hpoint : isMark '.' = false := by decide +kernel
    have htail : Clean tail → Clean text := by
      intro hclean
      refine clean_of_readMark hpoint ?_
      rwa [hmark]
    rw [hmark] at h
    cases read with
    | false =>
      simp only [Except.ok.injEq, Prod.mk.injEq] at h
      rw [h.2] at htail
      exact htail hrest
    | true =>
      obtain ⟨⟨value, after⟩, hnumber, hvalue⟩ := except_bind_eq_ok_iff.mp h
      cases value with
      | none => simp at hvalue
      | some value =>
        simp only [Except.ok.injEq, Prod.mk.injEq] at hvalue
        rw [← hvalue.2] at hrest
        exact htail (clean_of_readNumber hnumber hrest)

/-- A text has no groups of digits, so that a separator is always refused. -/
theorem readSeparator_of_check {text rest : Text} {separator : Option Char}
    (h : readSeparator text = .ok (separator, rest))
    (hcheck : checkSeparator separator 's' = .ok ()) : rest = text := by
  have hseparator : separator = none := by
    cases separator with
    | none => rfl
    | some separator =>
      have hgroups : groups separator 's' = false := by simp [groups]
      simp [checkSeparator, hgroups] at hcheck
  subst hseparator
  unfold readSeparator at h
  dsimp only at h
  split_ifs at h with hboth hcomma hunderscore
  · simp at h
  · simp at h
  · simp only [Except.ok.injEq, Prod.mk.injEq, true_and] at h
    rw [← h, readMark_of_not_read (by simpa using hunderscore),
      readMark_of_not_read (by simpa using hcomma)]

theorem clean_of_readKind {spec text : Text} (h : readKind spec text = .ok 's') : Clean text := by
  match text with
  | [] => exact clean_nil
  | [c] =>
    obtain rfl : c = 's' := by simpa [readKind] using h
    exact clean_cons.mpr ⟨by decide +kernel, clean_nil⟩
  | _ :: _ :: _ => simp [readKind] at h

theorem readKind_congr {spec other text : Text} {kind : Char} (h : readKind spec text = .ok kind) :
    readKind other text = .ok kind := by
  match text with
  | [] => exact h
  | [_] => exact h
  | _ :: _ :: _ => simp [readKind] at h

/-- What stands behind the marks that only numbers can have. -/
def behindMarks (text : Text) : Text := (readMark '#' (readMark 'z' (readSign text).2).2).2

/-- Whether zeros fill the field, and what stands behind the zero that says so. -/
def readZero (fill : Option Char) (text : Text) : Bool × Text :=
  if fill.isNone then readMark '0' text else (false, text)

def readBehind (spec : Text) (fill : Option Char) (alignment : Option Alignment) (rest : Text) :
    Except Fault Layout := do
  let width ← readNumber (readZero fill (behindMarks rest)).2
  let separator ← readSeparator width.2
  let precision ← readPrecision separator.2
  let kind ← readKind spec precision.2
  checkSeparator separator.1 kind
  return {
    fill := fill.getD (if (readZero fill (behindMarks rest)).1 then '0' else ' ')
    alignment := alignment.getD .left
    sign := (readSign rest).1
    zeroCoercion := (readMark 'z' (readSign rest).2).1
    alternate := (readMark '#' (readMark 'z' (readSign rest).2).2).1
    width := width.1
    precision := precision.1
    kind := kind }

theorem ofSpec_eq (spec : Text) :
    ofSpec spec = readBehind spec (readAlignment spec).1 (readAlignment spec).2.1
      (readAlignment spec).2.2 := rfl

variable {spec rest : Text} {fill : Option Char} {alignment : Option Alignment} {layout : Layout}

theorem refusal?_eq_none [Machine] (h : layout.refusal? = none) :
    layout.kind = 's' ∧ layout.sign = none ∧ layout.zeroCoercion = false ∧
      layout.alternate = false := by
  unfold refusal? at h
  split_ifs at h
  simp_all

theorem clean_of_readBehind [Machine] (h : readBehind spec fill alignment rest = .ok layout)
    (husable : layout.refusal? = none) : Clean rest := by
  obtain ⟨width, hwidth, h₁⟩ := except_bind_eq_ok_iff.mp h
  obtain ⟨separator, hseparator, h₂⟩ := except_bind_eq_ok_iff.mp h₁
  obtain ⟨precision, hprecision, h₃⟩ := except_bind_eq_ok_iff.mp h₂
  obtain ⟨kind, hkind, h₄⟩ := except_bind_eq_ok_iff.mp h₃
  obtain ⟨checked, hcheck, h₅⟩ := except_bind_eq_ok_iff.mp h₄
  obtain rfl := Except.ok.inj h₅
  obtain ⟨hs, hsign, hcoercion, halternate⟩ := refusal?_eq_none husable
  dsimp only at hs hsign hcoercion halternate
  subst hs
  have hmarks : behindMarks rest = rest := by
    rw [behindMarks, readMark_of_not_read halternate, readMark_of_not_read hcoercion,
      readSign_of_none hsign]
  have hbehindKind : Clean precision.2 := clean_of_readKind hkind
  have hbehindSeparator : Clean separator.2 := clean_of_readPrecision hprecision hbehindKind
  have hbehindWidth : Clean width.2 := by
    rwa [← readSeparator_of_check hseparator hcheck]
  have hbehindZero := clean_of_readNumber hwidth hbehindWidth
  rw [hmarks] at hbehindZero
  unfold readZero at hbehindZero
  split_ifs at hbehindZero with hfill
  · exact clean_of_readMark (by decide +kernel) hbehindZero
  · exact hbehindZero

/-- Another fill character changes nothing else. -/
theorem readBehind_fill {other : Text} {c d : Char}
    (h : readBehind spec (some c) alignment rest = .ok layout) :
    readBehind other (some d) alignment rest = .ok { layout with fill := d } := by
  obtain ⟨width, hwidth, h₁⟩ := except_bind_eq_ok_iff.mp h
  obtain ⟨separator, hseparator, h₂⟩ := except_bind_eq_ok_iff.mp h₁
  obtain ⟨precision, hprecision, h₃⟩ := except_bind_eq_ok_iff.mp h₂
  obtain ⟨kind, hkind, h₄⟩ := except_bind_eq_ok_iff.mp h₃
  obtain ⟨checked, hcheck, h₅⟩ := except_bind_eq_ok_iff.mp h₄
  obtain rfl := Except.ok.inj h₅
  exact except_bind_eq_ok_iff.mpr ⟨width, hwidth, except_bind_eq_ok_iff.mpr ⟨separator, hseparator,
    except_bind_eq_ok_iff.mpr ⟨precision, hprecision, except_bind_eq_ok_iff.mpr
      ⟨kind, readKind_congr hkind, except_bind_eq_ok_iff.mpr ⟨checked, hcheck, rfl⟩⟩⟩⟩⟩

theorem readAlignment_cases (spec : Text) :
    (∃ c d rest alignment, spec = c :: d :: rest ∧ Alignment.ofChar? d = some alignment ∧
      readAlignment spec = (some c, some alignment, rest)) ∨
    (∃ c rest alignment, spec = c :: rest ∧ Alignment.ofChar? c = some alignment ∧
      readAlignment spec = (none, some alignment, rest)) ∨
    readAlignment spec = (none, none, spec) := by
  match spec with
  | [] => exact .inr (.inr rfl)
  | [c] =>
    cases hc : Alignment.ofChar? c with
    | none => exact .inr (.inr (by simp [readAlignment, hc]))
    | some alignment =>
      exact .inr (.inl ⟨c, [], alignment, rfl, hc, by simp [readAlignment, hc]⟩)
  | c :: d :: rest =>
    cases hd : Alignment.ofChar? d with
    | some alignment =>
      exact .inl ⟨c, d, rest, alignment, rfl, hd, by simp [readAlignment, hd]⟩
    | none =>
      cases hc : Alignment.ofChar? c with
      | none => exact .inr (.inr (by simp [readAlignment, hc, hd]))
      | some alignment =>
        exact .inr (.inl ⟨c, d :: rest, alignment, rfl, hc, by simp [readAlignment, hc, hd]⟩)

def plain : Layout := ⟨' ', .left, none, false, false, none, none, 's'⟩

theorem ofSpec_nil : ofSpec [] = .ok plain := rfl

theorem pad_plain (text : Text) : plain.pad text = text := by
  simp [pad, plain, before]

end Layout

/-- A character is followed by itself, and a character of the probe by any other. -/
def Follows (c d : Char) : Prop := c = d ∨ isMark c = true

theorem forall₂_follows_self (text : Text) : List.Forall₂ Follows text text :=
  List.forall₂_same.mpr fun _ _ => Or.inl rfl

theorem eq_of_follows {first second : Text} (h : List.Forall₂ Follows first second)
    (hclean : Clean first) : first = second := by
  induction h with
  | nil => rfl
  | cons hhead _ ih =>
    obtain ⟨hmark, hrest⟩ := clean_cons.mp hclean
    have hsame := hhead.resolve_right (by simp [hmark])
    rw [hsame, ih hrest]

section Usable

variable [Machine]

/-- A text is laid out as the layout of the spec says, also if the spec is empty. -/
theorem layOut_eq_iff {spec text laid : Text} :
    layOut spec text = .ok laid ↔ ∃ layout, Layout.ofSpec spec = .ok layout ∧
      layout.refusal? = none ∧ layout.pad (layout.cut text) = laid := by
  by_cases hempty : spec = []
  · subst hempty
    constructor
    · intro h
      refine ⟨.plain, Layout.ofSpec_nil, rfl, ?_⟩
      rw [Layout.pad_plain]
      exact Except.ok.inj h
    · rintro ⟨layout, hlayout, -, rfl⟩
      obtain rfl : Layout.plain = layout := Except.ok.inj hlayout
      rw [Layout.pad_plain]
      rfl
  · rw [layOut, if_neg hempty, except_bind_eq_ok_iff]
    refine exists_congr fun layout => and_congr_right fun _ => ?_
    rw [Layout.lay]
    cases layout.refusal? <;> simp

/-- A spec that lays texts out. -/
def Usable (spec : Text) : Prop :=
  spec = [] ∨ ∃ layout, Layout.ofSpec spec = .ok layout ∧ layout.refusal? = none

/-- Whether a spec is usable does not depend on the text that is laid out. -/
theorem layOut_eq_ok_iff {spec text : Text} :
    (∃ laid, layOut spec text = .ok laid) ↔ Usable spec := by
  constructor
  · rintro ⟨laid, hlaid⟩
    obtain ⟨layout, hlayout, hrefusal, -⟩ := layOut_eq_iff.mp hlaid
    exact Or.inr ⟨layout, hlayout, hrefusal⟩
  · rintro (rfl | ⟨layout, hlayout, hrefusal⟩)
    · exact ⟨text, rfl⟩
    · exact ⟨_, layOut_eq_iff.mpr ⟨layout, hlayout, hrefusal, rfl⟩⟩

namespace Usable

variable {spec other : Text}

/-- Of a usable spec only the first character may come from the probe. -/
theorem clean_tail (h : Usable spec) : Clean spec.tail := by
  rcases h with rfl | ⟨layout, hlayout, hrefusal⟩
  · exact clean_nil
  · rw [Layout.ofSpec_eq] at hlayout
    have hrest := Layout.clean_of_readBehind hlayout hrefusal
    rcases Layout.readAlignment_cases spec with
      ⟨c, d, rest, alignment, rfl, hd, hread⟩ | ⟨c, rest, alignment, rfl, -, hread⟩ | hread
    · rw [hread] at hrest
      exact clean_cons.mpr ⟨isMark_eq_false_of_alignment hd, hrest⟩
    · rw [hread] at hrest
      exact hrest
    · rw [hread] at hrest
      exact fun c hc => hrest c (List.mem_of_mem_tail hc)

/-- For another name only the fill character of the layout is another one. -/
theorem exists_fill_of_follows {layout : Layout} (hlayout : Layout.ofSpec spec = .ok layout)
    (hrefusal : layout.refusal? = none) (hfollows : List.Forall₂ Follows spec other) :
    ∃ fill, Layout.ofSpec other = .ok { layout with fill := fill } := by
  have hclean : Clean spec.tail := clean_tail (Or.inr ⟨layout, hlayout, hrefusal⟩)
  have hbehind := hlayout
  rw [Layout.ofSpec_eq] at hbehind
  have hrest := Layout.clean_of_readBehind hbehind hrefusal
  rcases Layout.readAlignment_cases spec with
    ⟨c, d, rest, alignment, rfl, hd, hread⟩ | ⟨c, rest, alignment, rfl, hc, hread⟩ | hread
  · obtain ⟨c', tail, -, htail, rfl⟩ := List.forall₂_cons_left_iff.mp hfollows
    obtain rfl : d :: rest = tail := eq_of_follows htail hclean
    rw [hread] at hbehind
    refine ⟨c', ?_⟩
    rw [Layout.ofSpec_eq, Layout.readAlignment, hd]
    exact Layout.readBehind_fill hbehind
  · have hsame := eq_of_follows hfollows
      (clean_cons.mpr ⟨isMark_eq_false_of_alignment hc, hclean⟩)
    rw [← hsame]
    exact ⟨layout.fill, hlayout⟩
  · rw [hread] at hrest
    rw [← eq_of_follows hfollows hrest]
    exact ⟨layout.fill, hlayout⟩

theorem of_follows (h : Usable spec) (hfollows : List.Forall₂ Follows spec other) :
    Usable other := by
  rcases h with rfl | ⟨layout, hlayout, hrefusal⟩
  · rw [List.forall₂_nil_left_iff.mp hfollows]
    exact Or.inl rfl
  · obtain ⟨fill, hother⟩ := exists_fill_of_follows hlayout hrefusal hfollows
    exact Or.inr ⟨_, hother, hrefusal⟩

end Usable

end Usable

end Template

end ClientFacade
