import ClientFacade.Proofs.Text.Marks
import ClientFacade.Proofs.Text.Trim
import ClientFacade.Source.Header

/-!
# The shapes of a header

What follows `def` has one of four shapes, which say how it is read. The shape of a text is unique,
so that a statement about headers is proved shape by shape. Names and parameters are trimmed, and
they hold no character that the header does not hold.
-/

namespace ClientFacade.Header

/-- How the part of a header after the keyword and one blank is read. -/
inductive Shape : Text → Header → Prop
  | empty : Shape [] (unrecognised [])
  | plain {body : Text} : body ≠ [] → '(' ∉ body → Shape body ⟨body.trim, [], true⟩
  | closed {before tail inside : Text} : before ≠ [] → '(' ∉ before →
      parameters? tail = some inside →
      Shape (before ++ '(' :: tail) ⟨before.trim, inside.trim, true⟩
  | unclosed {before tail : Text} : '(' ∉ before → (before = [] ∨ parameters? tail = none) →
      Shape (before ++ '(' :: tail) (unrecognised (before ++ '(' :: tail).trimLeft)

theorem ofBody_plain {body : Text} (hne : body ≠ []) (hopen : '(' ∉ body) :
    ofBody body = ⟨body.trim, [], true⟩ := by
  simp [ofBody, Text.breakAt?_eq_none hopen, hne]

theorem ofBody_closed {before tail inside : Text} (hne : before ≠ []) (hopen : '(' ∉ before)
    (hinside : parameters? tail = some inside) :
    ofBody (before ++ '(' :: tail) = ⟨before.trim, inside.trim, true⟩ := by
  obtain ⟨c, rest, rfl⟩ := List.exists_cons_of_ne_nil hne
  simp only [ofBody, Text.breakAt?_append hopen, hinside]

theorem ofBody_unclosed {before tail : Text} (hopen : '(' ∉ before)
    (hreason : before = [] ∨ parameters? tail = none) :
    ofBody (before ++ '(' :: tail) = unrecognised (before ++ '(' :: tail).trimLeft := by
  cases before with
  | nil => simp only [ofBody, Text.breakAt?_append hopen]
  | cons c rest =>
    have hnone : parameters? tail = none := by simpa using hreason
    simp only [ofBody, Text.breakAt?_append hopen, hnone]

theorem Shape.ofBody_eq {body : Text} {header : Header} (h : Shape body header) :
    ofBody body = header := by
  cases h with
  | empty => rfl
  | plain hne hopen => exact ofBody_plain hne hopen
  | closed hne hopen hinside => exact ofBody_closed hne hopen hinside
  | unclosed hopen hreason => exact ofBody_unclosed hopen hreason

theorem exists_shape (body : Text) : ∃ header, Shape body header := by
  by_cases hopen : '(' ∈ body
  · obtain ⟨before, tail, rfl, hbefore⟩ := List.eq_append_cons_of_mem hopen
    by_cases hne : before = []
    · exact ⟨_, .unclosed hbefore (Or.inl hne)⟩
    · cases hinside : parameters? tail with
      | none => exact ⟨_, .unclosed hbefore (Or.inr hinside)⟩
      | some inside => exact ⟨_, .closed hne hbefore hinside⟩
  · by_cases hempty : body = []
    · subst hempty
      exact ⟨_, .empty⟩
    · exact ⟨_, .plain hempty hopen⟩

theorem shape_ofBody (body : Text) : Shape body (ofBody body) := by
  obtain ⟨header, h⟩ := exists_shape body
  rwa [h.ofBody_eq]

theorem parse_def (body : Text) : parse ("def " ++ body) = ofBody body := rfl

theorem parameters?_subset {tail inside : Text} (h : parameters? tail = some inside) :
    inside ⊆ tail := by
  obtain ⟨after, hafter, -⟩ := Text.eq_append_of_beforeLast? h
  intro c hc
  have hfirst : c ∈ Text.firstLine tail := by
    rw [hafter]
    exact List.mem_append_left _ hc
  exact (List.takeWhile_prefix _).subset hfirst

theorem exists_parameters?_iff {tail : Text} (h : '\n' ∉ tail) :
    (∃ inside, parameters? tail = some inside) ↔ ')' ∈ tail := by
  have hline : Text.firstLine tail = tail :=
    List.takeWhile_eq_self_iff.mpr fun c hc => bne_iff_ne.mpr fun he => h (he ▸ hc)
  rw [parameters?, hline, ← Option.ne_none_iff_exists', ne_eq, Text.beforeLast?_eq_none_iff,
    not_not]

theorem parameters?_eq_some {inside : Text} (h : '\n' ∉ inside) :
    parameters? (inside ++ [')']) = some inside := by
  have hline : Text.firstLine (inside ++ [')']) = inside ++ [')'] := by
    refine List.takeWhile_eq_self_iff.mpr fun c hc => ?_
    rcases List.mem_append.mp hc with hinside | hclose
    · exact bne_iff_ne.mpr fun he => h (he ▸ hinside)
    · rw [List.mem_singleton.mp hclose]
      decide
  rw [parameters?, hline]
  exact Text.beforeLast?_append List.not_mem_nil inside

namespace Shape

variable {body : Text} {header : Header}

theorem name_subset (h : Shape body header) : header.name ⊆ body := by
  cases h with
  | empty => exact List.Subset.refl _
  | plain => exact (Text.trim_infix _).subset
  | closed =>
    exact List.Subset.trans (Text.trim_infix _).subset (List.subset_append_left _ _)
  | unclosed => exact (Text.trimLeft_suffix _).subset

theorem parameters_subset (h : Shape body header) : header.parameters ⊆ body := by
  cases h with
  | empty => exact List.Subset.refl _
  | plain => exact List.nil_subset _
  | @closed before tail inside _ _ hinside =>
    have htail : inside.trim ⊆ tail :=
      List.Subset.trans (Text.trim_infix _).subset (parameters?_subset hinside)
    exact fun c hc => List.mem_append_right _ (List.mem_cons_of_mem _ (htail hc))
  | unclosed => exact List.nil_subset _

theorem parameters_trimmed (h : Shape body header) : header.parameters.Trimmed := by
  cases h with
  | closed => exact Text.trimmed_trim _
  | empty | plain | unclosed => exact ⟨by simp [unrecognised], by simp [unrecognised]⟩

/-- A name is trimmed if the header does not end in a blank. Only an unrecognised header depends on
that, because its name is cut at the left alone. -/
theorem name_trimmed (h : Shape body header)
    (hlast : ∀ c ∈ body.getLast?, isBlank c = false) : header.name.Trimmed := by
  cases h with
  | empty => exact ⟨by simp [unrecognised], by simp [unrecognised]⟩
  | plain => exact Text.trimmed_trim _
  | closed => exact Text.trimmed_trim _
  | @unclosed before tail =>
    refine ⟨Text.trimLeft_head _, fun c hc => hlast c ?_⟩
    obtain ⟨blanks, hblanks⟩ := Text.trimLeft_suffix (before ++ '(' :: tail)
    have hne : (before ++ '(' :: tail).trimLeft ≠ [] := by
      rintro hnil
      simp [unrecognised, hnil] at hc
    rw [← hblanks, List.getLast?_append_of_ne_nil _ hne]
    exact hc

theorem open_not_mem_name (h : Shape body header) (hrecognised : header.recognised = true) :
    '(' ∉ header.name := by
  cases h with
  | empty => simp [unrecognised]
  | plain _ hopen => exact fun hm => hopen ((Text.trim_infix _).subset hm)
  | closed _ hopen => exact fun hm => hopen ((Text.trim_infix _).subset hm)
  | unclosed => simp [unrecognised] at hrecognised

end Shape

end ClientFacade.Header
