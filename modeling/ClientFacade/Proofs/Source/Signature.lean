import ClientFacade.Proofs.Source.Header

/-!
# What a signature is read as

A signature is read by the decompositions that it has. It may have parameters in parentheses: then
the opening parenthesis is the first one of the signature, the closing one the last of that line,
and so there is a single decomposition of this kind. Otherwise it may be a name without any opening
parenthesis. If it is neither, it is not recognised, and the name is what the keyword leaves.
-/

namespace ClientFacade

namespace Text

theorem eq_of_append_mark {mark : Char} {before after first second : Text}
    (hbefore : mark ∉ before) (hafter : mark ∉ after)
    (h : before ++ mark :: first = after ++ mark :: second) : before = after ∧ first = second := by
  have hbreak := breakAt?_append hbefore first
  rw [h, breakAt?_append hafter] at hbreak
  obtain ⟨hname, hrest⟩ := Prod.mk.inj (Option.some.inj hbreak)
  exact ⟨hname.symm, hrest.symm⟩

theorem firstLine_append {before : Text} (h : '\n' ∉ before) (after : Text) :
    firstLine (before ++ after) = before ++ firstLine after :=
  List.takeWhile_append_of_pos fun _ hc => bne_iff_ne.mpr fun he => h (he ▸ hc)

theorem feed_not_mem_firstLine (text : Text) : '\n' ∉ firstLine text := by
  intro h
  simpa using List.mem_takeWhile_imp h

end Text

namespace Header

/-- The signature is `def`, one blank, a name, the parameters in parentheses and a rest. The line of
the rest closes no parenthesis any more. -/
structure Enclosed (signature : Text) (blank : Char) (name inside rest : Text) : Prop where
  isBlank : isBlank blank = true
  eq_append : signature = "def" ++ blank :: (name ++ '(' :: (inside ++ ')' :: rest))
  name_ne_nil : name ≠ []
  open_not_mem : '(' ∉ name
  feed_not_mem : '\n' ∉ inside
  close_not_mem : ')' ∉ Text.firstLine rest

/-- The signature is `def`, one blank and a name without any opening parenthesis. -/
structure Bare (signature : Text) (blank : Char) (name : Text) : Prop where
  isBlank : isBlank blank = true
  eq_append : signature = "def" ++ blank :: name
  name_ne_nil : name ≠ []
  open_not_mem : '(' ∉ name

/-- What a signature is read as, by the first of the kinds that it belongs to. -/
inductive Reading (signature : Text) : Header → Prop
  | enclosed {blank : Char} {name inside rest : Text} :
      Enclosed signature blank name inside rest →
      Reading signature ⟨name.trim, inside.trim, true⟩
  | bare {blank : Char} {name : Text} :
      (¬ ∃ blank name inside rest, Enclosed signature blank name inside rest) →
      Bare signature blank name → Reading signature ⟨name.trim, [], true⟩
  | defined {blank : Char} {rest : Text} :
      (¬ ∃ blank name inside rest, Enclosed signature blank name inside rest) →
      (¬ ∃ blank name, Bare signature blank name) →
      isBlank blank = true → signature = "def" ++ blank :: rest →
      Reading signature ⟨rest.trimLeft, [], false⟩
  | foreign : (¬ ∃ blank rest, isBlank blank = true ∧ signature = "def" ++ blank :: rest) →
      Reading signature ⟨signature, [], false⟩

theorem afterKeyword?_eq_some_iff {signature body : Text} : afterKeyword? signature = some body ↔
    ∃ blank, ClientFacade.isBlank blank = true ∧ signature = "def" ++ blank :: body := by
  constructor
  · intro h
    unfold afterKeyword? at h
    split at h
    next c rest =>
      split_ifs at h with hblank
      obtain rfl := Option.some.inj h
      exact ⟨c, hblank, rfl⟩
    next => cases h
  · rintro ⟨blank, hblank, rfl⟩
    exact if_pos hblank

theorem parse_keyword {blank : Char} (h : ClientFacade.isBlank blank = true) (body : Text) :
    parse ("def" ++ blank :: body) = ofBody body := by
  rw [parse, afterKeyword?_eq_some_iff.mpr ⟨blank, h, rfl⟩]

theorem parse_foreign {signature : Text}
    (h : ¬ ∃ blank rest, ClientFacade.isBlank blank = true ∧ signature = "def" ++ blank :: rest) :
    parse signature = ⟨signature, [], false⟩ := by
  cases hbody : afterKeyword? signature with
  | some body =>
    obtain ⟨blank, hblank, hsignature⟩ := afterKeyword?_eq_some_iff.mp hbody
    exact absurd ⟨blank, body, hblank, hsignature⟩ h
  | none =>
    rw [parse, hbody]
    rfl

/-- The parameters end at the last closing parenthesis of their line. -/
theorem parameters?_eq_some_iff {tail inside : Text} : parameters? tail = some inside ↔
    ∃ rest, tail = inside ++ ')' :: rest ∧ '\n' ∉ inside ∧ ')' ∉ Text.firstLine rest := by
  constructor
  · intro h
    obtain ⟨after, hline, hclose⟩ := Text.eq_append_of_beforeLast? h
    have hfeed : '\n' ∉ inside ++ ')' :: after := hline ▸ Text.feed_not_mem_firstLine tail
    have hafter : '\n' ∉ after := fun hm => hfeed (by simp [hm])
    have htail : tail = inside ++ ')' :: (after ++ tail.dropWhile (· != '\n')) := by
      conv_lhs => rw [← List.takeWhile_append_dropWhile (p := (· != '\n')) (l := tail)]
      rw [← Text.firstLine, hline, List.append_assoc, List.cons_append]
    have hrest : Text.firstLine (tail.dropWhile (· != '\n')) = [] := by
      rw [Text.firstLine, List.takeWhile_eq_nil_iff]
      intro hlength
      exact List.dropWhile_get_zero_not _ _ hlength
    refine ⟨after ++ tail.dropWhile (· != '\n'), htail, fun hm => hfeed (by simp [hm]), ?_⟩
    rwa [Text.firstLine_append hafter, hrest, List.append_nil]
  · rintro ⟨rest, rfl, hfeed, hclose⟩
    have hfeed' : '\n' ∉ inside ++ [')'] := by simp [hfeed]
    have hline : Text.firstLine (inside ++ ')' :: rest) =
        inside ++ ')' :: Text.firstLine rest := by
      have happend := Text.firstLine_append hfeed' rest
      simpa using happend
    rw [parameters?, hline]
    exact Text.beforeLast?_append hclose inside

namespace Enclosed

variable {signature : Text} {blank : Char} {name inside rest : Text}

theorem parameters?_eq (h : Enclosed signature blank name inside rest) :
    parameters? (inside ++ ')' :: rest) = some inside :=
  parameters?_eq_some_iff.mpr ⟨rest, rfl, h.feed_not_mem, h.close_not_mem⟩

theorem parse_eq (h : Enclosed signature blank name inside rest) :
    parse signature = ⟨name.trim, inside.trim, true⟩ := by
  rw [h.eq_append, parse_keyword h.isBlank]
  exact ofBody_closed h.name_ne_nil h.open_not_mem h.parameters?_eq

/-- The first opening parenthesis of the signature and the last closing one of its line determine
all parts. -/
theorem unique (h : Enclosed signature blank name inside rest) {blank' : Char}
    {name' inside' rest' : Text} (h' : Enclosed signature blank' name' inside' rest') :
    blank' = blank ∧ name' = name ∧ inside' = inside ∧ rest' = rest := by
  have hbody := List.append_cancel_left (h'.eq_append.symm.trans h.eq_append)
  obtain ⟨hblank, hcall⟩ := List.cons.inj hbody
  obtain ⟨hname, htail⟩ := Text.eq_of_append_mark h'.open_not_mem h.open_not_mem hcall
  have hinside : inside' = inside := by
    have hparameters := h'.parameters?_eq
    rw [htail, h.parameters?_eq] at hparameters
    exact (Option.some.inj hparameters).symm
  subst hinside
  exact ⟨hblank, hname, rfl, (List.cons.inj (List.append_cancel_left htail)).2⟩

end Enclosed

theorem Bare.parse_eq {signature : Text} {blank : Char} {name : Text}
    (h : Bare signature blank name) : parse signature = ⟨name.trim, [], true⟩ := by
  rw [h.eq_append, parse_keyword h.isBlank]
  exact ofBody_plain h.name_ne_nil h.open_not_mem

theorem Reading.parse_eq {signature : Text} {header : Header} (h : Reading signature header) :
    parse signature = header := by
  cases h with
  | enclosed henclosed => exact henclosed.parse_eq
  | bare _ hbare => exact hbare.parse_eq
  | @defined blank rest hnone hbare hblank hsignature =>
    have hparse : parse signature = ofBody rest := by rw [hsignature, parse_keyword hblank]
    have hshape := shape_ofBody rest
    rw [hparse]
    generalize ofBody rest = header at hshape
    cases hshape with
    | empty => rfl
    | plain hne hopen => exact absurd ⟨blank, rest, hblank, hsignature, hne, hopen⟩ hbare
    | @closed before tail inside hne hopen hinside =>
      obtain ⟨after, rfl, hfeed, hclose⟩ := parameters?_eq_some_iff.mp hinside
      exact absurd ⟨blank, before, inside, after, hblank, hsignature, hne, hopen, hfeed, hclose⟩
        hnone
    | unclosed => rfl
  | foreign hforeign => exact parse_foreign hforeign

theorem exists_reading (signature : Text) : ∃ header, Reading signature header := by
  by_cases henclosed : ∃ blank name inside rest, Enclosed signature blank name inside rest
  · obtain ⟨blank, name, inside, rest, h⟩ := henclosed
    exact ⟨_, .enclosed h⟩
  by_cases hbare : ∃ blank name, Bare signature blank name
  · obtain ⟨blank, name, h⟩ := hbare
    exact ⟨_, .bare henclosed h⟩
  by_cases hdefined : ∃ blank rest, ClientFacade.isBlank blank = true ∧
      signature = "def" ++ blank :: rest
  · obtain ⟨blank, rest, hblank, h⟩ := hdefined
    exact ⟨_, .defined henclosed hbare hblank h⟩
  · exact ⟨_, .foreign hdefined⟩

theorem reading_parse (signature : Text) : Reading signature (parse signature) := by
  obtain ⟨header, h⟩ := exists_reading signature
  rwa [h.parse_eq]

/-- A signature is read by its decompositions alone, and there is at most one with parameters. -/
theorem parse_by_decomposition (signature : Text) :
    (∀ header, parse signature = header ↔ Reading signature header) ∧
    ∀ blank name inside rest, Enclosed signature blank name inside rest →
      ∀ blank' name' inside' rest', Enclosed signature blank' name' inside' rest' →
        blank' = blank ∧ name' = name ∧ inside' = inside ∧ rest' = rest := by
  refine ⟨fun header => ?_, ?_⟩
  · constructor
    · rintro rfl
      exact reading_parse signature
    · exact Reading.parse_eq
  · intro blank name inside rest h blank' name' inside' rest' h'
    exact h.unique h'

/-- A name of blanks alone, several closing parentheses, and one that stands in the next line. -/
example : parse "def  (a)" = ⟨[], "a".toList, true⟩ ∧
    parse "def send(a = (b)) # (c) d\n)" = ⟨"send".toList, "a = (b)) # (c".toList, true⟩ ∧
    parse "def send(a,\nb)" = ⟨"send(a,\nb)".toList, [], false⟩ := by decide

end Header

end ClientFacade
