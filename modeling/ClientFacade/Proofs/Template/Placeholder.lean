import ClientFacade.Proofs.Template.Accepted
import ClientFacade.Proofs.Text.Marks
import ClientFacade.Proofs.Text.Part

/-!
# Where the placeholder can stand

A template without attributes that renders for the probe has its placeholders outside of every other
field: in an access or as a conversion the placeholder would be a fault, and in a spec it would put
nine characters of the probe, or its own, where only one can be. So every placeholder is a field of
its own, unless its opening brace is the second one of a doubled brace. Then it is literal text.
-/

namespace ClientFacade.Template

theorem placeholder_eq : placeholder = '{' :: fieldName ++ ['}'] := rfl

theorem closing_not_mem_opened : '}' ∉ '{' :: fieldName := by decide

theorem opening_not_mem_of_readCounter {value count : Nat} {text : Text} {found : Nat × Nat × Text}
    (h : readCounter value count text = some found) (hrest : '{' ∉ found.2.2) : '{' ∉ text := by
  induction text generalizing value count with
  | nil => exact List.not_mem_nil
  | cons c rest ih =>
    unfold readCounter at h
    cases hdigit : digitValue? c with
    | none =>
      rw [hdigit] at h
      cases h
      exact hrest
    | some digit =>
      rw [hdigit] at h
      dsimp only at h
      split_ifs at h with hlimit
      have hc : '{' ≠ c := by
        rintro rfl
        have hbrace : digitValue? '{' = none := by decide +kernel
        rw [hbrace] at hdigit
        cases hdigit
      exact List.not_mem_cons_of_ne_of_not_mem hc (ih h)

theorem opening_not_mem_of_index {inside : Text} {place : Nat}
    (h : Access.ofIndex inside = .index place) : '{' ∉ inside := by
  unfold Access.ofIndex wholeNumber? at h
  cases hcounter : readCounter 0 0 inside with
  | none => simp [hcounter] at h
  | some found =>
    obtain ⟨value, count, rest⟩ := found
    by_cases hwhole : 0 < count ∧ rest = []
    · exact opening_not_mem_of_readCounter hcounter (by simp [hwhole.2])
    · simp only [hcounter, if_neg hwhole] at h
      split_ifs at h

theorem opening_not_mem_of_accesses {text : Text}
    (h : ∀ access ∈ accesses text, ∃ place, access = .index place) : '{' ∉ text := by
  fun_induction accesses text with
  | case1 => exact List.not_mem_nil
  | case5 rest inside after hbreak _ ih =>
    obtain ⟨⟨place, hplace⟩, hafter⟩ := List.forall_mem_cons.mp h
    have hinside := opening_not_mem_of_index hplace
    have hrest := ih hafter
    simp [Text.eq_append_of_breakAt? hbreak, hinside, hrest]
  | case2 | case3 | case4 | case6 =>
    obtain ⟨place, hplace⟩ := h _ List.mem_cons_self
    cases hplace

theorem forall_index_of_takeAll {value result : Text} {accesses : List Access}
    (h : takeAll value accesses = .ok result) :
    ∀ access ∈ accesses, ∃ place, access = .index place := by
  induction accesses generalizing value with
  | nil => exact fun access hmem => absurd hmem List.not_mem_nil
  | cons access rest ih =>
    obtain ⟨next, haccess, hrest⟩ := except_bind_eq_ok_iff.mp h
    obtain ⟨place, _, rfl, _, _⟩ := exists_index_of_take haccess
    exact List.forall_mem_cons.mpr ⟨⟨place, rfl⟩, ih hrest⟩

theorem eq_of_ofText_named {text name : Text} (h : Base.ofText text = .named name) :
    text = name := by
  unfold Base.ofText at h
  split_ifs at h
  split at h
  · cases h
  · cases h
  · exact Base.named.inj h

/-- A field that has a value is written with the name and indexes only. -/
theorem opening_not_mem_name {σ : Type} {readSpec : Text → σ} {text : FieldText}
    {name value : Text} (h : (text.read readSpec).value name = .ok value) : '{' ∉ text.name := by
  obtain ⟨hbase, taken, htaken, -⟩ := Field.value_eq_ok_iff.mp h
  have hname : text.name.takeWhile inName = fieldName := eq_of_ofText_named hbase
  have haccesses := opening_not_mem_of_accesses (forall_index_of_takeAll htaken)
  rw [← List.takeWhile_append_dropWhile (p := inName) (l := text.name), hname, List.mem_append]
  exact not_or.mpr ⟨by decide, haccesses⟩

theorem nameEnd_eq_ok {inIndex : Bool} {text name rest : Text} {mark : Char}
    (h : nameEnd inIndex text = .ok (name, mark, rest)) :
    text = name ++ mark :: rest ∧ mark ≠ '{' := by
  induction text generalizing inIndex name with
  | nil => simp [nameEnd] at h
  | cons c tail ih =>
    have step {flag : Bool} {add : Text × Char × Text → Text × Char × Text}
        (hadd : ∀ n found, add (n, found) = (c :: n, found))
        (h : (nameEnd flag tail).map add = .ok (name, mark, rest)) :
        c :: tail = name ++ mark :: rest ∧ mark ≠ '{' := by
      obtain ⟨⟨n, m, r⟩, hfound, hparts⟩ := except_map_eq_ok_iff.mp h
      simp only [hadd, Prod.mk.injEq] at hparts
      obtain ⟨rfl, rfl, rfl⟩ := hparts
      obtain ⟨rfl, hmark⟩ := ih hfound
      exact ⟨rfl, hmark⟩
    unfold nameEnd at h
    split_ifs at h with hindex hopen hmark
    · exact step (fun _ _ => rfl) h
    · simp only [Except.ok.injEq, Prod.mk.injEq] at h
      obtain ⟨rfl, rfl, rfl⟩ := h
      exact ⟨rfl, hopen⟩
    · exact step (fun _ _ => rfl) h

/-- A closing brace ends a spec if no other brace is open. Any other character belongs to the spec,
and an opening brace has to be closed before the spec ends. -/
theorem specEnd_cons_eq_ok {depth : Nat} {c : Char} {tail spec rest : Text}
    (h : specEnd depth (c :: tail) = .ok (spec, rest)) :
    (c = '}' ∧ depth = 0 ∧ spec = [] ∧ rest = tail) ∨
      ∃ inner others, spec = c :: others ∧ specEnd inner tail = .ok (others, rest) ∧
        (c = '{' ∧ inner = depth + 1 ∨ c = '}' ∧ depth = inner + 1 ∨
          c ≠ '{' ∧ c ≠ '}' ∧ inner = depth) := by
  have step {inner : Nat} {add : Text × Text → Text × Text}
      (hadd : ∀ s found, add (s, found) = (c :: s, found))
      (h : (specEnd inner tail).map add = .ok (spec, rest)) :
      ∃ others, spec = c :: others ∧ specEnd inner tail = .ok (others, rest) := by
    obtain ⟨⟨others, behind⟩, hfound, hparts⟩ := except_map_eq_ok_iff.mp h
    simp only [hadd, Prod.mk.injEq] at hparts
    obtain ⟨rfl, rfl⟩ := hparts
    exact ⟨others, rfl, hfound⟩
  unfold specEnd at h
  split_ifs at h with hopen hclose
  · obtain ⟨others, hspec, hfound⟩ := step (fun _ _ => rfl) h
    exact Or.inr ⟨depth + 1, others, hspec, hfound, Or.inl ⟨hopen, rfl⟩⟩
  · cases depth with
    | zero =>
      simp only [Except.ok.injEq, Prod.mk.injEq] at h
      exact Or.inl ⟨hclose, rfl, h.1.symm, h.2.symm⟩
    | succ depth =>
      obtain ⟨others, hspec, hfound⟩ := step (fun _ _ => rfl) h
      exact Or.inr ⟨depth, others, hspec, hfound, Or.inr (Or.inl ⟨hclose, rfl⟩)⟩
  · obtain ⟨others, hspec, hfound⟩ := step (fun _ _ => rfl) h
    exact Or.inr ⟨depth, others, hspec, hfound, Or.inr (Or.inr ⟨hopen, hclose, rfl⟩)⟩

/-- A spec ends at the brace that closes the field. It closes all `depth` braces before. -/
theorem specEnd_eq_ok {depth : Nat} {text spec rest : Text}
    (h : specEnd depth text = .ok (spec, rest)) :
    text = spec ++ '}' :: rest ∧ depth ≤ spec.count '}' := by
  induction text generalizing depth spec with
  | nil => simp [specEnd] at h
  | cons c tail ih =>
    rcases specEnd_cons_eq_ok h with ⟨rfl, rfl, rfl, rfl⟩ | ⟨inner, others, rfl, hrest, hdepth⟩
    · exact ⟨rfl, Nat.le_refl 0⟩
    · obtain ⟨rfl, hcount⟩ := ih hrest
      refine ⟨rfl, ?_⟩
      rcases hdepth with ⟨-, rfl⟩ | ⟨rfl, rfl⟩ | ⟨-, -, rfl⟩
      · rw [List.count_cons]
        omega
      · rw [List.count_cons_self]
        exact Nat.succ_le_succ hcount
      · rw [List.count_cons]
        exact Nat.le_add_right_of_le hcount

/-- A spec does not end inside of a placeholder, whose brace would still be open. -/
theorem not_opened_suffix {depth : Nat} {text spec rest : Text}
    (h : specEnd depth text = .ok (spec, rest)) : ¬ '{' :: fieldName <:+ spec := by
  induction text generalizing depth spec with
  | nil => simp [specEnd] at h
  | cons c tail ih =>
    rcases specEnd_cons_eq_ok h with ⟨-, -, rfl, -⟩ | ⟨inner, others, rfl, hrest, hdepth⟩
    · exact fun hsuffix => absurd (List.suffix_nil.mp hsuffix) (List.cons_ne_nil _ _)
    · intro hsuffix
      rcases List.suffix_cons_iff.mp hsuffix with hwhole | hothers
      · obtain ⟨rfl, rfl⟩ := List.cons.inj hwhole
        rcases hdepth with ⟨-, rfl⟩ | ⟨hclose, -⟩ | ⟨hopen, -, -⟩
        · have hcount : depth + 1 ≤ fieldName.count '}' := (specEnd_eq_ok hrest).2
          have hnone : fieldName.count '}' = 0 := by decide
          omega
        · exact absurd hclose (by decide)
        · exact hopen rfl
      · exact ih hrest hothers

/-- A placeholder in the text of a spec or behind it does not cross the end of the spec. -/
theorem infix_specEnd_cases {text spec rest : Text} (h : specEnd 0 text = .ok (spec, rest))
    (hpart : placeholder <:+: text) : placeholder <:+: spec ∨ placeholder <:+: rest := by
  rw [(specEnd_eq_ok h).1] at hpart
  rcases Text.infix_append_mark_cases closing_not_mem_opened hpart with hspec | hend | hrest
  · exact Or.inl hspec
  · exact absurd hend (not_opened_suffix h)
  · exact Or.inr hrest

theorem infix_of_second_ne {c d : Char} {text : Text} (hd : d ≠ 's')
    (h : placeholder <:+: c :: d :: text) : placeholder <:+: d :: text := by
  rcases List.infix_cons_iff.mp h with ⟨behind, heq⟩ | hrest
  · exact absurd (List.cons.inj (List.cons.inj heq).2).1.symm hd
  · exact hrest

theorem infix_tailEnd_cases {mark : Char} {text spec rest : Text} {conversion : Option Char}
    (h : tailEnd mark text = .ok (conversion, spec, rest)) (hpart : placeholder <:+: text) :
    placeholder <:+: spec ∨ placeholder <:+: rest := by
  have behind {kind : Option Char} {text : Text} (hpart : placeholder <:+: text)
      (h : (specEnd 0 text).map (fun found => (kind, found)) = .ok (conversion, spec, rest)) :
      placeholder <:+: spec ∨ placeholder <:+: rest := by
    obtain ⟨found, hfound, hparts⟩ := except_map_eq_ok_iff.mp h
    simp only [Prod.mk.injEq] at hparts
    obtain ⟨-, rfl⟩ := hparts
    exact infix_specEnd_cases hfound hpart
  unfold tailEnd at h
  split_ifs at h with hcolon hconversion
  · exact behind hpart h
  · split at h
    · cases h
    · cases h
    · rename_i c d after
      split_ifs at h with hclose hspec
      · simp only [Except.ok.injEq, Prod.mk.injEq] at h
        obtain ⟨-, -, rfl⟩ := h
        have hd := infix_of_second_ne (by rw [hclose]; decide) hpart
        exact Or.inr (Text.infix_of_infix_cons (by rw [hclose]; decide) hd)
      · have hd := infix_of_second_ne (by rw [hspec]; decide) hpart
        exact behind (Text.infix_of_infix_cons (by rw [hspec]; decide) hd) h
  · simp only [Except.ok.injEq, Prod.mk.injEq] at h
    obtain ⟨-, -, rfl⟩ := h
    exact Or.inr hpart

/-- The text of a field that is nothing but the placeholder. -/
def FieldText.bare : FieldText := ⟨fieldName, none, []⟩

theorem fieldEnd_bare (rest : Text) : fieldEnd (fieldName ++ '}' :: rest) = .ok (.bare, rest) := rfl

/-- Where the placeholder stands if it starts at the opening brace of a field or behind it. -/
theorem infix_fieldEnd_cases {text rest : Text} {field : FieldText}
    (h : fieldEnd text = .ok (field, rest)) (hname : '{' ∉ field.name)
    (hpart : placeholder <:+: '{' :: text) :
    field = .bare ∨ placeholder <:+: field.spec ∨ placeholder <:+: rest := by
  rcases List.infix_cons_iff.mp hpart with ⟨behind, heq⟩ | htext
  · have htext : fieldName ++ '}' :: behind = text := (List.cons.inj heq).2
    rw [← htext, fieldEnd_bare] at h
    simp only [Except.ok.injEq, Prod.mk.injEq] at h
    exact Or.inl h.1.symm
  · unfold fieldEnd at h
    split at h
    · cases h
    · rename_i name mark tail hend
      obtain ⟨⟨conversion, spec, after⟩, htail, hparts⟩ := except_map_eq_ok_iff.mp h
      simp only [Prod.mk.injEq] at hparts
      obtain ⟨rfl, rfl⟩ := hparts
      obtain ⟨rfl, hmark⟩ := nameEnd_eq_ok hend
      have hbehind := Text.infix_of_infix_append hname htext
      exact Or.inr (infix_tailEnd_cases htail (Text.infix_of_infix_cons hmark hbehind))

/-- A character of a literal as it is read. -/
def literalPiece {σ : Type} (c : Char) : Piece σ := .literal [c]

theorem readPieces_literal {σ : Type} {readSpec : Text → σ} {before : Text}
    (hopen : '{' ∉ before) (hclose : '}' ∉ before) (rest : Text) :
    readPieces readSpec (before ++ rest) =
      before.map literalPiece ++ readPieces readSpec rest := by
  induction before with
  | nil => rfl
  | cons c tail ih =>
    rw [List.mem_cons, not_or] at hopen hclose
    have hstep : readPieces readSpec (c :: (tail ++ rest)) =
        .literal [c] :: readPieces readSpec (tail ++ rest) := by
      cases tail ++ rest with
      | nil => simp [readPieces, Ne.symm hopen.1, Ne.symm hclose.1]
      | cons d others => simp [readPieces, Ne.symm hopen.1, Ne.symm hclose.1]
    rw [List.cons_append, hstep, ih hopen.2 hclose.2]
    rfl

theorem readPieces_placeholder {σ : Type} (readSpec : Text → σ) (after : Text) :
    readPieces readSpec (placeholder ++ after) =
      .field (FieldText.bare.read readSpec) :: readPieces readSpec after := by
  have hend : fieldEnd ('s' :: ("ubmodule" ++ '}' :: after)) = .ok (.bare, after) :=
    fieldEnd_bare after
  have hopen : readPieces readSpec (placeholder ++ after) =
      readPieces readSpec ('{' :: 's' :: ("ubmodule" ++ '}' :: after)) := rfl
  rw [hopen, readPieces, if_neg (by decide), if_pos rfl, if_neg (by decide)]
  split
  · next fault hfault => cases hend.symm.trans hfault
  · next field rest hfield =>
    cases hend.symm.trans hfield
    rfl

section Reading

variable [Machine] {σ : Type} {readSpec : Text → σ} {expand : σ → Except Fault Text}
  {name text rendered : Text}

theorem plainAll_append_of_ok {first second : List (Piece σ)} {before behind : Text}
    (hfirst : plainAll expand name first = .ok before)
    (hsecond : plainAll expand name second = .ok behind) :
    plainAll expand name (first ++ second) = .ok (before ++ behind) := by
  induction first generalizing before with
  | nil =>
    obtain rfl := Except.ok.inj hfirst
    exact hsecond
  | cons piece rest ih =>
    obtain ⟨part, others, hpart, hothers, rfl⟩ := plainAll_cons_eq_ok hfirst
    rw [List.cons_append, plainAll, hpart, ih hothers, List.append_assoc]
    rfl

theorem plainAll_append_eq_ok {first second : List (Piece σ)}
    (h : plainAll expand name (first ++ second) = .ok rendered) :
    ∃ before behind, plainAll expand name first = .ok before ∧
      plainAll expand name second = .ok behind ∧ rendered = before ++ behind := by
  induction first generalizing rendered with
  | nil => exact ⟨[], rendered, rfl, h, rfl⟩
  | cons piece rest ih =>
    obtain ⟨part, others, hpart, hothers, rfl⟩ := plainAll_cons_eq_ok h
    obtain ⟨before, behind, hbefore, hbehind, rfl⟩ := ih hothers
    refine ⟨part ++ before, behind, ?_, hbehind, (List.append_assoc _ _ _).symm⟩
    rw [plainAll, hpart, hbefore]
    rfl

/-- What pieces in a row make stands in what all of them make. -/
theorem infix_of_plainAll {inner pieces : List (Piece σ)} (hinner : inner <:+: pieces)
    (h : plainAll expand name pieces = .ok rendered) :
    ∃ part, plainAll expand name inner = .ok part ∧ part <:+: rendered := by
  obtain ⟨before, behind, rfl⟩ := hinner
  obtain ⟨first, _, hfirst, -, rfl⟩ := plainAll_append_eq_ok h
  obtain ⟨start, part, -, hpart, rfl⟩ := plainAll_append_eq_ok hfirst
  exact ⟨part, hpart, start, _, rfl⟩

theorem exists_infix_of_mem {piece : Piece σ} {pieces : List (Piece σ)} (hmem : piece ∈ pieces)
    (h : plainAll expand name pieces = .ok rendered) :
    ∃ part, piece.plain expand name = .ok part ∧ part <:+: rendered := by
  have hinner : [piece] <:+: pieces := (List.singleton_infix_iff _ _).mpr hmem
  obtain ⟨_, hself, hinfix⟩ := infix_of_plainAll hinner h
  obtain ⟨part, others, hpart, -, rfl⟩ := plainAll_cons_eq_ok hself
  exact ⟨part, hpart, (List.prefix_append part others).isInfix.trans hinfix⟩

theorem plainAll_literal (expand : σ → Except Fault Text) (name part : Text) :
    plainAll expand name (part.map literalPiece) = .ok part := by
  induction part with
  | nil => rfl
  | cons c rest ih =>
    rw [List.map_cons, plainAll, ih]
    rfl

theorem infix_of_literal {part : Text} {pieces : List (Piece σ)}
    (hpart : part.map literalPiece <:+: pieces)
    (h : plainAll expand name pieces = .ok rendered) : part <:+: rendered := by
  obtain ⟨made, hmade, hinfix⟩ := infix_of_plainAll hpart h
  rw [plainAll_literal] at hmade
  rwa [Except.ok.inj hmade]

theorem plainAll_malformed_ne {fault : Fault} {rest : List (Piece σ)} :
    plainAll expand name (.malformed fault :: rest) ≠ .ok rendered := by
  intro h
  obtain ⟨first, others, hfirst, -, -⟩ := plainAll_cons_eq_ok h
  cases hfirst

/-- A closing brace is literal only if another one follows. -/
theorem readPieces_closing
    (h : plainAll expand name (readPieces readSpec ('}' :: text)) = .ok rendered) :
    ∃ rest, text = '}' :: rest ∧
      readPieces readSpec ('}' :: text) = literalPiece '}' :: readPieces readSpec rest := by
  match text with
  | [] =>
    rw [readPieces, if_pos rfl] at h
    exact absurd h plainAll_malformed_ne
  | c :: rest =>
    by_cases hc : c = '}'
    · subst hc
      exact ⟨rest, rfl, by simp [readPieces, literalPiece]⟩
    · rw [readPieces, if_pos rfl, if_neg hc] at h
      exact absurd h plainAll_malformed_ne

/-- The pieces hold the placeholder, as a field of its own or as literal text. -/
def HoldsPlaceholder (readSpec : Text → σ) (pieces : List (Piece σ)) : Prop :=
  .field (FieldText.bare.read readSpec) ∈ pieces ∨ placeholder.map literalPiece <:+: pieces

omit [Machine] in
theorem HoldsPlaceholder.cons {pieces : List (Piece σ)} (h : HoldsPlaceholder readSpec pieces)
    (piece : Piece σ) : HoldsPlaceholder readSpec (piece :: pieces) :=
  h.imp (List.mem_cons_of_mem piece) List.infix_cons

/-- Behind a doubled opening brace the placeholder is literal up to its closing brace, which has to
be doubled as well. -/
theorem holdsPlaceholder_escaped
    (h : plainAll expand name (readPieces readSpec (fieldName ++ '}' :: text)) = .ok rendered) :
    HoldsPlaceholder readSpec
      (literalPiece '{' :: readPieces readSpec (fieldName ++ '}' :: text)) := by
  have hread : readPieces readSpec (fieldName ++ '}' :: text) =
      fieldName.map literalPiece ++ readPieces readSpec ('}' :: text) :=
    readPieces_literal (by decide) (by decide) ('}' :: text)
  rw [hread] at h ⊢
  obtain ⟨_, others, -, hothers, -⟩ := plainAll_append_eq_ok h
  obtain ⟨rest, -, hclosing⟩ := readPieces_closing hothers
  rw [hclosing]
  refine Or.inr (List.IsPrefix.isInfix ⟨readPieces readSpec rest, ?_⟩)
  rw [placeholder_eq]
  simp

/-- A placeholder of a text that renders is read as a field of its own or as literal text, provided
that no spec with a placeholder is usable. -/
theorem holdsPlaceholder_of_infix
    (hspec : ∀ spec found, expand (readSpec spec) = .ok found → Usable found →
      ¬ placeholder <:+: spec)
    (hpart : placeholder <:+: text)
    (h : plainAll expand name (readPieces readSpec text) = .ok rendered) :
    HoldsPlaceholder readSpec (readPieces readSpec text) := by
  fun_induction readPieces readSpec text generalizing rendered with
  | case1 => exact absurd (List.infix_nil.mp hpart) (List.cons_ne_nil _ _)
  | case2 | case3 | case6 | case8 => exact absurd h plainAll_malformed_ne
  | case4 c => exact absurd hpart.length_le (show ¬ placeholder.length ≤ 1 by decide)
  | case5 rest ih =>
    obtain ⟨_, _, -, hrest, -⟩ := plainAll_cons_eq_ok h
    have hbehind :=
      Text.infix_of_infix_cons (by decide) (Text.infix_of_infix_cons (by decide) hpart)
    exact (ih hbehind hrest).cons _
  | case7 rest _ ih =>
    obtain ⟨_, _, -, hrest, -⟩ := plainAll_cons_eq_ok h
    rcases List.infix_cons_iff.mp (infix_of_second_ne (by decide) hpart) with
      ⟨behind, heq⟩ | hbehind
    · obtain rfl : fieldName ++ '}' :: behind = rest := (List.cons.inj heq).2
      exact holdsPlaceholder_escaped hrest
    · exact (ih hbehind hrest).cons _
  | case9 d rest _ field after hend _ ih =>
    -- The field has a value, so that its name has no brace, and its spec is usable.
    obtain ⟨first, _, hfield, hrest, -⟩ := plainAll_cons_eq_ok h
    obtain ⟨value, found, hvalue, hfound, hlaid⟩ := Field.exists_of_plain hfield
    rcases infix_fieldEnd_cases hend (opening_not_mem_name hvalue) hpart with
      rfl | hinside | hbehind
    · exact Or.inl List.mem_cons_self
    · exact absurd hinside (hspec _ found hfound (layOut_eq_ok_iff.mp ⟨first, hlaid⟩))
    · exact (ih hbehind hrest).cons _
  | case10 c d rest _ hopen ih =>
    obtain ⟨_, _, -, hrest, -⟩ := plainAll_cons_eq_ok h
    exact (ih (Text.infix_of_infix_cons hopen hpart) hrest).cons _

omit [Machine] in
theorem read_bare (readSpec : Text → σ) :
    FieldText.bare.read readSpec = ⟨.named fieldName, [], none, readSpec []⟩ := by
  have hbase : Base.ofText (fieldName.takeWhile inName) = .named fieldName := by decide +kernel
  have hrest : fieldName.dropWhile inName = [] := by decide
  simp only [FieldText.read, FieldText.bare, hbase, hrest, accesses]
  rfl

theorem plain_bare (hempty : expand (readSpec []) = .ok []) (name : Text) :
    (FieldText.bare.read readSpec).plain expand name = .ok name := by
  rw [read_bare]
  refine except_bind_eq_ok_iff.mpr ⟨name, rfl, ?_⟩
  exact except_bind_eq_ok_iff.mpr ⟨[], hempty, rfl⟩

/-- What stands in the place of the placeholder is the name or the placeholder itself. -/
theorem HoldsPlaceholder.infix_cases {pieces : List (Piece σ)}
    (hpieces : HoldsPlaceholder readSpec pieces) (hempty : expand (readSpec []) = .ok [])
    (h : plainAll expand name pieces = .ok rendered) :
    name <:+: rendered ∨ placeholder <:+: rendered := by
  rcases hpieces with hbare | hliteral
  · obtain ⟨part, hpart, hinfix⟩ := exists_infix_of_mem hbare h
    have hname : name = part := Except.ok.inj ((plain_bare hempty name).symm.trans hpart)
    rw [hname]
    exact Or.inl hinfix
  · exact Or.inr (infix_of_literal hliteral h)

end Reading

def readInner : Text → InnerSpec := Spec.ofText fun _ => ()

def readOuter : Text → OuterSpec := Spec.ofText (readPieces readInner)

theorem ofText_of_opening {σ : Type} {read : Text → σ} {text : Text} (h : '{' ∈ text) :
    Spec.ofText read text = .nested (read text) := if_pos (List.elem_iff.mpr h)

/-- The placeholder has an opening brace, so that a spec inside of a spec cannot hold it. -/
theorem not_infix_of_expandInner {spec found : Text}
    (h : expandInner (readInner spec) = .ok found) : ¬ placeholder <:+: spec := by
  intro hpart
  have hopen : '{' ∈ spec := hpart.subset List.mem_cons_self
  rw [readInner, ofText_of_opening hopen] at h
  cases h

section Accepted

variable [Machine]

/-- No usable spec holds as much of the probe or of the placeholder as both have in common. -/
theorem Usable.not_infix {spec : Text} (h : Usable spec) :
    ¬ probe <:+: spec ∧ ¬ placeholder <:+: spec := by
  have hshared : ∀ part : Text, ("ubmodule" : Text) <:+: part → ¬ part <:+: spec := by
    intro part hpart hspec
    obtain ⟨before, behind, rfl⟩ := hpart.trans hspec
    have hprobe : ("ubmodule" : Text) <:+: probe := by decide
    have hlength : ("ubmodule" : Text).length ≤ 1 :=
      length_le_one_of_marks (fun c hc => isMark_of_mem_probe (hprobe.subset hc)) h.clean_tail
    exact absurd hlength (by decide)
  exact ⟨hshared probe (by decide), hshared placeholder (by decide)⟩

theorem not_infix_of_expandPlain {spec found : Text}
    (h : expandPlain probe (readOuter spec) = .ok found) (husable : Usable found) :
    ¬ placeholder <:+: spec := by
  intro hpart
  have hopen : '{' ∈ spec := hpart.subset List.mem_cons_self
  rw [readOuter, ofText_of_opening hopen] at h
  have hpieces := holdsPlaceholder_of_infix
    (fun _ _ hexpand _ => not_infix_of_expandInner hexpand) hpart h
  rcases hpieces.infix_cases rfl h with hprobe | hliteral
  · exact husable.not_infix.1 hprobe
  · exact husable.not_infix.2 hliteral

/-- Literal text around one placeholder is always accepted. -/
theorem check_surrounded {before after : Text} (hbefore : '{' ∉ before ∧ '}' ∉ before)
    (hafter : '{' ∉ after ∧ '}' ∉ after) :
    check (before ++ (placeholder ++ after)) = .accepted := by
  have hpieces : (ofText (before ++ (placeholder ++ after))).pieces =
      before.map literalPiece ++ .field (FieldText.bare.read readOuter) ::
        after.map literalPiece := by
    have htail : readPieces readOuter (after ++ []) =
        after.map literalPiece ++ readPieces readOuter [] :=
      readPieces_literal hafter.1 hafter.2 []
    rw [List.append_nil, readPieces, List.append_nil] at htail
    rw [← htail, ← readPieces_placeholder]
    exact readPieces_literal hbefore.1 hbefore.2 _
  have htextual : (ofText (before ++ (placeholder ++ after))).Textual := by
    rw [Textual, allAccesses, hpieces, read_bare]
    rw [List.flatMap_append, List.flatMap_cons, noAttributes_append, noAttributes_append,
      noAttributes_flatMap, noAttributes_flatMap]
    simp [literalPiece, Piece.allAccesses, NoAttributes, readOuter, Spec.ofText,
      OuterSpec.allAccesses]
  have hrender : (ofText (before ++ (placeholder ++ after))).plain probe =
      .ok (before ++ (probe ++ after)) := by
    rw [plain, hpieces]
    refine plainAll_append_of_ok (plainAll_literal _ _ _) ?_
    rw [plainAll, plainAll_literal, Piece.plain, plain_bare rfl]
    rfl
  have hpart : Text.hasPart placeholder (before ++ (placeholder ++ after)) = true :=
    Text.hasPart_iff.mpr ⟨before, after, List.append_assoc _ _ _⟩
  rw [check, if_pos hpart, render_of_textual _ htextual, hrender]

/-- An accepted template without attributes holds the placeholder as a field of its own or as
literal text. -/
theorem holdsPlaceholder_of_accepted {text : Text} (h : check text = .accepted)
    (htextual : (ofText text).Textual) : HoldsPlaceholder readOuter (ofText text).pieces := by
  obtain ⟨rendered, hrendered⟩ := plain_probe_of_accepted h htextual
  have hpart : placeholder <:+: text := by
    unfold check at h
    split_ifs at h with hpart
    · exact Text.hasPart_iff.mp hpart
  exact holdsPlaceholder_of_infix
    (fun _ _ hexpand husable => not_infix_of_expandPlain hexpand husable) hpart hrendered

end Accepted

end ClientFacade.Template
