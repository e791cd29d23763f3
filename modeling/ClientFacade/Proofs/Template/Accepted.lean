import ClientFacade.Proofs.Template.Reach

/-!
# What an accepted template can still run into

An accepted template renders for the probe. If it asks for no attribute, it renders for any other
name that is longer than every index that directly follows a base, in the fields of nested specs as
well. If not, it ends at an index past the end. The pieces of a nested spec keep their places from
name to name, because the spec was usable for the probe.
-/

namespace ClientFacade.Template

theorem clean_tail_append {first second : Text} (h : Clean (first ++ second).tail) :
    Clean first.tail ∧ Clean second.tail := by
  cases first with
  | nil => exact ⟨clean_nil, h⟩
  | cons c rest =>
    obtain ⟨hrest, hsecond⟩ := clean_append.mp h
    exact ⟨hrest, fun d hd => hsecond d (List.mem_of_mem_tail hd)⟩

/-- A part of a text whose tail is clean has at most one character of the probe. -/
theorem length_le_one_of_marks {before part after : Text}
    (hmarks : ∀ c ∈ part, isMark c = true) (h : Clean (before ++ part ++ after).tail) :
    part.length ≤ 1 := by
  have hpart : Clean part.tail := (clean_tail_append (clean_tail_append h).1).2
  match part with
  | [] => simp
  | [_] => simp
  | c :: d :: rest =>
    have hclean : isMark d = false := hpart d (by simp)
    rw [hmarks d (by simp)] at hclean
    exact absurd hclean (by decide)

theorem follows_of_length_le_one {first second : Text} (hmarks : ∀ c ∈ first, isMark c = true)
    (hlength : first.length ≤ 1) (hsame : second.length = first.length) :
    List.Forall₂ Follows first second := by
  match first, second with
  | [], [] => exact .nil
  | [c], [d] => exact .cons (Or.inr (hmarks c (by simp))) .nil
  | [], _ :: _ => simp at hsame
  | [_], [] => simp at hsame
  | [_], _ :: _ :: _ => simp at hsame
  | _ :: _ :: _, _ => simp at hlength

theorem Layout.length_cut {layout : Layout} {first second : Text} (h : Similar first second)
    (hlength : (layout.cut first).length ≤ 1) :
    (layout.cut second).length = (layout.cut first).length := by
  have hfirst : 0 < first.length := List.length_pos_iff.mpr h.left_ne_nil
  have hsecond : 0 < second.length := List.length_pos_iff.mpr h.right_ne_nil
  have hsingle := h.single
  cases hprecision : layout.precision with
  | none =>
    simp only [cut, hprecision] at hlength ⊢
    omega
  | some precision =>
    simp only [cut, hprecision, List.length_take] at hlength ⊢
    omega

section Names

variable [Machine]

/-- What is laid out for the probe and for another name differs in at most one character, if the
rest of it means something in a spec. -/
theorem layOut_follows {spec first second laid : Text} (h : layOut spec first = .ok laid)
    (hclean : Clean laid.tail) (hsimilar : Similar first second) :
    ∃ other, layOut spec second = .ok other ∧ List.Forall₂ Follows laid other := by
  obtain ⟨layout, hlayout, hrefusal, rfl⟩ := layOut_eq_iff.mp h
  have hmarks : ∀ c ∈ layout.cut first, isMark c = true := by
    intro c hc
    refine hsimilar.marks c ?_
    unfold Layout.cut at hc
    split at hc
    · exact hc
    · exact List.mem_of_mem_take hc
  have hlength : (layout.cut first).length ≤ 1 := length_le_one_of_marks hmarks hclean
  have hsame := Layout.length_cut hsimilar hlength
  refine ⟨layout.pad (layout.cut second),
    layOut_eq_iff.mpr ⟨layout, hlayout, hrefusal, rfl⟩, ?_⟩
  unfold Layout.pad
  rw [hsame]
  exact List.rel_append
    (List.rel_append (forall₂_follows_self _) (follows_of_length_le_one hmarks hlength hsame))
    (forall₂_follows_self _)

theorem plainAll_cons_eq_ok {σ : Type} {expand : σ → Except Fault Text} {name text : Text}
    {piece : Piece σ} {rest : List (Piece σ)}
    (h : plainAll expand name (piece :: rest) = .ok text) :
    ∃ first others, piece.plain expand name = .ok first ∧
      plainAll expand name rest = .ok others ∧ text = first ++ others := by
  obtain ⟨first, hfirst, h₁⟩ := except_bind_eq_ok_iff.mp h
  obtain ⟨others, hothers, h₂⟩ := except_bind_eq_ok_iff.mp h₁
  exact ⟨first, others, hfirst, hothers, (Except.ok.inj h₂).symm⟩

/-- Pieces are rendered one by one, so that what holds of each carries over to all. -/
theorem plainAll_guarded {σ : Type} {expand expandProbe : σ → Except Fault Text}
    {inner : σ → List Nat} {R : Text → Text → Prop} {T : Text → Prop} {name : Text}
    (hnil : R [] [])
    (happend : ∀ {a b c d : Text}, R a b → R c d → R (a ++ c) (b ++ d))
    (hsplit : ∀ {a b : Text}, T (a ++ b) → T a ∧ T b)
    (hpiece : ∀ (piece : Piece σ) (text : Text), piece.plain expandProbe probe = .ok text →
      T text → Guarded (Within (piece.indexes inner) name) (R text) (piece.plain expand name))
    {pieces : List (Piece σ)} {text : Text}
    (h : plainAll expandProbe probe pieces = .ok text) (htext : T text) :
    Guarded (Within (indexesAll inner pieces) name) (R text) (plainAll expand name pieces) := by
  induction pieces generalizing text with
  | nil =>
    obtain rfl := Except.ok.inj h
    exact Or.inl ⟨by simp [Within, indexesAll], [], rfl, hnil⟩
  | cons piece rest ih =>
    obtain ⟨first, others, hfirst, hothers, rfl⟩ := plainAll_cons_eq_ok h
    obtain ⟨htfirst, htothers⟩ := hsplit htext
    have hmore : ∀ found, R first found → Guarded (Within (indexesAll inner rest) name)
        (R (first ++ others))
        (plainAll expand name rest >>= fun more => .ok (found ++ more)) :=
      fun found hfound => (ih hothers htothers).bind_ok fun more hmore => happend hfound hmore
    have hsteps : Guarded (Within (piece.indexes inner) name ∧
        Within (indexesAll inner rest) name) (R (first ++ others))
        (plainAll expand name (piece :: rest)) :=
      (hpiece piece first hfirst htfirst).bind hmore
    refine hsteps.congr ?_
    rw [indexesAll_cons, within_append]

theorem innerPiece_guarded {name : Text} (hname : name ≠ []) (piece : Piece InnerSpec)
    (text : Text) (h : piece.plain expandInner probe = .ok text) (hclean : Clean text.tail) :
    Guarded (Within (piece.indexes fun _ => []) name) (List.Forall₂ Follows text)
      (piece.plain expandInner name) := by
  cases piece with
  | literal alone =>
    obtain rfl := Except.ok.inj h
    exact Or.inl ⟨by simp [Within, Piece.indexes], _, rfl, forall₂_follows_self _⟩
  | malformed fault => cases h
  | field part =>
    obtain ⟨value, spec, hvalue, hspec, hlaid⟩ := Field.exists_of_plain h
    rw [Piece.plain, Field.plain]
    have hlay : ∀ other, Similar value other → Guarded True (List.Forall₂ Follows text)
        (expandInner part.spec >>= fun spec => layOut spec other) := by
      intro other hsimilar
      obtain ⟨laid, hother, hfollows⟩ := layOut_follows hlaid hclean hsimilar
      exact Guarded.of_ok (except_bind_eq_ok_iff.mpr ⟨spec, hspec, hother⟩) hfollows
    refine ((Field.value_guarded hvalue hname).bind hlay).congr ?_
    simp [Piece.indexes]

/-- A nested spec that is usable for the probe differs for a name that is long enough in at most one
character of the name. -/
theorem expandPlain_follows {name : Text} (hname : name ≠ []) {spec : OuterSpec} {text : Text}
    (h : expandPlain probe spec = .ok text) (husable : Usable text) :
    Guarded (Within spec.indexes name) (List.Forall₂ Follows text) (expandPlain name spec) := by
  cases spec with
  | plain alone =>
    obtain rfl := Except.ok.inj h
    exact Or.inl ⟨by simp [Within, OuterSpec.indexes], _, rfl, forall₂_follows_self _⟩
  | nested pieces =>
    exact plainAll_guarded (R := List.Forall₂ Follows) (T := fun text => Clean text.tail)
      .nil (fun hfirst hothers => List.rel_append hfirst hothers) clean_tail_append
      (innerPiece_guarded hname) h husable.clean_tail

/-- So it is usable for this name as well. -/
theorem expandPlain_guarded {name : Text} (hname : name ≠ []) {spec : OuterSpec} {text : Text}
    (h : expandPlain probe spec = .ok text) (husable : Usable text) :
    Guarded (Within spec.indexes name) Usable (expandPlain name spec) :=
  (expandPlain_follows hname h husable).mono fun _ hfollows => husable.of_follows hfollows

theorem outerPiece_guarded {name : Text} (hname : name ≠ []) (piece : Piece OuterSpec)
    (text : Text) (h : piece.plain (expandPlain probe) probe = .ok text) :
    Guarded (Within (piece.indexes OuterSpec.indexes) name) (fun _ => True)
      (piece.plain (expandPlain name) name) := by
  cases piece with
  | literal alone => exact Or.inl ⟨by simp [Within, Piece.indexes], _, rfl, trivial⟩
  | malformed fault => cases h
  | field part =>
    obtain ⟨value, spec, hvalue, hspec, hlaid⟩ := Field.exists_of_plain h
    have husable : Usable spec := layOut_eq_ok_iff.mp ⟨text, hlaid⟩
    rw [Piece.plain, Field.plain]
    have hlay : ∀ other found, Usable found →
        Guarded True (fun _ => True) (layOut found other) := by
      intro other found hfound
      obtain ⟨laid, hother⟩ : ∃ laid, layOut found other = .ok laid := layOut_eq_ok_iff.mpr hfound
      exact Guarded.of_ok hother trivial
    have hrest : ∀ other, Guarded (Within part.spec.indexes name) (fun _ => True)
        (expandPlain name part.spec >>= fun spec => layOut spec other) := fun other =>
      ((expandPlain_guarded hname hspec husable).bind (hlay other)).congr (iff_of_eq (and_true _))
    refine ((Field.value_guarded hvalue hname).bind fun other _ => hrest other).congr ?_
    rw [Piece.indexes, within_append]

theorem plain_guarded {template : Template} {text name : Text}
    (h : template.plain probe = .ok text) (hname : name ≠ []) :
    Guarded (Within template.indexes name) (fun _ => True) (template.plain name) :=
  plainAll_guarded (R := fun _ _ => True) (T := fun _ => True) trivial (fun _ _ => trivial)
    (fun _ => ⟨trivial, trivial⟩)
    (fun piece text hpiece _ => outerPiece_guarded hname piece text hpiece) h trivial

theorem render_probe_of_accepted {text : Text} (h : check text = .accepted) :
    ∃ rendered, (ofText text).render Machine.checking probe = .ok rendered := by
  unfold check at h
  split_ifs at h
  split at h
  · next rendered hrendered => exact ⟨rendered, hrendered⟩
  · split_ifs at h

theorem plain_probe_of_accepted {text : Text} (h : check text = .accepted)
    (htextual : (ofText text).Textual) : ∃ rendered, (ofText text).plain probe = .ok rendered := by
  rw [← render_of_textual Machine.checking htextual]
  exact render_probe_of_accepted h

/-- An accepted template asks for none but the first nine characters. -/
theorem within_of_accepted {text name : Text} (h : check text = .accepted)
    (htextual : (ofText text).Textual) (hname : probe.length ≤ name.length) :
    Within (ofText text).indexes name := by
  obtain ⟨rendered, hrendered⟩ := plain_probe_of_accepted h htextual
  have hself : Guarded (Within (ofText text).indexes probe) (fun _ => True)
      ((ofText text).plain probe) := plain_guarded hrendered (by decide)
  have hprobe := hself.exists_ok_iff.mp ⟨rendered, hrendered⟩
  intro place hplace
  exact Nat.lt_of_lt_of_le (hprobe place hplace) hname

end Names

end ClientFacade.Template
