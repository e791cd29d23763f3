import ClientFacade.Proofs.Template.Placeholder

/-!
# Which templates show the name

A field shows the name if it takes the whole name, does not quote it and sets no greatest length. An
accepted template has the name in every type if one of its fields does, and unless it asks for
attributes only then. To be accepted, it needs no such field: the text of the template has to hold
the placeholder, and a placeholder between doubled braces is literal text. A template with this one
only may give all names the same type.
-/

namespace ClientFacade.Template

namespace Layout

theorem infix_pad (layout : Layout) (text : Text) : text <:+: layout.pad text := ⟨_, _, rfl⟩

theorem count_pad_le (layout : Layout) (text : Text) (c : Char) :
    (layout.pad text).count c ≤ layout.width.getD 0 + text.count c := by
  have hbefore : layout.before (layout.width.getD 0 - text.length) ≤
      layout.width.getD 0 - text.length := by
    unfold before
    split <;> omega
  have hfill : ∀ n, (List.replicate n layout.fill).count c ≤ n := fun n => by
    simpa using List.count_le_length (a := c) (l := List.replicate n layout.fill)
  simp only [pad, List.count_append]
  have hleft := hfill (layout.before (layout.width.getD 0 - text.length))
  have hright := hfill (layout.width.getD 0 - text.length -
    layout.before (layout.width.getD 0 - text.length))
  omega

theorem count_cut_le (layout : Layout) (text : Text) (c : Char) :
    (layout.cut text).count c ≤ text.count c := by
  unfold cut
  split
  · exact Nat.le_refl _
  · exact (List.take_sublist _ _).count_le c

end Layout

namespace Field

section Probe

variable [Machine] {field : Field OuterSpec} {text name type : Text}

def layout? (field : Field OuterSpec) : Option Layout :=
  (expandPlain probe field.spec).toOption.bind fun spec => (Layout.ofSpec spec).toOption

/-- The field makes room for the whole name and leaves it as it is. -/
structure ShowsName (field : Field OuterSpec) : Prop where
  accesses : field.accesses = []
  textual : NoAttributes field.spec.allAccesses
  conversion : field.conversion = none ∨ field.conversion = some 's'
  uncut : ∀ layout ∈ field.layout?, layout.precision = none

/-- For any other name a field is laid out as for the probe, with another fill character perhaps. -/
theorem exists_layout (hprobe : field.plain (expandPlain probe) probe = .ok text) :
    ∃ layout, field.layout? = some layout ∧ ∀ name type, name ≠ [] →
      field.plain (expandPlain name) name = .ok type →
      ∃ value fill, field.value name = .ok value ∧
        type = { layout with fill := fill }.pad (layout.cut value) := by
  obtain ⟨shown, spec, -, hspec, hlaid⟩ := exists_of_plain hprobe
  have husable : Usable spec := layOut_eq_ok_iff.mp ⟨text, hlaid⟩
  obtain ⟨layout, hlayout, hrefusal, -⟩ := layOut_eq_iff.mp hlaid
  refine ⟨layout, ?_, ?_⟩
  · rw [layout?, hspec]
    simp [Except.toOption, hlayout]
  · intro name type hname htype
    obtain ⟨value, other, hvalue, hother, hlaid⟩ := exists_of_plain htype
    rcases expandPlain_follows hname hspec husable with ⟨-, found, hfound, hfollows⟩ | ⟨-, hfault⟩
    · obtain rfl : found = other := Except.ok.inj (hfound.symm.trans hother)
      obtain ⟨fill, hfill⟩ := Usable.exists_fill_of_follows hlayout hrefusal hfollows
      obtain ⟨used, hused, -, rfl⟩ := layOut_eq_iff.mp hlaid
      obtain rfl := Except.ok.inj (hfill.symm.trans hused)
      exact ⟨value, fill, hvalue, rfl⟩
    · rw [hfault] at hother
      cases hother

theorem ShowsName.value_eq (h : field.ShowsName) {value : Text}
    (hvalue : field.value name = .ok value) : value = name := by
  obtain ⟨-, taken, htaken, hconverted⟩ := value_eq_ok_iff.mp hvalue
  rw [h.accesses] at htaken
  obtain rfl := Except.ok.inj htaken
  rcases h.conversion with hnone | hplain
  · rw [hnone] at hconverted
    exact (Except.ok.inj hconverted).symm
  · rw [hplain] at hconverted
    exact (Except.ok.inj hconverted).symm

theorem ShowsName.stands_in (h : field.ShowsName)
    (hprobe : field.plain (expandPlain probe) probe = .ok text)
    (htype : field.plain (expandPlain name) name = .ok type) : name <:+: type := by
  by_cases hname : name = []
  · rw [hname]
    exact List.nil_infix
  · obtain ⟨layout, hlayout, hall⟩ := exists_layout hprobe
    obtain ⟨value, fill, hvalue, rfl⟩ := hall name type hname htype
    have huncut : layout.cut value = value := by rw [Layout.cut, h.uncut layout hlayout]
    rw [huncut, h.value_eq hvalue]
    exact Layout.infix_pad _ _

end Probe

/-- A character that is no blank and that every quotation escapes. -/
def hidden : Char := '\x01'

def hiddenName (n : Nat) : Text := List.replicate n hidden

theorem hiddenName_ne_nil {n : Nat} (hn : n ≠ 0) : hiddenName n ≠ [] := by
  simpa [hiddenName] using hn

theorem hidden_not_mem_quotedBy {shown : Char → Bool} (hshown : shown hidden = false) (n : Nat) :
    hidden ∉ Text.quotedBy shown (hiddenName n) := by
  have hquote : Text.quoteFor (hiddenName n) = '\'' := by
    have hnone : '\'' ∉ hiddenName n := fun hmem =>
      absurd (List.eq_of_mem_replicate hmem) (by decide)
    simp [Text.quoteFor, hnone]
  have hchar : Text.quoteChar shown '\'' hidden = "\\x01" := by
    unfold Text.quoteChar
    rw [hshown]
    decide
  unfold Text.quotedBy
  rw [hquote]
  intro hmem
  rcases List.mem_append.mp hmem with hfront | hend
  · rcases List.mem_cons.mp hfront with hopen | hinside
    · exact absurd hopen (by decide)
    · obtain ⟨c, hc, hin⟩ := List.mem_flatMap.mp hinside
      rw [List.eq_of_mem_replicate hc, hchar] at hin
      exact absurd hin (by decide)
  · exact absurd (List.mem_singleton.mp hend) (by decide)

/-- Of this name a field takes one character or all. -/
theorem exists_taken {accesses : List Access} {n : Nat} {taken : Text}
    (h : takeAll (hiddenName n) accesses = .ok taken) :
    ∃ k, taken = hiddenName k ∧ (accesses = [] ∨ k = 1) := by
  cases accesses with
  | nil => exact ⟨n, (Except.ok.inj h).symm, Or.inl rfl⟩
  | cons access rest =>
    obtain ⟨next, haccess, hrest⟩ := except_bind_eq_ok_iff.mp h
    obtain ⟨place, c, rfl, hc, rfl⟩ := exists_index_of_take haccess
    obtain rfl : c = hidden := List.eq_of_mem_replicate (List.mem_of_getElem? hc)
    exact ⟨1, (takeAll_single hrest).1, Or.inr rfl⟩

theorem count_value {field : Field OuterSpec} {n : Nat} {value : Text}
    (h : field.value (hiddenName n) = .ok value) :
    value.count hidden ≤ 1 ∨
      field.accesses = [] ∧ (field.conversion = none ∨ field.conversion = some 's') := by
  obtain ⟨-, taken, htaken, hconverted⟩ := value_eq_ok_iff.mp h
  obtain ⟨k, rfl, hk⟩ := exists_taken htaken
  have hquoted : ∀ shown, shown hidden = false →
      (Text.quotedBy shown (hiddenName k)).count hidden ≤ 1 := by
    intro shown hshown
    rw [List.count_eq_zero_of_not_mem (hidden_not_mem_quotedBy hshown k)]
    exact Nat.zero_le 1
  have hwhole : hiddenName k = value → field.conversion = none ∨ field.conversion = some 's' →
      value.count hidden ≤ 1 ∨
        field.accesses = [] ∧ (field.conversion = none ∨ field.conversion = some 's') := by
    rintro rfl hconversion
    rcases hk with hnone | rfl
    · exact Or.inr ⟨hnone, hconversion⟩
    · exact Or.inl (by decide)
  unfold convert at hconverted
  split at hconverted
  · next hnone => exact hwhole (Except.ok.inj hconverted) (Or.inl hnone)
  · next hplain => exact hwhole (Except.ok.inj hconverted) (Or.inr hplain)
  · rw [← Except.ok.inj hconverted]
    exact Or.inl (hquoted _ (by decide +kernel))
  · rw [← Except.ok.inj hconverted]
    exact Or.inl (hquoted _ (by decide +kernel))
  · cases hconverted

/-- A field that does not show the name has room for so many of its characters only. -/
theorem exists_bound [Machine] {field : Field OuterSpec} {text : Text}
    (hprobe : field.plain (expandPlain probe) probe = .ok text)
    (htextual : NoAttributes field.spec.allAccesses) (hfield : ¬ field.ShowsName) :
    ∃ bound, ∀ n type, n ≠ 0 →
      field.plain (expandPlain (hiddenName n)) (hiddenName n) = .ok type →
      type.count hidden ≤ bound := by
  obtain ⟨layout, hlayout, hall⟩ := exists_layout hprobe
  refine ⟨layout.width.getD 0 + max 1 (layout.precision.getD 0), fun n type hn htype => ?_⟩
  obtain ⟨value, fill, hvalue, rfl⟩ := hall _ _ (hiddenName_ne_nil hn) htype
  have hpad := Layout.count_pad_le { layout with fill := fill } (layout.cut value) hidden
  have hcut : (layout.cut value).count hidden ≤ max 1 (layout.precision.getD 0) := by
    rcases count_value hvalue with hone | ⟨haccesses, hconversion⟩
    · exact (Layout.count_cut_le layout value hidden).trans (hone.trans (Nat.le_max_left _ _))
    · cases hprecision : layout.precision with
      | none =>
        refine absurd ⟨haccesses, htextual, hconversion, fun other hother => ?_⟩ hfield
        obtain rfl := Option.some.inj (hlayout.symm.trans hother)
        exact hprecision
      | some precision =>
        have hlength : (layout.cut value).length ≤ precision := by
          rw [Layout.cut, hprecision]
          exact List.length_take_le _ _
        have hcount := List.count_le_length (a := hidden) (l := layout.cut value)
        exact hcount.trans (hlength.trans (Nat.le_max_right _ _))
  exact hpad.trans (Nat.add_le_add_left hcut _)

end Field

section Pieces

variable [Machine]

/-- Pieces none of which shows the name have room for so many of its characters only. -/
theorem exists_bound_plainAll {pieces : List (Piece OuterSpec)} {text : Text}
    (hprobe : plainAll (expandPlain probe) probe pieces = .ok text)
    (htextual : NoAttributes (pieces.flatMap (Piece.allAccesses OuterSpec.allAccesses)))
    (h : ∀ field, .field field ∈ pieces → ¬ field.ShowsName) :
    ∃ bound, ∀ n type, n ≠ 0 →
      plainAll (expandPlain (Field.hiddenName n)) (Field.hiddenName n) pieces = .ok type →
      type.count Field.hidden ≤ bound := by
  induction pieces generalizing text with
  | nil =>
    refine ⟨0, fun n type _ htype => ?_⟩
    rw [← Except.ok.inj htype]
    exact Nat.le_refl 0
  | cons piece rest ih =>
    obtain ⟨first, others, hfirst, hothers, -⟩ := plainAll_cons_eq_ok hprobe
    obtain ⟨hpiece, hrest⟩ := noAttributes_append.mp htextual
    obtain ⟨bound, hbound⟩ :=
      ih hothers hrest fun field hmem => h field (List.mem_cons_of_mem _ hmem)
    obtain ⟨own, hown⟩ : ∃ own, ∀ n part, n ≠ 0 →
        piece.plain (expandPlain (Field.hiddenName n)) (Field.hiddenName n) = .ok part →
        part.count Field.hidden ≤ own := by
      cases piece with
      | literal alone =>
        refine ⟨alone.count Field.hidden, fun n part _ hpart => ?_⟩
        rw [← Except.ok.inj hpart]
      | malformed fault => cases hfirst
      | field field =>
        exact Field.exists_bound hfirst (noAttributes_append.mp hpiece).2
          (h field List.mem_cons_self)
    refine ⟨own + bound, fun n type hn htype => ?_⟩
    obtain ⟨part, more, hpart, hmore, rfl⟩ := plainAll_cons_eq_ok htype
    rw [List.count_append]
    exact Nat.add_le_add (hown n part hn hpart) (hbound n more hn hmore)

def Field.bare : Field OuterSpec := ⟨.named fieldName, [], none, .plain []⟩

theorem Field.showsName_bare : Field.bare.ShowsName where
  accesses := rfl
  textual := by simp [NoAttributes, Field.bare, OuterSpec.allAccesses]
  conversion := Or.inl rfl
  uncut layout hlayout := by
    obtain rfl : Layout.plain = layout := Option.some.inj hlayout
    rfl

omit [Machine] in
/-- What a piece makes stands in what all of them make. -/
theorem exists_part_of_renderAll {σ : Type} {render : Nat → Piece σ → Except Fault Text}
    {piece : Piece σ} {pieces : List (Piece σ)} {rendered : Text} (hmem : piece ∈ pieces)
    (h : renderAll render pieces = .ok rendered) :
    ∃ place part, render place piece = .ok part ∧ part <:+: rendered := by
  induction pieces generalizing rendered with
  | nil => cases hmem
  | cons other rest ih =>
    obtain ⟨first, hfirst, h₁⟩ := except_bind_eq_ok_iff.mp h
    obtain ⟨others, hothers, h₂⟩ := except_bind_eq_ok_iff.mp h₁
    obtain rfl := Except.ok.inj h₂
    rcases List.mem_cons.mp hmem with rfl | hrest
    · exact ⟨rest.length, first, hfirst, (List.prefix_append first others).isInfix⟩
    · obtain ⟨place, part, hpart, hinfix⟩ := ih hrest hothers
      exact ⟨place, part, hpart, hinfix.trans (List.suffix_append first others).isInfix⟩

/-- A template with a field that shows the name has it in every type, whatever objects there are. -/
theorem infix_of_showsName {text name type : Text} {field : Field OuterSpec} {objects : Objects}
    (haccepted : check text = .accepted) (hmem : .field field ∈ (ofText text).pieces)
    (hshows : field.ShowsName) (htype : (ofText text).render objects name = .ok type) :
    name <:+: type := by
  have hplain : ∀ {objects : Objects} {name rendered : Text},
      (ofText text).render objects name = .ok rendered →
      ∃ part, field.plain (expandPlain name) name = .ok part ∧ part <:+: rendered := by
    intro objects name rendered hrendered
    obtain ⟨place, part, hpart, hinfix⟩ := exists_part_of_renderAll hmem hrendered
    have haccesses : NoAttributes field.accesses := by simp [NoAttributes, hshows.accesses]
    refine ⟨part, ?_, hinfix⟩
    rw [← hpart]
    exact (Field.render_eq_plain objects haccesses
      (expandOuter_eq_expandPlain objects hshows.textual _ name) _ name).symm
  obtain ⟨rendered, hrendered⟩ := render_probe_of_accepted haccepted
  obtain ⟨shown, hprobe, -⟩ := hplain hrendered
  obtain ⟨part, hpart, hinfix⟩ := hplain htype
  exact (hshows.stands_in hprobe hpart).trans hinfix

/-- If none of the fields shows the name, there is a name with a type that it does not stand in. -/
theorem exists_name_not_infix {text : Text} (haccepted : check text = .accepted)
    (htextual : (ofText text).Textual)
    (h : ∀ field, .field field ∈ (ofText text).pieces → ¬ field.ShowsName) :
    ∃ name type, (ofText text).plain name = .ok type ∧ ¬ name <:+: type := by
  obtain ⟨rendered, hprobe⟩ := plain_probe_of_accepted haccepted htextual
  obtain ⟨bound, hbound⟩ := exists_bound_plainAll hprobe htextual h
  -- A name longer than the probe always has a type, and this one has no room in it.
  let n := max probe.length (bound + 1)
  have hlong : probe.length ≤ (Field.hiddenName n).length := by
    rw [Field.hiddenName, List.length_replicate]
    exact Nat.le_max_left _ _
  have hn : n ≠ 0 := by omega
  obtain ⟨type, htype⟩ := (plain_guarded hprobe (Field.hiddenName_ne_nil hn)).exists_ok_iff.mpr
    (within_of_accepted haccepted htextual hlong)
  refine ⟨Field.hiddenName n, type, htype, fun hinfix => ?_⟩
  have hcount := hinfix.sublist.count_le Field.hidden
  have hself : (Field.hiddenName n).count Field.hidden = n := by simp [Field.hiddenName]
  have hroom := hbound n type hn htype
  omega

/-- An accepted template has the name in every type if one of its fields shows the name, whatever
objects there are. If it asks for no attribute, it has the name in every type only then, and the
placeholder alone does if it is a field of its own. Otherwise the placeholder is literal text, so
that every type has it in it. -/
theorem name_stands_in_types_iff (text : Text) (haccepted : check text = .accepted) :
    (∀ field, .field field ∈ (ofText text).pieces → field.ShowsName →
      ∀ objects name type, (ofText text).render objects name = .ok type → name <:+: type) ∧
    ((ofText text).Textual → ∀ objects,
      ((∀ name type, (ofText text).render objects name = .ok type → name <:+: type) ↔
        ∃ field, .field field ∈ (ofText text).pieces ∧ field.ShowsName) ∧
      (.field .bare ∈ (ofText text).pieces ∧ Field.bare.ShowsName ∨
        ∀ name type, (ofText text).render objects name = .ok type → placeholder <:+: type)) := by
  refine ⟨fun field hmem hshows objects name type => infix_of_showsName haccepted hmem hshows,
    fun htextual objects => ⟨⟨fun hall => ?_, ?_⟩, ?_⟩⟩
  · by_contra hnone
    obtain ⟨name, type, htype, hmissing⟩ := exists_name_not_infix haccepted htextual
      fun field hmem hshows => hnone ⟨field, hmem, hshows⟩
    exact hmissing (hall name type (by rw [render_of_textual objects htextual, htype]))
  · rintro ⟨field, hmem, hshows⟩ name type
    exact infix_of_showsName haccepted hmem hshows
  · rcases holdsPlaceholder_of_accepted haccepted htextual with hbare | hliteral
    · rw [read_bare] at hbare
      exact Or.inl ⟨hbare, Field.showsName_bare⟩
    · refine Or.inr fun name type htype => ?_
      rw [render_of_textual objects htextual] at htype
      exact infix_of_literal hliteral htype

end Pieces

section Examples

attribute [local instance] Runtime.shared

/-- The placeholder between a literal opening brace and a literal closing one. -/
def enclosedTemplate : Text := "\x7b\x7b\x7bsubmodule\x7d\x7d\x7d"

def escapedTemplate : Text := "\x7b\x7bsubmodule\x7d\x7d"

/-- A literal placeholder and a field that leads over a method back to the name. -/
def roundaboutTemplate : Text := "\x7b\x7bsubmodule\x7d\x7d\x7bsubmodule.upper.__self__\x7d"

theorem name_stands_in_types_iff_of_enclosedTemplate :
    (∀ objects name type, (ofText enclosedTemplate).render objects name = .ok type →
      name <:+: type) ∧
      ∀ field, .field field ∈ (ofText escapedTemplate).pieces → ¬ field.ShowsName := by
  obtain ⟨-, henclosed⟩ := name_stands_in_types_iff enclosedTemplate (by decide +kernel)
  obtain ⟨-, hescaped⟩ := name_stands_in_types_iff escapedTemplate (by decide +kernel)
  constructor
  · intro objects
    obtain ⟨hiff, hplaceholder⟩ := henclosed (by decide +kernel) objects
    rcases hplaceholder with hbare | hliteral
    · exact hiff.mpr ⟨.bare, hbare⟩
    · have htype : (ofText enclosedTemplate).render objects "Foo" = .ok "\x7bFoo\x7d" := by
        rw [render_of_textual objects (by decide +kernel)]
        decide +kernel
      exact absurd (hliteral _ _ htype) (by decide)
  · intro field hmem hshows
    have htype : (ofText escapedTemplate).render Machine.checking "Foo" =
        .ok "\x7bsubmodule\x7d" := by decide +kernel
    obtain ⟨hiff, -⟩ := hescaped (by decide +kernel) Machine.checking
    exact absurd (hiff.mpr ⟨field, hmem, hshows⟩ _ _ htype) (by decide)

/-- A placeholder between doubled braces is accepted, and its type is the same for all names. -/
theorem not_forall_name_in_type :
    ¬ ∀ text objects name type, check text = .accepted →
      (ofText text).render objects name = .ok type → name <:+: type := by
  intro h
  have hinfix := h escapedTemplate Machine.checking "Foo" "\x7bsubmodule\x7d" (by decide +kernel)
    (by decide +kernel)
  exact absurd hinfix (by decide)

/-- With attributes the name can stand in a type though no field takes it by itself. -/
example : check roundaboutTemplate = .accepted ∧
    (ofText roundaboutTemplate).render Machine.checking "Foo" =
      .ok "\x7bsubmodule\x7dFoo" := by decide +kernel

end Examples

end ClientFacade.Template
