import ClientFacade.Proofs.Template.Placeholder

/-!
# What ends the check of a template

The check of a template reports the fault that the probe meets, except for these: an attribute and a
key, which texts do not have, a width that no text is built for, and a fault of an object that is
none of those the check looks out for. An object is only met behind an attribute. So a template
whose accesses are all indexes is accepted or rejected, unless it has such a width.
-/

namespace ClientFacade.Template

/-- Every fault of the step has the property. -/
def Ends {α : Type} (P : Fault → Prop) (step : Except Fault α) : Prop :=
  ∀ fault, step = .error fault → P fault

namespace Ends

variable {α β : Type} {P Q : Fault → Prop} {step : Except Fault α} {next : α → Except Fault β}

theorem ok (a : α) : Ends P (.ok a) := nofun

theorem error {fault : Fault} (h : P fault) : Ends P (.error fault : Except Fault α) := by
  intro other heq
  rwa [← Except.error.inj heq]

theorem bind_of_ok (hstep : Ends P step) (hnext : ∀ a, step = .ok a → Ends P (next a)) :
    Ends P (step >>= next) := by
  intro fault hfault
  cases hresult : step with
  | error other =>
    rw [hresult] at hfault
    exact hstep fault (hresult.trans (congrArg _ (Except.error.inj hfault)))
  | ok a =>
    rw [hresult] at hfault
    exact hnext a hresult fault hfault

theorem bind (hstep : Ends P step) (hnext : ∀ a, Ends P (next a)) : Ends P (step >>= next) :=
  hstep.bind_of_ok fun a _ => hnext a

theorem map {f : α → β} (hstep : Ends P step) : Ends P (step.map f) := by
  cases step with
  | error other => exact error (hstep other rfl)
  | ok a => exact ok (f a)

theorem mono (hstep : Ends P step) (h : ∀ fault, P fault → Q fault) : Ends Q step :=
  fun fault hfault => h fault (hstep fault hfault)

end Ends

def Reported (fault : Fault) : Prop := fault.reported = true

/-- One of the accesses asks for an attribute that texts have. -/
def AsksText (accesses : List Access) : Prop :=
  ∃ name ∈ textAttributes, .attribute name ∈ accesses

theorem AsksText.mono {accesses more : List Access} (hmore : accesses ⊆ more)
    (h : AsksText accesses) : AsksText more := by
  obtain ⟨name, hname, hmem⟩ := h
  exact ⟨name, hname, hmore hmem⟩

/-- The faults that end the check itself, with the access that they come from. -/
inductive Aborts (accesses : List Access) : Fault → Prop
  | byAttribute {name : Text} (h : .attribute name ∈ accesses) (hname : name ∉ textAttributes) :
    Aborts accesses (.noAttribute name)
  | byKey {name : Text} (h : .key name ∈ accesses) : Aborts accesses .textKey
  | byWidth : Aborts accesses .widthPastMemory
  | byObject {raised : Raised} (h : AsksText accesses)
    (hraised : (Fault.ofObject raised).reported = false) : Aborts accesses (.ofObject raised)

theorem Aborts.not_reported {accesses : List Access} {fault : Fault} (h : Aborts accesses fault) :
    fault.reported = false := by
  cases h with
  | byObject _ hraised => exact hraised
  | _ => rfl

theorem Aborts.mono {accesses more : List Access} (hmore : accesses ⊆ more) {fault : Fault}
    (h : Aborts accesses fault) : Aborts more fault := by
  cases h with
  | byAttribute hmem hname => exact .byAttribute (hmore hmem) hname
  | byKey hmem => exact .byKey (hmore hmem)
  | byWidth => exact .byWidth
  | byObject hasks hraised => exact .byObject (hasks.mono hmore) hraised

/-- A fault that is reported or comes from one of the accesses or from a width. -/
def Explained (accesses : List Access) (fault : Fault) : Prop :=
  Reported fault ∨ Aborts accesses fault

theorem Explained.mono {accesses more : List Access} (hmore : accesses ⊆ more) (fault : Fault)
    (h : Explained accesses fault) : Explained more fault :=
  h.imp_right (Aborts.mono hmore)

theorem explained_ofObject {accesses : List Access} (h : AsksText accesses) (raised : Raised) :
    Explained accesses (.ofObject raised) := by
  cases hraised : (Fault.ofObject raised).reported with
  | true => exact Or.inl hraised
  | false => exact Or.inr (.byObject h hraised)

/-! ## Reading -/

theorem reported_wholeNumber? (text : Text) : Ends Reported (wholeNumber? text) := by
  unfold wholeNumber?
  split
  · exact .error rfl
  · exact .ok _

theorem reported_resolve (text name : Text) : Ends Reported ((Base.ofText text).resolve name) := by
  unfold Base.ofText
  split_ifs
  · exact .error rfl
  · cases hnumber : wholeNumber? text with
    | error fault => exact .error (reported_wholeNumber? text fault hnumber)
    | ok found =>
      cases found with
      | some index => exact .error rfl
      | none =>
        simp only [Base.resolve]
        split_ifs
        · exact .ok name
        · exact .error rfl

theorem reported_of_ofIndex {inside : Text} {fault : Fault}
    (h : Access.ofIndex inside = .malformed fault) : Reported fault := by
  unfold Access.ofIndex at h
  cases hnumber : wholeNumber? inside with
  | error other =>
    rw [hnumber] at h
    rw [← Access.malformed.inj h]
    exact reported_wholeNumber? inside other hnumber
  | ok found =>
    rw [hnumber] at h
    cases found with
    | some place => cases h
    | none =>
      dsimp only at h
      split_ifs at h
      rw [← Access.malformed.inj h]
      rfl

theorem reported_of_mem_accesses {text : Text} {fault : Fault}
    (h : .malformed fault ∈ accesses text) : Reported fault := by
  fun_induction accesses text with
  | case1 => exact absurd h List.not_mem_nil
  | case3 rest _ ih =>
    rcases List.mem_cons.mp h with hattribute | hrest
    · cases hattribute
    · exact ih hrest
  | case5 rest inside after _ _ ih =>
    rcases List.mem_cons.mp h with hindex | hafter
    · exact reported_of_ofIndex hindex.symm
    · exact ih hafter
  | case2 | case4 | case6 =>
    rw [Access.malformed.inj (List.mem_singleton.mp h)]
    rfl

theorem reported_nameEnd (inIndex : Bool) (text : Text) : Ends Reported (nameEnd inIndex text) := by
  induction text generalizing inIndex with
  | nil => exact .error rfl
  | cons c rest ih =>
    unfold nameEnd
    split_ifs
    · exact (ih _).map
    · exact .error rfl
    · exact .ok _
    · exact (ih _).map

theorem reported_specEnd (depth : Nat) (text : Text) : Ends Reported (specEnd depth text) := by
  induction text generalizing depth with
  | nil => exact .error rfl
  | cons c rest ih =>
    unfold specEnd
    split_ifs
    · exact (ih _).map
    · cases depth with
      | zero => exact .ok _
      | succ depth => exact (ih depth).map
    · exact (ih _).map

theorem reported_tailEnd (mark : Char) (text : Text) : Ends Reported (tailEnd mark text) := by
  unfold tailEnd
  split_ifs
  · exact (reported_specEnd 0 text).map
  · split
    · exact .error rfl
    · exact .error rfl
    · split_ifs
      · exact .ok _
      · exact (reported_specEnd 0 _).map
      · exact .error rfl
  · exact .ok _

theorem reported_fieldEnd (text : Text) : Ends Reported (fieldEnd text) := by
  unfold fieldEnd
  cases hname : nameEnd false text with
  | error fault => exact .error (reported_nameEnd false text fault hname)
  | ok found => exact (reported_tailEnd found.2.1 found.2.2).map

theorem mem_readPieces_cases {σ : Type} {readSpec : Text → σ} {text : Text} {piece : Piece σ}
    (h : piece ∈ readPieces readSpec text) :
    (∃ alone, piece = .literal alone) ∨
      (∃ field : FieldText, piece = .field (field.read readSpec)) ∨
      ∃ fault, piece = .malformed fault ∧ Reported fault := by
  fun_induction readPieces readSpec text with
  | case1 => exact absurd h List.not_mem_nil
  | case2 | case3 | case6 => exact .inr (.inr ⟨_, List.mem_singleton.mp h, rfl⟩)
  | case4 => exact .inl ⟨_, List.mem_singleton.mp h⟩
  | case5 _ ih | case7 _ _ ih | case10 _ _ _ _ _ ih =>
    rcases List.mem_cons.mp h with hpiece | hrest
    · exact .inl ⟨_, hpiece⟩
    · exact ih hrest
  | case8 d rest _ fault hend =>
    exact .inr (.inr ⟨fault, List.mem_singleton.mp h, reported_fieldEnd _ fault hend⟩)
  | case9 d rest _ field after _ _ ih =>
    rcases List.mem_cons.mp h with hpiece | hrest
    · exact .inr (.inl ⟨field, hpiece⟩)
    · exact ih hrest

/-! ## Laying out -/

theorem reported_readNumber (text : Text) : Ends Reported (Layout.readNumber text) := by
  unfold Layout.readNumber
  split
  · exact .error rfl
  · exact .ok _

theorem reported_readSeparator (text : Text) : Ends Reported (Layout.readSeparator text) := by
  unfold Layout.readSeparator
  dsimp only
  split_ifs
  · exact .error rfl
  all_goals exact .ok _

theorem reported_readPrecision (text : Text) : Ends Reported (Layout.readPrecision text) := by
  unfold Layout.readPrecision
  split
  · exact .ok _
  · refine (reported_readNumber _).bind fun found => ?_
    split
    · exact .error rfl
    · exact .ok _

theorem reported_readKind (spec text : Text) : Ends Reported (Layout.readKind spec text) := by
  unfold Layout.readKind
  split
  · exact .ok _
  · exact .ok _
  · exact .error rfl

theorem reported_checkSeparator (separator : Option Char) (kind : Char) :
    Ends Reported (Layout.checkSeparator separator kind) := by
  unfold Layout.checkSeparator
  split
  · exact .ok _
  · split_ifs
    · exact .ok _
    · exact .error rfl

theorem reported_ofSpec (spec : Text) : Ends Reported (Layout.ofSpec spec) := by
  rw [Layout.ofSpec_eq, Layout.readBehind]
  refine (reported_readNumber _).bind fun width => ?_
  refine (reported_readSeparator _).bind fun separator => ?_
  refine (reported_readPrecision _).bind fun precision => ?_
  refine (reported_readKind _ _).bind fun kind => ?_
  exact (reported_checkSeparator _ _).bind fun _ => .ok _

section Layouts

variable [Machine]

theorem explained_of_refusal? {layout : Layout} {fault : Fault}
    (h : layout.refusal? = some fault) (accesses : List Access) : Explained accesses fault := by
  unfold Layout.refusal? at h
  split_ifs at h
  -- Of the tests of a layout only the last one, which is about its width, is not reported.
  pick_goal 7
  · rw [← Option.some.inj h]
    exact Or.inr .byWidth
  all_goals
    rw [← Option.some.inj h]
    exact Or.inl rfl

theorem explained_layOut (accesses : List Access) (spec text : Text) :
    Ends (Explained accesses) (layOut spec text) := by
  unfold layOut
  split_ifs
  · exact .ok text
  · refine ((reported_ofSpec spec).mono fun _ => Or.inl).bind fun layout => ?_
    unfold Layout.lay
    cases hrefusal : layout.refusal? with
    | none => exact .ok _
    | some fault => exact .error (explained_of_refusal? hrefusal accesses)

end Layouts

/-! ## Rendering -/

/-- An object is behind an attribute that is among the accesses. -/
def Thing.Behind (accesses : List Access) : Thing → Prop
  | .text _ => True
  | .object _ _ => AsksText accesses

section Accesses

variable {objects : Objects} {moment : Moment} {all : List Access} {thing : Thing}

theorem behind_follow (hall : AsksText all) {origin : Text} {path : List Access} {next : Thing}
    (h : objects.follow moment origin path = .ok next) : next.Behind all := by
  unfold Objects.follow at h
  split at h
  · rw [← Except.ok.inj h]
    trivial
  · rw [← Except.ok.inj h]
    exact hall
  · cases h

theorem explained_follow (hall : AsksText all) (origin : Text) (path : List Access) :
    Ends (Explained all) (objects.follow moment origin path) := by
  unfold Objects.follow
  split
  · exact .ok _
  · exact .ok _
  · exact .error (explained_ofObject hall _)

theorem behind_apply (hthing : thing.Behind all) {access : Access} (hmem : access ∈ all)
    {next : Thing} (h : access.apply objects moment thing = .ok next) : next.Behind all := by
  match thing, access with
  | _, .malformed fault => cases h
  | .object origin path, .attribute _ | .object origin path, .index _
  | .object origin path, .key _ => exact behind_follow hthing h
  | .text value, .attribute name =>
    rw [Access.apply] at h
    split at h
    · next hname => exact behind_follow ⟨name, List.elem_iff.mp hname, hmem⟩ h
    · cases h
  | .text value, .index place =>
    cases hplace : value[place]? with
    | none => simp [Access.apply, hplace] at h
    | some c =>
      simp only [Access.apply, hplace, Except.ok.injEq] at h
      rw [← h]
      trivial
  | .text value, .key name => cases h

theorem explained_apply (hthing : thing.Behind all) {access : Access} (hmem : access ∈ all)
    (hmalformed : ∀ fault, access = .malformed fault → Reported fault) :
    Ends (Explained all) (access.apply objects moment thing) := by
  match thing, access with
  | _, .malformed fault => exact .error (Or.inl (hmalformed fault rfl))
  | .object origin path, .attribute _ | .object origin path, .index _
  | .object origin path, .key _ => exact explained_follow hthing origin _
  | .text value, .attribute name =>
    rw [Access.apply]
    split
    · next hname => exact explained_follow ⟨name, List.elem_iff.mp hname, hmem⟩ value _
    · next hname =>
      exact .error (Or.inr (.byAttribute hmem fun hin => hname (List.elem_iff.mpr hin)))
  | .text value, .index place =>
    cases hplace : value[place]? with
    | none =>
      simp only [Access.apply, hplace]
      exact .error (Or.inl rfl)
    | some c =>
      simp only [Access.apply, hplace]
      exact .ok _
  | .text value, .key name => exact .error (Or.inr (.byKey hmem))

theorem behind_applyAll {accesses : List Access} (hsub : accesses ⊆ all)
    (hthing : thing.Behind all) {last : Thing}
    (h : applyAll objects moment thing accesses = .ok last) : last.Behind all := by
  induction accesses generalizing thing with
  | nil => exact Except.ok.inj h ▸ hthing
  | cons access rest ih =>
    obtain ⟨next, hnext, hrest⟩ := except_bind_eq_ok_iff.mp h
    obtain ⟨hmem, hmore⟩ := List.cons_subset.mp hsub
    exact ih hmore (behind_apply hthing hmem hnext) hrest

theorem explained_applyAll {accesses : List Access} (hsub : accesses ⊆ all)
    (hthing : thing.Behind all)
    (h : ∀ fault, .malformed fault ∈ accesses → Reported fault) :
    Ends (Explained all) (applyAll objects moment thing accesses) := by
  induction accesses generalizing thing with
  | nil => exact .ok thing
  | cons access rest ih =>
    obtain ⟨hmem, hmore⟩ := List.cons_subset.mp hsub
    have hfirst : Ends (Explained all) (access.apply objects (rest.length :: moment) thing) :=
      explained_apply hthing hmem fun fault hfault => h fault (hfault ▸ List.mem_cons_self)
    refine hfirst.bind_of_ok fun next hnext => ?_
    exact ih hmore (behind_apply hthing hmem hnext)
      fun fault hfault => h fault (List.mem_cons_of_mem _ hfault)

theorem reported_convert (value : Text) (conversion : Option Char) :
    Ends Reported (convert value conversion) := by
  unfold convert
  split
  case h_5 => exact .error rfl
  all_goals exact .ok _

theorem behind_convert (hthing : thing.Behind all) {conversion : Option Char} {converted : Thing}
    (h : thing.convert objects moment conversion = .ok converted) : converted.Behind all := by
  unfold Thing.convert at h
  split at h
  · obtain ⟨content, -, rfl⟩ := except_map_eq_ok_iff.mp h
    trivial
  · exact Except.ok.inj h ▸ hthing
  · split_ifs at h
    split at h
    · rw [← Except.ok.inj h]
      trivial
    · cases h

theorem explained_convert (hthing : thing.Behind all) (conversion : Option Char) :
    Ends (Explained all) (thing.convert objects moment conversion) := by
  unfold Thing.convert
  split
  · exact ((reported_convert _ _).mono fun _ => Or.inl).map
  · exact .ok _
  · split_ifs
    · split
      · exact .ok _
      · exact .error (explained_ofObject hthing _)
    · exact .error (Or.inl rfl)

theorem explained_thing_layOut [Machine] (hthing : thing.Behind all) (spec : Text) :
    Ends (Explained all) (thing.layOut objects moment spec) := by
  cases thing with
  | text value => exact explained_layOut all spec value
  | object origin path =>
    unfold Thing.layOut
    dsimp only
    split
    · exact .ok _
    · exact .error (explained_ofObject hthing _)

end Accesses

section Rendering

variable [Machine] {σ : Type} {readSpec : Text → σ} {inner : σ → List Access} {objects : Objects}

theorem explained_field {expand : σ → Except Fault Text} (moment : Moment) (name : Text)
    (text : FieldText)
    (hspec : Ends (Explained (inner (readSpec text.spec))) (expand (readSpec text.spec))) :
    Ends (Explained ((text.read readSpec).accesses ++ inner (readSpec text.spec)))
      ((text.read readSpec).render objects moment expand name) := by
  have hresolve : Ends (Explained ((text.read readSpec).accesses ++ inner (readSpec text.spec)))
      ((text.read readSpec).base.resolve name) :=
    (reported_resolve (text.name.takeWhile inName) name).mono fun _ => Or.inl
  have hexpand := hspec.mono
    (Explained.mono (List.subset_append_right (text.read readSpec).accesses _))
  have hsub := List.subset_append_left (text.read readSpec).accesses (inner (readSpec text.spec))
  refine hresolve.bind fun base => ?_
  have hbase : (Thing.text base).Behind
      ((text.read readSpec).accesses ++ inner (readSpec text.spec)) := trivial
  refine (explained_applyAll hsub hbase fun _ => reported_of_mem_accesses).bind_of_ok
    fun taken htaken => ?_
  have hbehind := behind_applyAll hsub hbase htaken
  refine (explained_convert hbehind _).bind_of_ok fun converted hconverted => ?_
  exact hexpand.bind fun spec => explained_thing_layOut (behind_convert hbehind hconverted) spec

omit [Machine] in
theorem ends_renderAll {P : Fault → Prop} {render : Nat → Piece σ → Except Fault Text}
    {pieces : List (Piece σ)} (h : ∀ piece ∈ pieces, ∀ place, Ends P (render place piece)) :
    Ends P (renderAll render pieces) := by
  induction pieces with
  | nil => exact .ok []
  | cons piece rest ih =>
    obtain ⟨hpiece, hrest⟩ := List.forall_mem_cons.mp h
    exact (hpiece _).bind fun _ => (ih hrest).bind fun _ => .ok _

theorem explained_renderAll {moment : Nat → Moment} {expand : Nat → σ → Except Fault Text}
    (hspec : ∀ place spec, Ends (Explained (inner (readSpec spec))) (expand place (readSpec spec)))
    (name text : Text) :
    Ends (Explained ((readPieces readSpec text).flatMap (Piece.allAccesses inner)))
      (renderAll (fun place => Piece.render objects (moment place) (expand place) name)
        (readPieces readSpec text)) := by
  refine ends_renderAll fun piece hmem place => ?_
  rcases mem_readPieces_cases hmem with ⟨alone, rfl⟩ | ⟨field, rfl⟩ | ⟨fault, rfl, hfault⟩
  · exact .ok alone
  · refine (explained_field _ name field (hspec place field.spec)).mono (Explained.mono ?_)
    exact fun access haccess => List.mem_flatMap.mpr ⟨_, hmem, haccess⟩
  · exact .error (Or.inl hfault)

end Rendering

theorem explained_expandInner (spec : Text) :
    Ends (Explained []) (expandInner (readInner spec)) := by
  unfold readInner Spec.ofText
  split_ifs
  · exact .error (Or.inl rfl)
  · exact .ok spec

section Checking

variable [Machine] {objects : Objects}

theorem explained_expandOuter (moment : Moment) (name spec : Text) :
    Ends (Explained (readOuter spec).allAccesses)
      (expandOuter objects moment name (readOuter spec)) := by
  unfold readOuter Spec.ofText
  split_ifs
  · have hspec : ∀ (_ : Nat) within, Ends (Explained ((fun _ => []) (readInner within)))
        (expandInner (readInner within)) := fun _ => explained_expandInner
    exact explained_renderAll hspec name spec
  · exact .ok spec

/-- A fault that the check of a template does not report comes from an access of one of its fields
or from a width. -/
theorem aborts_of_render {text name : Text} {fault : Fault}
    (h : (ofText text).render objects name = .error fault) (hunreported : fault.reported = false) :
    Aborts (ofText text).allAccesses fault := by
  have hexplained : Explained (ofText text).allAccesses fault :=
    explained_renderAll (fun place => explained_expandOuter [place] name) name text fault h
  refine hexplained.resolve_left fun hreported => ?_
  rw [Reported, hunreported] at hreported
  exact Bool.false_ne_true hreported

theorem check_eq_aborted_iff {text : Text} {fault : Fault} :
    check text = .aborted fault ↔ placeholder <:+: text ∧
      (ofText text).render Machine.checking probe = .error fault ∧
      Aborts (ofText text).allAccesses fault := by
  rw [← Text.hasPart_iff]
  unfold check
  constructor
  · intro h
    split_ifs at h with hpart
    refine ⟨hpart, ?_⟩
    cases hrender : (ofText text).render Machine.checking probe with
    | ok rendered => simp [hrender] at h
    | error found =>
      rw [hrender] at h
      dsimp only at h
      split_ifs at h with hreported
      obtain rfl := Verdict.aborted.inj h
      exact ⟨rfl, aborts_of_render hrender (by simpa using hreported)⟩
  · rintro ⟨hpart, hrender, haborts⟩
    rw [if_pos hpart, hrender]
    simp [haborts.not_reported]

end Checking

end ClientFacade.Template
