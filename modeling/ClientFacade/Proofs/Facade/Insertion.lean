import ClientFacade.Proofs.Aggregation.Retyped
import ClientFacade.Proofs.Facade.Collision
import ClientFacade.Proofs.Facade.Layout

/-!
# One more extraction

A further extraction at the end adds text to a facade in two places and changes nothing else. Its
delegates come right before the end of the class. If its submodule is a new one, the construction of
the sub-client comes right before the end of the constructor. Both texts follow from the extraction,
the type of its sub-client and the depth of the class, whatever else the facade holds. The other
types have to be the same in both texts, as they are if the template asks for no attribute.
-/

namespace ClientFacade

namespace Line

theorem render_flatMap {α : Type} (indent : Text) (items : List α) (f : α → List Line) :
    render indent (items.flatMap f) = items.flatMap fun item => render indent (f item) := by
  induction items with
  | nil => rfl
  | cons item rest ih => rw [List.flatMap_cons, List.flatMap_cons, render_append, ih]

theorem render_prefix {indent : Text} {first lines : List Line} (h : first <+: lines) :
    render indent first <+: render indent lines := by
  obtain ⟨rest, rfl⟩ := h
  rw [render_append]
  exact List.prefix_append _ _

end Line

namespace Facade

def adding (facade : Facade) (extraction : Extraction) : Facade :=
  { facade with extractions := facade.extractions ++ [extraction] }

/-- The lines before the end of the constructor. -/
def openedLines [Runtime] (facade : Facade) : List Line :=
  facade.openingLines ++ constructorDocs.map (.code (facade.classDepth + 1)) ++
    [.code (facade.classDepth + 1) constructorSignature] ++
    facade.constructorBody (facade.classDepth + 2)

/-- The lines from the end of the constructor up to the end of the class. -/
def innerLines (facade : Facade) : List Line :=
  [.code (facade.classDepth + 1) closing, .blank] ++ facade.delegateLines (facade.classDepth + 1)

theorem layout_eq_inner [Runtime] (facade : Facade) :
    facade.layout = facade.openedLines ++ facade.innerLines ++ closingLines facade.classDepth := by
  simp [layout, constructorLines, openedLines, innerLines]

variable {facade : Facade} {extraction : Extraction}

theorem submodules_adding :
    (facade.adding extraction).submodules = facade.submodules ++ [extraction.submodule] := by
  simp [submodules, adding]

theorem clients_adding_of_known (h : extraction.submodule ∈ facade.submodules) :
    (facade.adding extraction).clients = facade.clients := by
  rw [clients, submodules_adding, eraseDups_concat_of_mem h, clients]

theorem clients_adding_of_new (h : extraction.submodule ∉ facade.submodules) :
    (facade.adding extraction).clients = facade.clients ++ [extraction.submodule] := by
  rw [clients, submodules_adding, eraseDups_concat_of_not_mem h, clients]

theorem submodule_mem_clients_adding :
    extraction.submodule ∈ (facade.adding extraction).clients := by
  rw [clients, submodules_adding, List.mem_eraseDups]
  exact List.mem_append_right _ List.mem_cons_self

theorem openedLines_adding_of_known [Runtime] (h : extraction.submodule ∈ facade.submodules) :
    (facade.adding extraction).openedLines = facade.openedLines := by
  have hbody : ∀ depth, (facade.adding extraction).constructorBody depth =
      facade.constructorBody depth := by
    intro depth
    rw [constructorBody, clients_adding_of_known h]
    rfl
  rw [openedLines, hbody]
  rfl

theorem openedLines_adding_of_new [Runtime] (h : extraction.submodule ∉ facade.submodules) :
    (facade.adding extraction).openedLines = facade.openedLines ++
      construction (facade.classDepth + 2) extraction.submodule
        (facade.typeOf extraction.submodule) := by
  have hbody : ∀ depth, (facade.adding extraction).constructorBody depth =
      facade.constructorBody depth ++
        construction depth extraction.submodule (facade.typeOf extraction.submodule) := by
    intro depth
    rw [constructorBody, clients_adding_of_new h, List.flatMap_append, List.flatMap_singleton]
    rfl
  rw [openedLines, hbody, ← List.append_assoc]
  rfl

theorem innerLines_adding : (facade.adding extraction).innerLines =
    facade.innerLines ++ delegates (facade.classDepth + 1) extraction := by
  have hlines : ∀ depth, (facade.adding extraction).delegateLines depth =
      facade.delegateLines depth ++ delegates depth extraction := by
    intro depth
    rw [delegateLines, adding, List.flatMap_append, List.flatMap_singleton]
    rfl
  rw [innerLines, hlines, ← List.append_assoc]
  rfl

theorem Typed.of_adding [Runtime] (h : (facade.adding extraction).Typed) : facade.Typed := by
  intro submodule hmem
  refine h submodule ?_
  rw [clients, submodules_adding, List.mem_eraseDups]
  exact List.mem_append_left _ (List.mem_eraseDups.mp hmem)

theorem render_layout [Runtime] (facade : Facade) (indent : Text) :
    Line.render indent facade.layout = Line.render indent facade.openedLines ++
      Line.render indent facade.innerLines ++
      Line.render indent (closingLines facade.classDepth) := by
  rw [layout_eq_inner, Line.render_append, Line.render_append]

theorem render_delegates (indent : Text) (depth : Nat) (extraction : Extraction) :
    Line.render indent (delegates depth extraction) = (delegated extraction).flatMap fun method =>
      Line.render indent (delegate depth (identifier extraction.submodule) method) :=
  Line.render_flatMap indent _ _

theorem closingLines_begin (depth : Nat) : [.code depth closing] <+: closingLines depth := by
  cases depth with
  | zero => exact List.prefix_rfl
  | succ depth => exact ⟨closingLines depth, rfl⟩

/-- The text of a facade with one more extraction, in the parts of the text without it. -/
theorem render_layout_adding [Runtime] (facade : Facade) (extraction : Extraction)
    (indent : Text) :
    Line.render indent (facade.adding extraction).layout =
      Line.render indent facade.openedLines ++
        (if extraction.submodule ∈ facade.submodules then []
          else Line.render indent (construction (facade.classDepth + 2) extraction.submodule
            (facade.typeOf extraction.submodule))) ++
        Line.render indent facade.innerLines ++
        (delegated extraction).flatMap (fun method => Line.render indent
          (delegate (facade.classDepth + 1) (identifier extraction.submodule) method)) ++
        Line.render indent (closingLines facade.classDepth) := by
  have hdepth : (facade.adding extraction).classDepth = facade.classDepth := rfl
  rw [render_layout, innerLines_adding, Line.render_append, hdepth, render_delegates]
  by_cases hknown : extraction.submodule ∈ facade.submodules
  · rw [if_pos hknown, openedLines_adding_of_known hknown, List.append_nil]
    simp only [List.append_assoc]
  · rw [if_neg hknown, openedLines_adding_of_new hknown, Line.render_append]
    simp only [List.append_assoc]

section SameTypes

variable [runtime : Runtime] {later : Text → Template.Objects}

theorem SameTypes.openedLines_eq (h : facade.SameTypes later) :
    @openedLines (runtime.retyped later) facade = facade.openedLines := by
  have hbody : ∀ depth, @constructorBody (runtime.retyped later) facade depth =
      facade.constructorBody depth := by
    intro depth
    refine List.flatMap_congr fun submodule hmem => ?_
    unfold typeOf
    rw [h submodule (List.mem_eraseDups.mp hmem)]
  unfold openedLines
  rw [hbody]

theorem SameTypes.typed (h : facade.SameTypes later)
    (htyped : @Typed (runtime.retyped later) facade) : facade.Typed := by
  intro submodule hmem
  have htype := htyped submodule hmem
  rw [h submodule (List.mem_eraseDups.mp hmem)] at htype
  exact clientType_eq_ok_typeOf htype

end SameTypes

/-- If a facade with one more extraction can be rendered, its text is that of the facade without it
with two insertions. The construction of the submodule, unless the submodule is known, stands right
before the end of the constructor, and the delegates of the extraction stand right before the end of
the class. This holds if the types of the other submodules are the same among the objects of both
texts. If the template asks for no attribute, they are, and the inserted type is always the same. -/
theorem adding_only_inserts [runtime : Runtime] (facade : Facade) (extraction : Extraction)
    (indent text : Text) (later : Text → Template.Objects)
    (h : (@generate (runtime.retyped later) (facade.adding extraction) indent).outcome =
      .ok text) :
    ∃ type, (Template.ofText facade.template).render (later extraction.submodule)
        extraction.submodule = .ok type ∧
      (facade.SameTypes later →
        (facade.generate indent).outcome = .ok (Line.render indent facade.openedLines ++
          Line.render indent facade.innerLines ++
          Line.render indent (closingLines facade.classDepth)) ∧
        text = Line.render indent facade.openedLines ++
          (if extraction.submodule ∈ facade.submodules then []
            else Line.render indent
              (construction (facade.classDepth + 2) extraction.submodule type)) ++
          Line.render indent facade.innerLines ++
          (delegated extraction).flatMap (fun method => Line.render indent
            (delegate (facade.classDepth + 1) (identifier extraction.submodule) method)) ++
          Line.render indent (closingLines facade.classDepth)) ∧
      ((Template.ofText facade.template).Textual → facade.SameTypes later ∧
        ∀ objects, (Template.ofText facade.template).render objects extraction.submodule =
          .ok type) ∧
      Line.render indent [.code (facade.classDepth + 1) closing] <+:
        Line.render indent facade.innerLines ∧
      Line.render indent [.code facade.classDepth closing] <+:
        Line.render indent (closingLines facade.classDepth) := by
  obtain ⟨htyped, htext⟩ := @render_eq_ok (runtime.retyped later) _ _ _
    (@Aggregator.render_of_generate (runtime.retyped later) _ _ _ h)
  have htype := htyped extraction.submodule submodule_mem_clients_adding
  refine ⟨_, htype, fun hsame => ⟨?_, ?_⟩, fun htextual => ⟨?_, fun objects => ?_⟩,
    Line.render_prefix (List.prefix_append [Line.code _ closing] _),
    Line.render_prefix (closingLines_begin facade.classDepth)⟩
  · have hfacade := hsame.typed (@Typed.of_adding _ _ (runtime.retyped later) htyped)
    rw [generate_of_render (render_of_typed hfacade indent), render_layout]
  · rw [htext, @render_layout_adding (runtime.retyped later), hsame.openedLines_eq]
    rfl
  · exact facade.sameTypes_of_textual htextual later
  · rw [← htype]
    exact (facade.clientType_of_textual htextual objects _).trans
      (facade.clientType_of_textual htextual (later extraction.submodule) _).symm

section Examples

attribute [local instance] Runtime.shared

def pingFacade : Facade where
  modulePath := ["All"]
  className := "Client"
  template := "::{submodule}"
  extractions := [⟨"Foo", "foo.rb", [⟨[], "def ping"⟩]⟩]

/-- A sub-client with a constructor of its own, which is left out, and one method. -/
def billingExtraction : Extraction where
  submodule := "Billing"
  path := "billing.rb"
  methods := [⟨[], "def initialize(url)"⟩, ⟨["  # Lists."], "def list(page:)"⟩]

theorem adding_only_inserts_of_billingExtraction :
    ∃ text before inner behind,
      (@generate (Runtime.shared.retyped Aggregator.elsewhere)
        (pingFacade.adding billingExtraction) Line.defaultIndent).outcome = .ok text ∧
      (pingFacade.generate Line.defaultIndent).outcome = .ok (before ++ inner ++ behind) ∧
      text = before ++
        Line.render Line.defaultIndent (construction 3 "Billing" "::Billing") ++ inner ++
        Line.render Line.defaultIndent [.code 2 "# Lists.", .code 2 "def list(page:)",
          .code 3 "@billing_client.list(page:)", .code 2 "end", .blank] ++ behind := by
  have hgives : (@generate (Runtime.shared.retyped Aggregator.elsewhere)
      (pingFacade.adding billingExtraction) Line.defaultIndent).outcome.toOption.any
        (fun _ => true) = true := by decide +kernel
  obtain ⟨text, hgenerate, -⟩ := exists_ok_of_any_toOption hgives
  obtain ⟨type, -, hinserts, htypes, -, -⟩ := adding_only_inserts pingFacade billingExtraction
    Line.defaultIndent text Aggregator.elsewhere hgenerate
  obtain ⟨hsame, htype⟩ := htypes (by decide +kernel)
  obtain ⟨hbefore, htext⟩ := hinserts hsame
  have hnew : billingExtraction.submodule ∉ pingFacade.submodules := by decide +kernel
  have hbilling : (Template.ofText pingFacade.template).render (Aggregator.elsewhere "Billing")
      billingExtraction.submodule = .ok "::Billing" := by decide +kernel
  obtain rfl := Except.ok.inj ((htype (Aggregator.elsewhere "Billing")).symm.trans hbilling)
  rw [if_neg hnew] at htext
  refine ⟨_, _, _, _, hgenerate, hbefore, htext.trans ?_⟩
  have hdelegates : (delegated billingExtraction).flatMap (fun method =>
      Line.render Line.defaultIndent (delegate (pingFacade.classDepth + 1)
        (identifier billingExtraction.submodule) method)) =
      Line.render Line.defaultIndent [.code 2 "# Lists.", .code 2 "def list(page:)",
        .code 3 "@billing_client.list(page:)", .code 2 "end", .blank] := by decide +kernel
  rw [hdelegates]
  rfl

/-- A facade whose types end in the address of a method that is made for every look at it. -/
def addressFacade : Facade :=
  { pingFacade with template := "\x7bsubmodule\x7d\x7bsubmodule.upper.__call__\x7d" }

/-- With an address in a type the text is not what it was with something put in: a seven gets
lost. -/
theorem not_forall_adding_only_inserts :
    ¬ ∀ (facade : Facade) (extraction : Extraction) (indent text : Text)
      (later : Text → Template.Objects), Template.check facade.template = .accepted →
      (@generate (Runtime.shared.retyped later) (facade.adding extraction) indent).outcome =
        .ok text →
      ∃ before inner behind first second,
        (facade.generate indent).outcome = .ok (before ++ inner ++ behind) ∧
        text = before ++ first ++ inner ++ second ++ behind := by
  intro h
  have hgives : (@generate (Runtime.shared.retyped Aggregator.elsewhere)
      (addressFacade.adding billingExtraction) []).outcome.toOption.any
        (fun text => text.count '7' = 0) = true := by decide +kernel
  have hseven : (addressFacade.generate []).outcome.toOption.any
      (fun text => text.count '7' = 1) = true := by decide +kernel
  obtain ⟨text, htext, hnone⟩ := exists_ok_of_any_toOption hgives
  obtain ⟨before, inner, behind, first, second, hbefore, hparts⟩ :=
    h addressFacade billingExtraction [] text Aggregator.elsewhere
      (by decide +kernel) htext
  rw [hbefore] at hseven
  rw [hparts] at hnone
  simp only [Except.toOption, Option.any_some, decide_eq_true_eq, List.count_append] at hseven hnone
  omega

end Examples

end Facade

end ClientFacade
