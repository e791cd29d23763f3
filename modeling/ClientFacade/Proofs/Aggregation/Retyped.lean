import ClientFacade.Proofs.Aggregation.Run

/-!
# Runs with other objects

When a program runs again, there are other objects behind its submodules. What that can change are
the types of the sub-clients. No type changes if the template asks for no attribute, and if none
changes, the second run is the same as the first.
-/

namespace ClientFacade

namespace Facade

variable [runtime : Runtime] {later : Text → Template.Objects} {facade : Facade}

/-- Every submodule has the type, or the fault, that it has with the other objects. -/
def SameTypes (facade : Facade) (later : Text → Template.Objects) : Prop :=
  ∀ submodule ∈ facade.submodules,
    @clientType (runtime.retyped later) facade submodule = facade.clientType submodule

theorem clientType_of_textual (facade : Facade) (h : (Template.ofText facade.template).Textual)
    (objects : Template.Objects) (submodule : Text) :
    (Template.ofText facade.template).render objects submodule = facade.clientType submodule := by
  rw [clientType, Template.render_of_textual _ h, Template.render_of_textual _ h]

theorem sameTypes_of_textual (facade : Facade) (h : (Template.ofText facade.template).Textual)
    (later : Text → Template.Objects) : facade.SameTypes later :=
  fun submodule _ => facade.clientType_of_textual h (later submodule) submodule

theorem constructions_retyped {submodules : List Text}
    (h : ∀ submodule ∈ submodules,
      @clientType (runtime.retyped later) facade submodule = facade.clientType submodule)
    (depth : Nat) : @constructions (runtime.retyped later) facade depth submodules =
      facade.constructions depth submodules := by
  induction submodules with
  | nil => rfl
  | cons submodule rest ih =>
    obtain ⟨hsubmodule, hrest⟩ := List.forall_mem_cons.mp h
    unfold constructions
    rw [hsubmodule, ih hrest]

theorem SameTypes.render_eq (h : facade.SameTypes later) (indent : Text) :
    @render (runtime.retyped later) facade indent = facade.render indent := by
  have hbody : ∀ depth,
      @constructor (runtime.retyped later) facade depth = facade.constructor depth := by
    intro depth
    unfold constructor
    rw [constructions_retyped fun submodule hmem => h submodule (List.mem_eraseDups.mp hmem)]
  unfold render lines
  rw [hbody]

theorem SameTypes.generate_eq (h : facade.SameTypes later) (indent : Text) :
    @generate (runtime.retyped later) facade indent = facade.generate indent := by
  unfold generate
  rw [h.render_eq]

end Facade

namespace Aggregator

section Runs

variable [runtime : Runtime] {later : Text → Template.Objects}
  {aggregator : Aggregator} {sources : List Source}

theorem rendering_retyped {extractions : List Extraction}
    (h : (aggregator.settings.facadeOf extractions).SameTypes later) :
    @rendering (runtime.retyped later) aggregator extractions =
      aggregator.rendering extractions := by
  have hgenerate : ∀ facade, aggregator.assemble extractions = .ok facade →
      @Facade.generate (runtime.retyped later) facade aggregator.indent =
        facade.generate aggregator.indent := by
    intro facade hfacade
    obtain rfl : facade = aggregator.settings.facadeOf extractions := by
      refine Settings.facade_eq_valid ?_
      cases hchecked : aggregator.settings.facade extractions <;> simp_all [assemble]
    exact h.generate_eq _
  unfold rendering
  generalize aggregator.assemble extractions = assembled at hgenerate
  cases assembled with
  | error fault => simp only [Logged.ofExcept, Logged.bind_def, Logged.andThen]
  | ok facade => rw [Logged.ofExcept, Logged.ok_bind, Logged.ok_bind, hgenerate facade rfl]

/-- A run is the same whatever the objects behind the submodules are, as long as the types are. -/
theorem run_retyped (h : (aggregator.facadeOf sources).SameTypes later) :
    @run (runtime.retyped later) aggregator sources = aggregator.run sources := by
  by_cases hfound : collisions (aggregator.extractions sources) ≠ [] ∧
      aggregator.settings.strict = true
  · exact (@run_of_collision _ _ (runtime.retyped later) hfound.2 hfound.1).trans
      (run_of_collision hfound.2 hfound.1).symm
  · have htolerated : collisions (aggregator.extractions sources) ≠ [] →
        aggregator.settings.strict = false := by
      intro hne
      by_contra hstrict
      exact hfound ⟨hne, by simpa using hstrict⟩
    rw [run_of_tolerated htolerated, ← rendering_retyped h]
    exact @run_of_tolerated _ _ (runtime.retyped later) htolerated

end Runs

section Examples

attribute [local instance] Runtime.shared

/-- The objects behind a name that stands at another address. -/
def elsewhere (_ : Text) : Template.Objects := .atAddress 0x560000002000

/-- Settings whose types end in the address of the submodule. -/
def addressSettings : Settings :=
  { Settings.defaults with template := "\x7bsubmodule\x7d\x7bsubmodule.__add__\x7d" }

theorem accepted_addressSettings : addressSettings.Accepted :=
  Settings.accepted_defaults.withTemplate (by decide +kernel)

end Examples

end Aggregator

end ClientFacade
