import ClientFacade.Facade.Basic
import ClientFacade.Proofs.Template.Accepted

/-!
# Which submodules have a type

The template of a facade was accepted for the probe. It gives every other submodule a type too,
unless a field asks for a character behind the end of the submodule. How a field is converted and
laid out never matters, not even if its spec takes characters from the submodule. All this is about
templates without attributes: what an object does is not known from the probe.
-/

namespace ClientFacade.Facade

theorem clientType_guarded [Runtime] (facade : Facade) {submodule : Text}
    (haccepted : Template.check facade.template = .accepted)
    (htextual : (Template.ofText facade.template).Textual) (hsubmodule : submodule ≠ []) :
    Template.Guarded (Template.Within (Template.ofText facade.template).indexes submodule)
      (fun _ => True) (facade.clientType submodule) := by
  obtain ⟨rendered, hprobe⟩ := Template.plain_probe_of_accepted haccepted htextual
  rw [clientType, Template.render_of_textual _ htextual]
  exact Template.plain_guarded hprobe hsubmodule

/-- A sub-client has a type just if its submodule is longer than every index that directly follows
the base of a field, nested fields included. If not, the index past the end is the only fault.
Submodules as long as the probe have a type, and so has every submodule if there is no such index.
-/
theorem clientType_fails_past_submodule_only [Runtime] (facade : Facade) (submodule : Text)
    (haccepted : Template.check facade.template = .accepted)
    (htextual : (Template.ofText facade.template).Textual) (hsubmodule : submodule ≠ []) :
    ((∃ type, facade.clientType submodule = .ok type) ↔
      ∀ place ∈ (Template.ofText facade.template).indexes, place < submodule.length) ∧
    (∀ fault, facade.clientType submodule = .error fault → fault = .indexPastEnd) ∧
    (9 ≤ submodule.length → ∃ type, facade.clientType submodule = .ok type) ∧
    ((Template.ofText facade.template).indexes = [] →
      ∃ type, facade.clientType submodule = .ok type) := by
  have hguarded := facade.clientType_guarded haccepted htextual hsubmodule
  refine ⟨hguarded.exists_ok_iff, fun fault hfault => hguarded.fault_eq hfault, ?_, ?_⟩
  · intro hlong
    exact hguarded.exists_ok_iff.mpr (Template.within_of_accepted haccepted htextual hlong)
  · intro hnone
    refine hguarded.exists_ok_iff.mpr fun place hplace => ?_
    rw [hnone] at hplace
    exact absurd hplace List.not_mem_nil

section Examples

attribute [local instance] Runtime.shared

/-- A facade whose template takes the fill character from the submodule and then quotes the third
character. -/
def filledFacade : Facade where
  modulePath := []
  className := "Client"
  template := "\x7bsubmodule\x7d:\x7bsubmodule!r:\x7bsubmodule[3]\x7d^12.8s\x7d" ++
    ":\x7bsubmodule[2]!a\x7d"
  extractions := []

theorem clientType_fails_past_submodule_only_of_filledFacade :
    filledFacade.clientType "Core" = .ok "Core:eee'Core'eee:'r'" ∧
      ¬ ∃ type, filledFacade.clientType "Foo" = .ok type := by
  have haccepted : Template.check filledFacade.template = .accepted := by decide +kernel
  obtain ⟨hiff, -, -, -⟩ := clientType_fails_past_submodule_only filledFacade "Foo" haccepted
    (by decide +kernel) (by decide)
  refine ⟨by decide +kernel, fun htype => ?_⟩
  exact absurd (hiff.mp htype) (by decide +kernel)

end Examples

end ClientFacade.Facade
