import ClientFacade.Aggregation
import ClientFacade.Proofs.Facade.Readable
import ClientFacade.Proofs.Outcome
import ClientFacade.Proofs.Settings.Accepted
import ClientFacade.Proofs.Source.Extraction

/-!
# Runs that succeed

A run that gives a text has rendered the facade of its settings with everything that was extracted,
and a strict one has found no collision.
-/

namespace ClientFacade

namespace Aggregator

def facadeOf (aggregator : Aggregator) (sources : List Source) : Facade :=
  aggregator.settings.facadeOf (aggregator.extractions sources)

theorem sound_of_mem_extractions {aggregator : Aggregator} {sources : List Source}
    {extraction : Extraction} (h : extraction ∈ aggregator.extractions sources) :
    extraction.Sound := by
  obtain ⟨source, -, hsource⟩ := List.mem_filterMap.mp h
  exact Source.sound_of_extraction? hsource

theorem render_of_generate [Runtime] {facade : Facade} {indent text : Text}
    (h : (facade.generate indent).outcome = .ok text) : facade.render indent = .ok text := by
  obtain ⟨rendered, hrendered, hrest⟩ := Logged.bind_outcome_eq_ok_iff.mp h
  obtain ⟨-, -, hpure⟩ := Logged.bind_outcome_eq_ok_iff.mp hrest
  rw [Logged.pure_outcome, Except.ok.injEq] at hpure
  rw [← hpure]
  exact hrendered

theorem build_outcome_eq_ok [Machine] {aggregator : Aggregator} {extractions : List Extraction}
    {facade : Facade} (h : (aggregator.build extractions).outcome = .ok facade) :
    (aggregator.settings.strict = true → collisions extractions = []) ∧
      facade = aggregator.settings.facadeOf extractions := by
  unfold build at h
  dsimp only at h
  split_ifs at h with hcollision
  · simp [Logged.fail] at h
  · obtain ⟨-, -, hassemble⟩ := Logged.bind_outcome_eq_ok_iff.mp h
    refine ⟨fun hstrict => ?_, ?_⟩
    · by_contra hne
      exact hcollision ⟨hne, hstrict⟩
    · refine Settings.facade_eq_valid ?_
      cases hfacade : aggregator.settings.facade extractions <;>
        simp_all [Logged.ofExcept, assemble]

theorem run_outcome_eq_ok [Runtime] {aggregator : Aggregator} {sources : List Source} {text : Text}
    (h : (aggregator.run sources).outcome = .ok text) :
    (aggregator.settings.strict = true → collisions (aggregator.extractions sources) = []) ∧
      (aggregator.facadeOf sources).render aggregator.indent = .ok text := by
  obtain ⟨extractions, hextractions, hrest⟩ := Logged.bind_outcome_eq_ok_iff.mp h
  obtain ⟨facade, hfacade, hgenerate⟩ := Logged.bind_outcome_eq_ok_iff.mp hrest
  rw [extract, Except.ok.injEq] at hextractions
  subst hextractions
  obtain ⟨hstrict, rfl⟩ := build_outcome_eq_ok hfacade
  exact ⟨hstrict, render_of_generate (Logged.mapError_outcome_eq_ok_iff.mp hgenerate)⟩

/-- The facade of a run is readable, since all its extractions come from the sources. -/
theorem layout_of_run [Runtime] {aggregator : Aggregator} {sources : List Source} {text : Text}
    (h : (aggregator.run sources).outcome = .ok text)
    (htypes : (aggregator.facadeOf sources).OneLineTypes) :
    (aggregator.facadeOf sources).Readable ∧
      text = Line.render aggregator.indent (aggregator.facadeOf sources).layout := by
  obtain ⟨-, hrender⟩ := run_outcome_eq_ok h
  obtain ⟨htyped, htext⟩ := Facade.render_eq_ok hrender
  have hsound : ∀ extraction ∈ (aggregator.facadeOf sources).extractions, extraction.Sound :=
    fun extraction hmem => sound_of_mem_extractions hmem
  exact ⟨.of_typed hsound htyped htypes, htext⟩

end Aggregator

end ClientFacade
