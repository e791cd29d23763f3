import ClientFacade.Proofs.Aggregation
import Mathlib.Logic.Function.Basic

/-!
# What a run does

A run ends at the detection of collisions if it is strict and there is one. In every other case the
strictness does not matter: the collisions are reported and what was extracted is rendered. Each of
these stages writes to a logger of its own, except that the pipeline also counts what was extracted.
So the records of one stage with one severity can be told from all others.
-/

namespace ClientFacade

theorem Topic.logger_injective : Function.Injective Topic.logger := by
  intro first second h
  have hpart : first.part = second.part := List.append_cancel_left h
  cases first <;> cases second <;> first | rfl | exact absurd hpart (by decide)

namespace Record

def isOf (topic : Topic) (level : Level) (record : Record) : Bool :=
  record.logger = topic.logger ∧ record.level = level

@[simp] theorem isOf_of (topic other : Topic) (level severity : Level) (message : Text) :
    isOf topic level (.of other severity message) = decide (other = topic ∧ severity = level) := by
  simp [isOf, Record.of, Topic.logger_injective.eq_iff]

def isWarning (record : Record) : Bool := record.level = Level.warning

@[simp] theorem isWarning_of (topic : Topic) (level : Level) (message : Text) :
    isWarning (.of topic level message) = decide (level = Level.warning) := rfl

end Record

theorem Facade.generate_of_render [Runtime] {facade : Facade} {indent text : Text}
    (h : facade.render indent = .ok text) :
    facade.generate indent = ⟨facade.skipReports, .ok text⟩ := by
  unfold generate
  rw [h, Logged.ofExcept, Logged.ok_bind, Logged.write_bind]
  simp

theorem Facade.generate_of_fault [Runtime] {facade : Facade} {indent : Text}
    {fault : Template.Fault}
    (h : facade.render indent = .error fault) : facade.generate indent = ⟨[], .error fault⟩ := by
  unfold generate
  rw [h]
  rfl

theorem Facade.filter_skipReports {topic : Topic} (h : Topic.generator ≠ topic) (facade : Facade)
    (level : Level) : facade.skipReports.filter (Record.isOf topic level) = [] := by
  refine List.filter_eq_nil_iff.mpr fun record hrecord => ?_
  obtain ⟨extraction, -, hskip⟩ := List.mem_flatMap.mp hrecord
  obtain ⟨method, -, rfl⟩ := List.mem_map.mp hskip
  simp [skipReport, h]

theorem Source.filter_reports {topic : Topic} (h : Topic.extractor ≠ topic) (nesting : List Text)
    (source : Source) (level : Level) :
    (source.reports nesting).filter (Record.isOf topic level) = [] := by
  refine List.filter_eq_nil_iff.mpr fun record hrecord => ?_
  unfold reports at hrecord
  split at hrecord
  · rw [List.mem_singleton.mp hrecord]
    simp [missingReport, h]
  · rcases List.mem_append.mp hrecord with hmethod | hcount
    · obtain ⟨method, -, rfl⟩ := List.mem_map.mp hmethod
      simp [unrecognisedReport, h]
    · rw [List.mem_singleton.mp hcount]
      simp [countReport, h]

namespace Aggregator

variable {aggregator : Aggregator} {sources : List Source}

theorem submodules_facadeOf (aggregator : Aggregator) (sources : List Source) :
    (aggregator.facadeOf sources).submodules =
      sources.filterMap (·.submodule? aggregator.nesting) := by
  rw [Facade.submodules, facadeOf, Settings.facadeOf, extractions, List.map_filterMap]
  simp [Source.extraction?, Function.comp_def]

/-- The rendering of what was extracted, which follows the detection of collisions. -/
def rendering [Runtime] (aggregator : Aggregator) (extractions : List Extraction) :
    Logged Fault Text := do
  let facade ← Logged.ofExcept (aggregator.assemble extractions)
  (facade.generate aggregator.indent).mapError .template

theorem run_of_collision [Runtime] (hstrict : aggregator.settings.strict = true)
    (hfound : collisions (aggregator.extractions sources) ≠ []) :
    aggregator.run sources = ⟨aggregator.extractionReports sources,
      .error (.collision (collisions (aggregator.extractions sources)))⟩ := by
  have hbuild : aggregator.build (aggregator.extractions sources) =
      Logged.fail (.collision (collisions (aggregator.extractions sources))) := by
    unfold build
    exact if_pos ⟨hfound, hstrict⟩
  unfold run
  rw [extract, Logged.ok_bind, hbuild]
  simp [Logged.fail, Logged.bind_def, Logged.andThen]

theorem build_of_tolerated [Machine] {extractions : List Extraction}
    (h : collisions extractions ≠ [] → aggregator.settings.strict = false) :
    aggregator.build extractions =
      ⟨(collisions extractions).map collisionReport, aggregator.assemble extractions⟩ := by
  have hnot : ¬ (collisions extractions ≠ [] ∧ aggregator.settings.strict = true) := by
    rintro ⟨hfound, hstrict⟩
    rw [h hfound] at hstrict
    exact absurd hstrict (by decide)
  have hbuild : aggregator.build extractions =
      (Logged.write ((collisions extractions).map collisionReport) >>=
        fun _ => Logged.ofExcept (aggregator.assemble extractions)) := by
    unfold build
    exact if_neg hnot
  rw [hbuild, Logged.write_bind, Logged.ofExcept, List.append_nil]

theorem run_of_tolerated [Runtime] (h : collisions (aggregator.extractions sources) ≠ [] →
      aggregator.settings.strict = false) :
    aggregator.run sources =
      ⟨aggregator.extractionReports sources ++
          ((collisions (aggregator.extractions sources)).map collisionReport ++
            (aggregator.rendering (aggregator.extractions sources)).records),
        (aggregator.rendering (aggregator.extractions sources)).outcome⟩ := by
  unfold run rendering
  rw [extract, Logged.ok_bind, build_of_tolerated h]
  cases aggregator.assemble (aggregator.extractions sources) <;>
    simp [Logged.ofExcept, Logged.bind_def, Logged.andThen]

theorem rendering_outcome_of_assemble [Runtime] {extractions : List Extraction} {facade : Facade}
    (h : aggregator.assemble extractions = .ok facade) :
    (aggregator.rendering extractions).outcome =
      (facade.render aggregator.indent).mapError Fault.template := by
  rw [rendering, h, Logged.ofExcept, Logged.ok_bind, Logged.mapError]
  cases hrender : facade.render aggregator.indent with
  | error fault => rw [Facade.generate_of_fault hrender]
  | ok text => rw [Facade.generate_of_render hrender]

theorem rendering_outcome_of_fault [Runtime] {extractions : List Extraction} {fault : Fault}
    (h : aggregator.assemble extractions = .error fault) :
    (aggregator.rendering extractions).outcome = .error fault := by
  rw [rendering, h]
  rfl

/-- A run is the detection of collisions and then the rendering. -/
theorem run_outcome [Runtime] (aggregator : Aggregator) (sources : List Source) :
    (aggregator.run sources).outcome =
      if collisions (aggregator.extractions sources) ≠ [] ∧ aggregator.settings.strict = true then
        .error (.collision (collisions (aggregator.extractions sources)))
      else (aggregator.rendering (aggregator.extractions sources)).outcome := by
  by_cases h : collisions (aggregator.extractions sources) ≠ [] ∧
      aggregator.settings.strict = true
  · rw [if_pos h, run_of_collision h.2 h.1]
  · rw [if_neg h, run_of_tolerated]
    intro hfound
    by_contra hstrict
    rw [Bool.not_eq_false] at hstrict
    exact h ⟨hfound, hstrict⟩

end Aggregator

end ClientFacade
