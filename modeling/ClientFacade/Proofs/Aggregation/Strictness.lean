import ClientFacade.Proofs.Aggregation.Rendering
import ClientFacade.Proofs.Aggregation.Retyped
import ClientFacade.Proofs.Facade.Collision

/-!
# Strict and lenient runs

A strict run and a lenient one over the same sources differ only if two submodules with different
names are equal in lower case. Then the strict run ends with exactly the collisions that the lenient
one warns of, before anything is rendered. The two runs meet different objects, though. A template
that asks for attributes may show them, and then the texts are not the same.
-/

namespace ClientFacade

theorem identifier_eq_iff {first second : Text} :
    identifier first = identifier second ↔ first.lower = second.lower := by
  simp [identifier]

namespace Aggregator

variable {aggregator : Aggregator} {sources : List Source}

theorem filter_rendering_pipeline [Runtime] (aggregator : Aggregator)
    (extractions : List Extraction) (level : Level) :
    (aggregator.rendering extractions).records.filter (Record.isOf .pipeline level) = [] := by
  unfold rendering
  cases aggregator.assemble extractions with
  | error fault => rfl
  | ok facade =>
    rw [Logged.ofExcept, Logged.ok_bind, List.nil_append, Logged.mapError]
    cases hrender : facade.render aggregator.indent with
    | error fault => rw [Facade.generate_of_fault hrender, List.filter_nil]
    | ok text => rw [Facade.generate_of_render hrender, Facade.filter_skipReports (by decide)]

theorem filter_extractionReports_pipeline (aggregator : Aggregator) (sources : List Source)
    {level : Level} (h : level ≠ .info) :
    (aggregator.extractionReports sources).filter (Record.isOf .pipeline level) = [] := by
  have hextractor : Topic.extractor ≠ Topic.pipeline := by decide
  simp [extractionReports, summary, List.filter_flatMap, Source.filter_reports hextractor, h.symm]

theorem collisions_ne_nil_iff {extractions : List Extraction} :
    collisions extractions ≠ [] ↔ ∃ first ∈ extractions, ∃ second ∈ extractions,
      first.submodule ≠ second.submodule ∧ first.submodule.lower = second.submodule.lower := by
  rw [collisions, Ne, NameGroup.collisions_eq_nil_iff]
  simp only [List.forall_mem_map, identifier_eq_iff]
  push Not
  simp only [and_comm]

def withStrict (aggregator : Aggregator) (strict : Bool) : Aggregator :=
  { aggregator with settings := { aggregator.settings with strict := strict } }

theorem run_lenient [Runtime] (aggregator : Aggregator) (sources : List Source) :
    (aggregator.withStrict false).run sources =
      ⟨aggregator.extractionReports sources ++
          ((collisions (aggregator.extractions sources)).map collisionReport ++
            (aggregator.rendering (aggregator.extractions sources)).records),
        (aggregator.rendering (aggregator.extractions sources)).outcome⟩ :=
  run_of_tolerated fun _ => rfl

theorem run_strict_of_collision [Runtime] (h : collisions (aggregator.extractions sources) ≠ []) :
    (aggregator.withStrict true).run sources = ⟨aggregator.extractionReports sources,
      .error (.collision (collisions (aggregator.extractions sources)))⟩ :=
  run_of_collision rfl h

theorem run_strict_of_no_collision [Runtime]
    (h : collisions (aggregator.extractions sources) = []) :
    (aggregator.withStrict true).run sources = (aggregator.withStrict false).run sources := by
  rw [run_lenient]
  exact run_of_tolerated fun hfound => absurd h hfound

theorem rendering_outcome_ne_collision [Runtime] (aggregator : Aggregator)
    (extractions : List Extraction) (groups : List NameGroup) :
    (aggregator.rendering extractions).outcome ≠ .error (.collision groups) := by
  unfold rendering assemble
  cases aggregator.settings.facade extractions with
  | problems found => simp [Logged.ofExcept, Logged.bind_def, Logged.andThen]
  | aborted fault => simp [Logged.ofExcept, Logged.bind_def, Logged.andThen]
  | valid facade =>
    rw [Logged.ofExcept, Logged.ok_bind, Logged.mapError]
    cases (facade.generate aggregator.indent).outcome <;> simp [Except.mapError]

theorem sharing_warnings_of_lenient [Runtime] (aggregator : Aggregator) (sources : List Source) :
    ((aggregator.withStrict false).run sources).records.filter (Record.isOf .pipeline .warning) =
      (collisions (aggregator.extractions sources)).map collisionReport := by
  have hreports : ((collisions (aggregator.extractions sources)).map collisionReport).filter
      (Record.isOf .pipeline .warning) =
        (collisions (aggregator.extractions sources)).map collisionReport := by
    simp [List.filter_map, collisionReport, Function.comp_def]
  rw [run_lenient, List.filter_append, List.filter_append,
    filter_extractionReports_pipeline aggregator sources (by decide), hreports,
    filter_rendering_pipeline, List.nil_append, List.append_nil]

/-- Strictness only ever turns a run into a collision. That happens just if two submodules with
different names are equal in lower case. The collisions are those that a lenient run warns of, and
the run depends on nothing that is rendered. Otherwise both runs are the same, unless a type is not
the same among the objects of the lenient run, which only a template with attributes brings about.
-/
theorem strictness_adds_collisions_only [runtime : Runtime] (aggregator : Aggregator)
    (sources : List Source) (later : Text → Template.Objects) :
    ((∃ groups, ((aggregator.withStrict true).run sources).outcome = .error (.collision groups)) ↔
      ∃ first ∈ aggregator.extractions sources, ∃ second ∈ aggregator.extractions sources,
        first.submodule ≠ second.submodule ∧ first.submodule.lower = second.submodule.lower) ∧
    (∀ groups, ((aggregator.withStrict true).run sources).outcome = .error (.collision groups) →
      (@run (runtime.retyped later) (aggregator.withStrict false) sources).records.filter
          (Record.isOf .pipeline .warning) = groups.map collisionReport ∧
        ((aggregator.withStrict true).run sources).records =
          aggregator.extractionReports sources ∧
        ∀ other : Aggregator, other.nesting = aggregator.nesting →
          @run (runtime.retyped later) (other.withStrict true) sources =
            (aggregator.withStrict true).run sources) ∧
    ((∀ groups, ((aggregator.withStrict true).run sources).outcome ≠ .error (.collision groups)) →
      (aggregator.facadeOf sources).SameTypes later →
        (aggregator.withStrict true).run sources =
          @run (runtime.retyped later) (aggregator.withStrict false) sources) ∧
    ((Template.ofText aggregator.settings.template).Textual →
      (aggregator.facadeOf sources).SameTypes later) := by
  have htextual : (Template.ofText aggregator.settings.template).Textual →
      (aggregator.facadeOf sources).SameTypes later :=
    fun h => (aggregator.facadeOf sources).sameTypes_of_textual h later
  by_cases hfound : collisions (aggregator.extractions sources) = []
  · have hsame := run_strict_of_no_collision hfound
    have hnever : ∀ groups,
        ((aggregator.withStrict true).run sources).outcome ≠ .error (.collision groups) := by
      intro groups
      rw [hsame, run_lenient]
      exact rendering_outcome_ne_collision aggregator _ groups
    have hnone := mt collisions_ne_nil_iff.mpr (not_not_intro hfound)
    refine ⟨⟨?_, fun hpair => absurd hpair hnone⟩, ?_, fun _ htypes => ?_, htextual⟩
    · rintro ⟨groups, hgroups⟩
      exact absurd hgroups (hnever groups)
    · intro groups hgroups
      exact absurd hgroups (hnever groups)
    · have hlenient : ((aggregator.withStrict false).facadeOf sources).SameTypes later := htypes
      rw [hsame, run_retyped hlenient]
  · have hstrict := run_strict_of_collision hfound
    refine ⟨⟨fun _ => collisions_ne_nil_iff.mp hfound, fun _ => ⟨_, by rw [hstrict]⟩⟩, ?_, ?_,
      htextual⟩
    · intro groups hgroups
      have hcollision : collisions (aggregator.extractions sources) = groups := by
        rw [hstrict] at hgroups
        simpa using hgroups
      refine ⟨?_, by rw [hstrict], ?_⟩
      · rw [← hcollision]
        exact @sharing_warnings_of_lenient (runtime.retyped later) aggregator sources
      · intro other hnesting
        have hextractions : other.extractions sources = aggregator.extractions sources := by
          rw [extractions, hnesting, extractions]
        have hreports : other.extractionReports sources =
            aggregator.extractionReports sources := by
          rw [extractionReports, hextractions, hnesting, extractionReports]
        have hother := @run_strict_of_collision other sources (runtime.retyped later)
          (by rwa [hextractions])
        rw [hother, hstrict, hextractions, hreports]
    · intro hnever
      exact absurd (by rw [hstrict]) (hnever _)

section Examples

attribute [local instance] Runtime.shared

def caseVariants : List Source :=
  [⟨"foo.rb", "module Line\nmodule Bot\nmodule V2\nmodule Foo\ndef ping\n"⟩,
   ⟨"FOO.rb", "module Line\nmodule Bot\nmodule V2\nmodule FOO\ndef ping\n"⟩]

theorem strictness_adds_collisions_only_of_caseVariants :
    (((ofSettings Settings.defaults).withStrict true).run caseVariants).outcome =
        .error (.collision [⟨"@foo_client", ["Foo", "FOO"]⟩]) ∧
      (((ofSettings Settings.defaults).withStrict false).run caseVariants).records.filter
          (Record.isOf .pipeline .warning) =
        [collisionReport ⟨"@foo_client", ["Foo", "FOO"]⟩] ∧
      ((ofSettings Settings.defaults).withStrict true).run (caseVariants.take 1) =
        @run (Runtime.shared.retyped elsewhere)
          ((ofSettings Settings.defaults).withStrict false) (caseVariants.take 1) := by
  have hcollision : (((ofSettings Settings.defaults).withStrict true).run caseVariants).outcome =
      .error (.collision [⟨"@foo_client", ["Foo", "FOO"]⟩]) := by decide +kernel
  obtain ⟨-, hwarnings, -⟩ := strictness_adds_collisions_only (ofSettings Settings.defaults)
    caseVariants Runtime.typing
  obtain ⟨hpair, -, hsame, htypes⟩ := strictness_adds_collisions_only
    (ofSettings Settings.defaults) (caseVariants.take 1) elsewhere
  refine ⟨hcollision, (hwarnings _ hcollision).1,
    hsame (fun groups hgroups => ?_) (htypes (by decide +kernel))⟩
  have hnone : collisions ((ofSettings Settings.defaults).extractions (caseVariants.take 1)) =
      [] := by decide +kernel
  exact collisions_ne_nil_iff.mpr (hpair.mp ⟨groups, hgroups⟩) hnone

/-- Without a collision the texts of the two runs can differ by an address. -/
theorem not_forall_lenient_run_is_strict_run :
    ¬ ∀ (aggregator : Aggregator) (sources : List Source) (later : Text → Template.Objects),
      aggregator.settings.Accepted →
      (∀ groups,
        ((aggregator.withStrict true).run sources).outcome ≠ .error (.collision groups)) →
      (aggregator.withStrict true).run sources =
        @run (Runtime.shared.retyped later) (aggregator.withStrict false) sources := by
  intro h
  have hnone : collisions ((ofSettings addressSettings).extractions (caseVariants.take 1)) =
      [] := by decide +kernel
  have hsame := h (ofSettings addressSettings) (caseVariants.take 1) elsewhere
    accepted_addressSettings fun groups => by
      rw [run_strict_of_no_collision hnone, run_lenient]
      exact rendering_outcome_ne_collision _ _ groups
  have htexts := congrArg (fun run => run.outcome.toOption) hsame
  exact absurd htexts (by decide +kernel)

end Examples

end Aggregator

end ClientFacade
