import ClientFacade.Proofs.Aggregation.Retyped
import ClientFacade.Proofs.Facade.Comments

/-!
# Comments never become code

Two runs over sources that differ in their comment lines only, with the same submodules, end alike:
with the same fault, or with texts that differ in their comment lines only. Each of them is compared
with what follows from the extractions without comment lines, which both runs share. The types of
the sub-clients have to be the same among the objects of both runs, as they are if the template asks
for no attribute.
-/

namespace ClientFacade

/-- What keeps a facade from being put together is never in the extractions. -/
theorem Settings.exists_facade_eq_map [Machine] (settings : Settings) :
    ∃ head : Checked (List Extraction → Facade), ∀ extractions,
      settings.facade extractions = head.map fun make => make extractions :=
  ⟨_, fun extractions => Checked.ap_valid _ extractions⟩

namespace Aggregator

theorem rendering_undocumented [Runtime] (settings : Settings) {extractions : List Extraction}
    (h : ∀ extraction ∈ extractions, extraction.Sound) :
    ((ofSettings settings).rendering (extractions.map Extraction.undocumented)).outcome.map
        Text.withoutComments =
      ((ofSettings settings).rendering extractions).outcome.map Text.withoutComments := by
  obtain ⟨head, hhead⟩ := settings.exists_facade_eq_map
  cases head with
  | problems found =>
    have hfault : ∀ others, (ofSettings settings).assemble others = .error (.rejected found) := by
      intro others
      rw [assemble, ofSettings, hhead]
      rfl
    rw [rendering_outcome_of_fault (hfault _), rendering_outcome_of_fault (hfault _)]
  | aborted fault =>
    have hfault : ∀ others, (ofSettings settings).assemble others = .error (.template fault) := by
      intro others
      rw [assemble, ofSettings, hhead]
      rfl
    rw [rendering_outcome_of_fault (hfault _), rendering_outcome_of_fault (hfault _)]
  | valid make =>
    have hfacade : ∀ others, (ofSettings settings).assemble others =
        .ok (settings.facadeOf others) := by
      intro others
      have hmake : settings.facade others = .valid (make others) := hhead others
      rw [assemble, ofSettings, hmake, Settings.facade_eq_valid hmake]
    have hrender : ((settings.facadeOf (extractions.map Extraction.undocumented)).render
          Line.defaultIndent).map Text.withoutComments =
        ((settings.facadeOf extractions).render Line.defaultIndent).map Text.withoutComments := by
      have hsound : ∀ extraction ∈ (settings.facadeOf extractions).extractions,
          extraction.Sound := h
      exact Facade.render_undocumented hsound
    rw [rendering_outcome_of_assemble (hfacade _), rendering_outcome_of_assemble (hfacade _)]
    have hmap : ∀ result : Except Template.Fault Text,
        (result.mapError Fault.template).map Text.withoutComments =
          (result.map Text.withoutComments).mapError Fault.template := by
      intro result
      cases result with
      | error fault => rfl
      | ok text => rfl
    rw [hmap, hmap]
    exact congrArg _ hrender

theorem collisions_undocumented (extractions : List Extraction) :
    collisions (extractions.map Extraction.undocumented) = collisions extractions := by
  rw [collisions, List.map_map]
  rfl

/-- Up to the comment lines of the text, a run depends on its extractions without theirs only. -/
theorem run_outcome_undocumented [Runtime] (settings : Settings) {sources others : List Source}
    (h : ((ofSettings settings).extractions others).map Extraction.undocumented =
      ((ofSettings settings).extractions sources).map Extraction.undocumented) :
    ((ofSettings settings).run others).outcome.map Text.withoutComments =
      ((ofSettings settings).run sources).outcome.map Text.withoutComments := by
  have hcollisions : collisions ((ofSettings settings).extractions others) =
      collisions ((ofSettings settings).extractions sources) := by
    rw [← collisions_undocumented, h, collisions_undocumented]
  have hrendering : ((ofSettings settings).rendering
        ((ofSettings settings).extractions others)).outcome.map Text.withoutComments =
      ((ofSettings settings).rendering
        ((ofSettings settings).extractions sources)).outcome.map Text.withoutComments := by
    rw [← rendering_undocumented settings fun _ => sound_of_mem_extractions, h,
      rendering_undocumented settings fun _ => sound_of_mem_extractions]
  rw [run_outcome, run_outcome, hcollisions]
  split_ifs
  · rfl
  · exact hrendering

theorem extractions_undocumented (nesting : List Text) {sources others : List Source}
    (h : List.Forall₂ Source.Uncomments sources others)
    (hsubmodules : others.map (·.submodule? nesting) = sources.map (·.submodule? nesting)) :
    (others.filterMap (·.extraction? nesting)).map Extraction.undocumented =
      (sources.filterMap (·.extraction? nesting)).map Extraction.undocumented := by
  rw [List.map_filterMap, List.map_filterMap]
  induction h with
  | nil => rfl
  | cons hsource hrest ih =>
    rw [List.map_cons, List.map_cons, List.cons.injEq] at hsubmodules
    rw [List.filterMap_cons, List.filterMap_cons,
      Source.undocumented_extraction? hsource hsubmodules.1, ih hsubmodules.2]

theorem sameTypes_of_submodules [Runtime] {aggregator : Aggregator} {sources others : List Source}
    {later : Text → Template.Objects}
    (h : others.map (·.submodule? aggregator.nesting) =
      sources.map (·.submodule? aggregator.nesting))
    (htypes : (aggregator.facadeOf sources).SameTypes later) :
    (aggregator.facadeOf others).SameTypes later := by
  have hsubmodules : (aggregator.facadeOf others).submodules =
      (aggregator.facadeOf sources).submodules := by
    have hfound := congrArg (List.filterMap id) h
    rw [List.filterMap_map, List.filterMap_map] at hfound
    rw [submodules_facadeOf, submodules_facadeOf]
    exact hfound
  intro submodule hmem
  rw [hsubmodules] at hmem
  exact htypes submodule hmem

/-- Whichever of the sources lose their comment lines, if no submodule changes by it, the two runs
end in the same fault, or both give a text and these are the same without their comment lines. This
holds if the types of the submodules are the same among the objects of both runs, and these are the
same if the template asks for no attribute. -/
theorem comments_stay_comments [runtime : Runtime] (settings : Settings)
    (sources others : List Source) (later : Text → Template.Objects)
    (hdeleted : List.Forall₂
      (fun source other => other = source ∨ other = source.withoutComments) sources others)
    (hsubmodules : others.map (·.submodule? settings.nesting) =
      sources.map (·.submodule? settings.nesting)) :
    (((ofSettings settings).facadeOf sources).SameTypes later →
      (∃ fault, ((ofSettings settings).run sources).outcome = .error fault ∧
          (@run (runtime.retyped later) (ofSettings settings) others).outcome = .error fault) ∨
        ∃ text other, ((ofSettings settings).run sources).outcome = .ok text ∧
          (@run (runtime.retyped later) (ofSettings settings) others).outcome = .ok other ∧
          other.withoutComments = text.withoutComments) ∧
    ((Template.ofText settings.template).Textual →
      ((ofSettings settings).facadeOf sources).SameTypes later) := by
  refine ⟨fun htypes => ?_, fun htextual =>
    ((ofSettings settings).facadeOf sources).sameTypes_of_textual htextual later⟩
  have hextractions := extractions_undocumented settings.nesting hdeleted hsubmodules
  have houtcome := run_outcome_undocumented settings hextractions
  rw [run_retyped (sameTypes_of_submodules hsubmodules htypes)]
  cases hrun : ((ofSettings settings).run sources).outcome with
  | error fault =>
    left
    refine ⟨fault, rfl, ?_⟩
    rw [hrun] at houtcome
    cases hother : ((ofSettings settings).run others).outcome with
    | error other =>
      rw [hother] at houtcome
      exact houtcome
    | ok other =>
      rw [hother] at houtcome
      cases houtcome
  | ok text =>
    right
    rw [hrun] at houtcome
    cases hother : ((ofSettings settings).run others).outcome with
    | error other =>
      rw [hother] at houtcome
      cases houtcome
    | ok other =>
      rw [hother] at houtcome
      exact ⟨text, other, rfl, rfl, Except.ok.inj houtcome⟩

section Examples

attribute [local instance] Runtime.shared

/-- A source with a header in a comment, comment lines that belong to no method, and a constructor
below comment lines. -/
def documentedSource : Source where
  path := "foo.rb"
  text := "module Line\nmodule Bot\nmodule V2\nmodule Foo\n  # Sends.\n  # def hidden(x)\n" ++
    ("  def send(to)\n  # Left over.\n\n# Builds.\ndef initialize(url)\n" : Text)

theorem comments_stay_comments_of_documentedSource :
    documentedSource.withoutComments.text =
        "module Line\nmodule Bot\nmodule V2\nmodule Foo\n  def send(to)\n\ndef initialize(url)\n" ∧
      ∃ text other,
        ((ofSettings Settings.defaults).run [documentedSource, documentedSource]).outcome =
          .ok text ∧
        (@run (Runtime.shared.retyped elsewhere) (ofSettings Settings.defaults)
          [documentedSource.withoutComments, documentedSource]).outcome = .ok other ∧
        other.withoutComments = text.withoutComments := by
  refine ⟨by decide +kernel, ?_⟩
  have hgives : ((ofSettings Settings.defaults).run
      [documentedSource, documentedSource]).outcome.toOption.any (fun _ => true) = true := by
    decide +kernel
  obtain ⟨text, htext, -⟩ := exists_ok_of_any_toOption hgives
  obtain ⟨hsame, htypes⟩ := comments_stay_comments Settings.defaults
    [documentedSource, documentedSource] [documentedSource.withoutComments, documentedSource]
    elsewhere (.cons (Or.inr rfl) (.cons (Or.inl rfl) .nil)) (by decide +kernel)
  rcases hsame (htypes (by decide +kernel)) with ⟨fault, hfault, -⟩ | h
  · rw [htext] at hfault
    cases hfault
  · exact h

/-- With an address in a type the two texts can differ in a line of code. -/
theorem not_forall_comments_stay_comments :
    ¬ ∀ (settings : Settings) (sources others : List Source) (later : Text → Template.Objects),
      settings.Accepted →
      List.Forall₂ (fun source other => other = source ∨ other = source.withoutComments)
        sources others →
      others.map (·.submodule? settings.nesting) = sources.map (·.submodule? settings.nesting) →
      ((ofSettings settings).run sources).outcome.map Text.withoutComments =
        (@run (Runtime.shared.retyped later) (ofSettings settings) others).outcome.map
          Text.withoutComments := by
  intro h
  have hsame := h addressSettings [documentedSource] [documentedSource.withoutComments]
    elsewhere accepted_addressSettings (.cons (Or.inr rfl) .nil) (by decide +kernel)
  exact absurd (congrArg Except.toOption hsame) (by decide +kernel)

end Examples

end Aggregator

end ClientFacade
