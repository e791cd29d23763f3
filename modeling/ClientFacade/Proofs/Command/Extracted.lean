import ClientFacade.Proofs.Aggregation.Layers
import ClientFacade.Proofs.Aggregation.Strictness
import ClientFacade.Proofs.Command.Delivery

/-!
# What an extraction prints

The JSON document that an extraction prints stands for the facade that a run over the same sources
renders. Read as a value and checked, it gives back the facade, so that its rendering is the text of
the lenient run or the fault that this run ends with, provided that the types of the submodules are
the same among the objects that were read.
-/

namespace ClientFacade

open Aggregator (ofSettings)

namespace Command.Call

structure Extracts [Runtime] (call : Call) (store : Store) (settings : Settings)
    (sources : List Source) :
    Prop where
  command : call.command = .extract
  found : (call.settings store).outcome = .ok settings
  loaded : (Call.sources store settings).outcome = .ok sources

variable {call : Call} {store : Store} {settings : Settings} {sources : List Source}
  {facade : Facade}

theorem extracted_outcome [Runtime] (h : call.Extracts store settings sources)
    (hfacade : (ofSettings settings).assemble ((ofSettings settings).extractions sources) =
      .ok facade) : (call.extracted store).outcome = .ok facade.dump := by
  refine Logged.bind_outcome_eq_ok_iff.mpr ⟨settings, h.found, ?_⟩
  refine Logged.bind_outcome_eq_ok_iff.mpr ⟨sources, h.loaded, ?_⟩
  refine Logged.bind_outcome_eq_ok_iff.mpr ⟨(ofSettings settings).extractions sources, rfl, ?_⟩
  refine Logged.bind_outcome_eq_ok_iff.mpr ⟨facade, ?_, rfl⟩
  rw [hfacade]
  rfl

theorem exists_run_of_extracts [Runtime] {environment : Option Text} {logging : Log.Outcome}
    (h : call.Extracts store settings sources)
    (hlogging : call.logging store environment = .ok logging)
    (hfacade : (ofSettings settings).assemble ((ofSettings settings).extractions sources) =
      .ok facade) :
    ∃ outcome, call.run store environment = .ok outcome ∧ outcome.code = 0 ∧
      outcome.output = facade.dump := by
  have hperform : (call.perform store).result.outcome = .ok facade.dump := by
    rw [perform, h.command]
    exact extracted_outcome h hfacade
  exact exists_run_of_clean hlogging facade.clean_dump hperform

/-- With accepted settings an extraction prints a document of the facade of all sources. The check
of it gives this facade, whatever stands in place of names and parameters, and it is rendered as the
lenient run over these sources renders if the types of the submodules are the same among the objects
of both. They are if the template asks for no attribute. -/
theorem extracted_document_is_rendered_facade [runtime : Runtime] (settings : Settings)
    (sources : List Source) (later : Text → Template.Objects) (haccepted : settings.Accepted) :
    ∃ facade, (ofSettings settings).assemble ((ofSettings settings).extractions sources) =
        .ok facade ∧
      (∀ (call : Call) (store : Store) (environment : Option Text) (logging : Log.Outcome),
        call.Extracts store settings sources → call.logging store environment = .ok logging →
          ∃ outcome, call.run store environment = .ok outcome ∧ outcome.code = 0 ∧
            outcome.output = facade.dump) ∧
      Json.read? facade.dump = some facade.toValue ∧
      Facade.ofValue facade.toValue = .valid facade ∧
      (∀ value, facade.WrittenAs value → Facade.ofValue value = .valid facade) ∧
      (facade.SameTypes later →
        (@Facade.render (runtime.retyped later) facade Line.defaultIndent).mapError
            Aggregator.Fault.template =
          (((ofSettings settings).withStrict false).run sources).outcome) ∧
      ((Template.ofText settings.template).Textual → facade.SameTypes later) := by
  have hfacade : (ofSettings settings).assemble ((ofSettings settings).extractions sources) =
      .ok ((ofSettings settings).facadeOf sources) := Aggregator.assemble_of_accepted haccepted _
  have hread : ∀ value, ((ofSettings settings).facadeOf sources).WrittenAs value →
      Facade.ofValue value = .valid ((ofSettings settings).facadeOf sources) :=
    fun value hvalue =>
      Facade.ofValue_of_writtenAs (Aggregator.wellformed_facadeOf haccepted sources) hvalue
  refine ⟨(ofSettings settings).facadeOf sources, hfacade, ?_, Facade.read?_dump _,
    hread _ (Facade.writtenAs_toValue _), hread, fun hsame => ?_, fun htextual => ?_⟩
  · intro call store environment logging hextracts hlogging
    exact exists_run_of_extracts hextracts hlogging hfacade
  · have hlenient : ((ofSettings settings).withStrict false).settings.Accepted :=
      haccepted.override [] (some false)
    rw [hsame.render_eq]
    exact (Aggregator.run_outcome_of_lenient hlenient rfl sources).symm
  · exact ((ofSettings settings).facadeOf sources).sameTypes_of_textual htextual later

section Examples

attribute [local instance] Runtime.shared

def redSettings : Settings := Settings.defaults.override [redPath] none

def redExtraction : Call := { redCall none with command := .extract }

theorem extracts_redExtraction :
    redExtraction.Extracts redStore redSettings [⟨redPath.text, redSource⟩] where
  command := rfl
  found := rfl
  loaded := by
    refine Logged.mapError_outcome_eq_ok_iff.mpr (Source.loadAll_outcome_eq_ok_iff.mpr ?_)
    exact .cons ⟨rfl, by decide +kernel⟩ .nil

theorem extracted_document_is_rendered_facade_of_redSource :
    ∃ facade outcome, redExtraction.run redStore none = .ok outcome ∧ outcome.code = 0 ∧
      Json.read? outcome.output = some facade.toValue ∧
      Facade.ofValue facade.toValue = .valid facade ∧
      ∃ text, (@Facade.render (Runtime.shared.retyped Aggregator.elsewhere) facade
        Line.defaultIndent).mapError Aggregator.Fault.template = .ok text := by
  obtain ⟨facade, -, hprints, hread, hvalid, -, hrender, htypes⟩ :=
    extracted_document_is_rendered_facade redSettings [⟨redPath.text, redSource⟩]
      Aggregator.elsewhere (Settings.accepted_defaults.override [redPath] none)
  obtain ⟨logging, hlogging⟩ := redExtraction.exists_logging_of_defaultLevel rfl redStore
  obtain ⟨outcome, hrun, hcode, houtput⟩ :=
    hprints redExtraction redStore none logging extracts_redExtraction hlogging
  have hgives : (((ofSettings redSettings).withStrict false).run
      [⟨redPath.text, redSource⟩]).outcome.toOption.any (fun _ => true) = true := by
    decide +kernel
  obtain ⟨text, htext, -⟩ := exists_ok_of_any_toOption hgives
  refine ⟨facade, outcome, hrun, hcode, ?_, hvalid, text, ?_⟩
  · rw [houtput, hread]
  · exact (hrender (htypes (by decide +kernel))).trans htext

/-- With an address in a type the facade that is read is not rendered as it was before. -/
theorem not_forall_document_renders_alike :
    ¬ ∀ (settings : Settings) (sources : List Source) (facade : Facade)
      (later : Text → Template.Objects), settings.Accepted →
      Facade.ofValue ((ofSettings settings).facadeOf sources).toValue = .valid facade →
      (@Facade.render (Runtime.shared.retyped later) facade Line.defaultIndent).mapError
          Aggregator.Fault.template =
        (((ofSettings settings).withStrict false).run sources).outcome := by
  intro h
  have hfacade : ((ofSettings Aggregator.addressSettings).facadeOf
      [⟨redPath.text, redSource⟩]).Wellformed :=
    Aggregator.wellformed_facadeOf Aggregator.accepted_addressSettings _
  have hsame := h Aggregator.addressSettings [⟨redPath.text, redSource⟩] _ Aggregator.elsewhere
    Aggregator.accepted_addressSettings
    (Facade.ofValue_of_writtenAs hfacade (Facade.writtenAs_toValue _))
  exact absurd (congrArg Except.toOption hsame) (by decide +kernel)

end Examples

end Command.Call

end ClientFacade
