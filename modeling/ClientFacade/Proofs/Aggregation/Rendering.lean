import ClientFacade.Proofs.Aggregation.Run
import ClientFacade.Proofs.Facade.ClientType

/-!
# When a run gives a text

With accepted settings the facade always passes its own checks, so that a run that collisions do not
stop can only fail when a template meets a submodule. A template was accepted for the probe. For a
shorter submodule it may ask for a character past the end, and unless it asks for attributes this is
all that can go wrong.
-/

namespace ClientFacade

open Template (Guarded Within)

namespace Settings

theorem ne_nil_of_isConstantName {name : Text} (h : isConstantName name = true) : name ≠ [] := by
  rintro rfl
  exact absurd h (by decide)

/-- The checks of a facade let through what the checks of settings have. -/
theorem Accepted.facade_eq [Machine] {settings : Settings} (h : settings.Accepted)
    (extractions : List Extraction) :
    settings.facade extractions = .valid (settings.facadeOf extractions) := by
  have hclassName : Facade.checkClassName settings.className = .valid settings.className :=
    if_neg (ne_nil_of_isConstantName h.className)
  have htemplate : Checked.template settings.template = .valid settings.template :=
    Checked.template_eq_valid_iff.mpr ⟨h.template, rfl⟩
  rw [facade, Facade.checked, hclassName, htemplate]
  rfl

end Settings

namespace Facade

variable [Runtime] {facade : Facade}

theorem exists_constructions_iff (facade : Facade) (depth : Nat) (submodules : List Text) :
    (∃ lines, facade.constructions depth submodules = .ok lines) ↔
      ∀ submodule ∈ submodules, ∃ type, facade.clientType submodule = .ok type := by
  constructor
  · rintro ⟨lines, hlines⟩ submodule hmem
    exact ⟨_, (constructions_eq_ok hlines).1 submodule hmem⟩
  · intro htypes
    refine ⟨_, constructions_of_typed (fun submodule hmem => ?_) depth⟩
    obtain ⟨type, htype⟩ := htypes submodule hmem
    exact clientType_eq_ok_typeOf htype

theorem constructions_eq_error {depth : Nat} {submodules : List Text} {fault : Template.Fault}
    (h : facade.constructions depth submodules = .error fault) :
    ∃ submodule ∈ submodules, facade.clientType submodule = .error fault := by
  induction submodules with
  | nil => cases h
  | cons submodule rest ih =>
    cases htype : facade.clientType submodule with
    | error found =>
      rw [constructions, htype] at h
      exact ⟨submodule, List.mem_cons_self, by rw [htype, Except.error.inj h]⟩
    | ok type =>
      cases hrest : facade.constructions depth rest with
      | error found =>
        rw [constructions, htype, hrest] at h
        obtain ⟨other, hother, hfault⟩ := ih (hrest.trans (congrArg _ (Except.error.inj h)))
        exact ⟨other, List.mem_cons_of_mem _ hother, hfault⟩
      | ok others =>
        rw [constructions, htype, hrest] at h
        cases h

theorem exists_render_iff (facade : Facade) (indent : Text) :
    (∃ text, facade.render indent = .ok text) ↔
      ∀ submodule ∈ facade.submodules, ∃ type, facade.clientType submodule = .ok type := by
  have hbody := facade.exists_constructions_iff (facade.classDepth + 2)
    facade.submodules.eraseDups
  simp only [List.mem_eraseDups] at hbody
  rw [← hbody]
  unfold render lines constructor
  cases facade.constructions (facade.classDepth + 2) facade.submodules.eraseDups <;>
    simp [bind, Except.bind, pure, Except.pure]

theorem render_eq_error {indent : Text} {fault : Template.Fault}
    (h : facade.render indent = .error fault) :
    ∃ submodule ∈ facade.submodules, facade.clientType submodule = .error fault := by
  cases hbody : facade.constructions (facade.classDepth + 2) facade.submodules.eraseDups with
  | ok body => simp [render, lines, constructor, hbody, bind, Except.bind, pure, Except.pure] at h
  | error found =>
    simp only [render, lines, constructor, hbody, bind, Except.bind, Except.error.injEq] at h
    obtain ⟨submodule, hmem, hfault⟩ := constructions_eq_error hbody
    exact ⟨submodule, List.mem_eraseDups.mp hmem, h ▸ hfault⟩

end Facade

namespace Aggregator

variable {aggregator : Aggregator} {sources : List Source}

theorem submodule_ne_nil {extraction : Extraction}
    (h : extraction ∈ aggregator.extractions sources) : extraction.submodule ≠ [] :=
  (sound_of_mem_extractions h).submodule.ne_nil

theorem forall_mem_submodules_facadeOf {p : Text → Prop} :
    (∀ submodule ∈ (aggregator.facadeOf sources).submodules, p submodule) ↔
      ∀ extraction ∈ aggregator.extractions sources, p extraction.submodule :=
  List.forall_mem_map

theorem assemble_of_accepted [Machine] (haccepted : aggregator.settings.Accepted)
    (extractions : List Extraction) :
    aggregator.assemble extractions = .ok (aggregator.settings.facadeOf extractions) := by
  rw [assemble, haccepted.facade_eq]

section Runs

variable [Runtime]

/-- After the detection of collisions a run gives the text of the facade or the fault of a type. -/
theorem rendering_outcome (haccepted : aggregator.settings.Accepted)
    (extractions : List Extraction) :
    (aggregator.rendering extractions).outcome =
      ((aggregator.settings.facadeOf extractions).render aggregator.indent).mapError
        Fault.template :=
  rendering_outcome_of_assemble (assemble_of_accepted haccepted extractions)

theorem run_outcome_of_lenient (haccepted : aggregator.settings.Accepted)
    (hlenient : aggregator.settings.strict = false) (sources : List Source) :
    (aggregator.run sources).outcome =
      ((aggregator.facadeOf sources).render aggregator.indent).mapError Fault.template := by
  rw [run_of_tolerated fun _ => hlenient]
  exact rendering_outcome haccepted _

/-- A lenient run gives a text just if every submodule has a type, and its only faults are those of
types. -/
theorem lenient_run_cases (haccepted : aggregator.settings.Accepted)
    (hlenient : aggregator.settings.strict = false) (sources : List Source) :
    ((∃ text, (aggregator.run sources).outcome = .ok text) ↔
      ∀ extraction ∈ aggregator.extractions sources,
        ∃ type, (aggregator.facadeOf sources).clientType extraction.submodule = .ok type) ∧
    ∀ fault, (aggregator.run sources).outcome = .error fault →
      ∃ extraction ∈ aggregator.extractions sources, ∃ inner,
        (aggregator.facadeOf sources).clientType extraction.submodule = .error inner ∧
          fault = .template inner := by
  have houtcome := run_outcome_of_lenient haccepted hlenient sources
  have htypes := (aggregator.facadeOf sources).exists_render_iff aggregator.indent
  rw [forall_mem_submodules_facadeOf] at htypes
  rw [← htypes, houtcome]
  cases hrender : (aggregator.facadeOf sources).render aggregator.indent with
  | ok text => exact ⟨⟨fun _ => ⟨text, rfl⟩, fun _ => ⟨text, rfl⟩⟩, nofun⟩
  | error inner =>
    refine ⟨⟨?_, ?_⟩, ?_⟩
    · rintro ⟨text, htext⟩
      cases htext
    · rintro ⟨text, htext⟩
      cases htext
    · intro fault hfault
      obtain ⟨submodule, hmem, htype⟩ := Facade.render_eq_error hrender
      obtain ⟨extraction, hextraction, rfl⟩ := List.mem_map.mp hmem
      exact ⟨extraction, hextraction, inner, htype, (Except.error.inj hfault).symm⟩

/-- A lenient run with accepted settings gives a text just if every submodule has a type. Otherwise
it ends in the fault that a type has. If the template asks for no attribute, every submodule has one
just if it is longer than each index that directly follows a base in the template, the fault is an
index past the end of a submodule, and submodules as long as the probe never have it. -/
theorem lenient_run_ends_past_submodule_only (aggregator : Aggregator) (sources : List Source)
    (haccepted : aggregator.settings.Accepted) (hlenient : aggregator.settings.strict = false) :
    ((∃ text, (aggregator.run sources).outcome = .ok text) ↔
      ∀ extraction ∈ aggregator.extractions sources,
        ∃ type, (aggregator.facadeOf sources).clientType extraction.submodule = .ok type) ∧
    (∀ fault, (aggregator.run sources).outcome = .error fault →
      ∃ extraction ∈ aggregator.extractions sources, ∃ inner,
        (aggregator.facadeOf sources).clientType extraction.submodule = .error inner ∧
          fault = .template inner) ∧
    ((Template.ofText aggregator.settings.template).Textual →
      ((∃ text, (aggregator.run sources).outcome = .ok text) ↔
        ∀ extraction ∈ aggregator.extractions sources,
          ∀ place ∈ (Template.ofText aggregator.settings.template).indexes,
            place < extraction.submodule.length) ∧
      (∀ fault, (aggregator.run sources).outcome = .error fault →
        fault = .template .indexPastEnd) ∧
      ((∀ extraction ∈ aggregator.extractions sources,
          Template.probe.length ≤ extraction.submodule.length) →
        ∃ text, (aggregator.run sources).outcome = .ok text)) := by
  obtain ⟨hruns, hfaults⟩ := lenient_run_cases haccepted hlenient sources
  refine ⟨hruns, hfaults, fun htextual => ?_⟩
  have hguarded : ∀ extraction ∈ aggregator.extractions sources,
      Guarded (Within (Template.ofText aggregator.settings.template).indexes extraction.submodule)
        (fun _ => True) ((aggregator.facadeOf sources).clientType extraction.submodule) :=
    fun extraction hextraction =>
      (aggregator.facadeOf sources).clientType_guarded haccepted.template htextual
        (submodule_ne_nil hextraction)
  have htypes : (∃ text, (aggregator.run sources).outcome = .ok text) ↔
      ∀ extraction ∈ aggregator.extractions sources,
        Within (Template.ofText aggregator.settings.template).indexes extraction.submodule :=
    hruns.trans (forall₂_congr fun extraction hextraction =>
      (hguarded extraction hextraction).exists_ok_iff)
  refine ⟨htypes, ?_, fun hlong => htypes.mpr fun extraction hextraction => ?_⟩
  · intro fault hfault
    obtain ⟨extraction, hextraction, inner, hinner, rfl⟩ := hfaults fault hfault
    rw [(hguarded extraction hextraction).fault_eq hinner]
  · exact Template.within_of_accepted haccepted.template htextual (hlong extraction hextraction)

end Runs

section Examples

attribute [local instance] Runtime.shared

/-- Settings whose types end in the ninth character of the submodule. -/
def ninthCharacter : Settings :=
  { Settings.defaults with template := "::\x7bsubmodule\x7d::\x7bsubmodule[8]\x7d" }

def shortSource : Source where
  path := "foo.rb"
  text := "module Line\nmodule Bot\nmodule V2\nmodule Foo\ndef ping\n"

def longSource : Source where
  path := "messaging.rb"
  text := "module Line\nmodule Bot\nmodule V2\nmodule MessagingApi\ndef ping\n"

theorem accepted_ninthCharacter : ninthCharacter.Accepted :=
  Settings.accepted_defaults.withTemplate (by decide +kernel)

theorem lenient_run_ends_past_submodule_only_of_ninthCharacter :
    (∃ text, ((ofSettings ninthCharacter).run [longSource]).outcome = .ok text) ∧
      ¬ ∃ text, ((ofSettings ninthCharacter).run [longSource, shortSource]).outcome = .ok text := by
  have htextual : (Template.ofText ninthCharacter.template).Textual := by decide +kernel
  obtain ⟨-, -, hlongs⟩ := lenient_run_ends_past_submodule_only (ofSettings ninthCharacter)
    [longSource] accepted_ninthCharacter rfl
  obtain ⟨-, -, hshorts⟩ := lenient_run_ends_past_submodule_only (ofSettings ninthCharacter)
    [longSource, shortSource] accepted_ninthCharacter rfl
  obtain ⟨-, -, hlong⟩ := hlongs htextual
  obtain ⟨hshort, -, -⟩ := hshorts htextual
  refine ⟨hlong (by decide +kernel), fun hruns => absurd (hshort.mp hruns) (by decide +kernel)⟩

/-- A submodule of three characters has no ninth one. -/
theorem not_forall_lenient_run_returns :
    ¬ ∀ (settings : Settings) (sources : List Source), settings.Accepted →
      settings.strict = false →
      ∃ text, ((ofSettings settings).run sources).outcome = .ok text := by
  intro h
  obtain ⟨text, htext⟩ := h ninthCharacter [shortSource] accepted_ninthCharacter rfl
  have hfault : ((ofSettings ninthCharacter).run [shortSource]).outcome =
      .error (.template .indexPastEnd) := by decide +kernel
  rw [hfault] at htext
  cases htext

end Examples

end Aggregator

end ClientFacade
