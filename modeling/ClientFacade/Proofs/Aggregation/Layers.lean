import ClientFacade.Proofs.Aggregation.Rendering
import ClientFacade.Proofs.Facade.Document
import ClientFacade.Proofs.Settings.Document

/-!
# Layers that fit together

Methods, extractions and facades have checks of their own, and so do settings. A run that makes each
of them through its check is the run that makes them as they are: whatever the search for submodules
and the scanner find passes, and so does what settings have let through. Only a strict run can end
before the facade is there.
-/

namespace ClientFacade

def Checked.outcome {α : Type} : Checked α → Except Aggregator.Fault α
  | .valid value => .ok value
  | .problems found => .error (.rejected found)
  | .aborted fault => .error (.template fault)

namespace Method

def checked (method : Method) : Checked Method := ofValue method.toValue

theorem checked_eq_valid (method : Method) : method.checked = .valid method :=
  ofValue_of_writtenAs method.writtenAs_toValue

end Method

namespace Extraction

def checked (extraction : Extraction) : Checked Extraction := ofValue extraction.toValue

theorem checked_eq_valid {extraction : Extraction} (h : extraction.submodule ≠ []) :
    extraction.checked = .valid extraction :=
  ofValue_of_writtenAs h extraction.writtenAs_toValue

end Extraction

namespace Source

variable {nesting : List Text} {submodule : Text}

def checkedMethods (source : Source) : Except Aggregator.Fault (List Method) :=
  source.methods.mapM fun method => method.checked.outcome

/-- Extracts a source with all checks on the way. -/
def extractChecked (nesting : List Text) (source : Source) :
    Logged Aggregator.Fault (Option Extraction) :=
  match source.submodule? nesting with
  | none => do
    Logged.write [source.missingReport nesting]
    return none
  | some submodule => do
    let methods ← Logged.ofExcept source.checkedMethods
    Logged.write ((methods.filter (!·.recognised)).map source.unrecognisedReport)
    Logged.write [countReport ⟨submodule, source.path, methods⟩]
    let extraction ← Logged.ofExcept (Extraction.mk submodule source.path methods).checked.outcome
    return some extraction

theorem isWord_of_submodule? {source : Source} (h : source.submodule? nesting = some submodule) :
    IsWord submodule := Submodule.isWord_of_find? h

theorem checkedMethods_eq (source : Source) : source.checkedMethods = .ok source.methods := by
  unfold checkedMethods
  induction source.methods with
  | nil => rfl
  | cons method rest ih =>
    rw [List.mapM_cons, method.checked_eq_valid, ih]
    rfl

theorem extractChecked_eq (nesting : List Text) (source : Source) :
    source.extractChecked nesting = ⟨source.reports nesting, .ok (source.extraction? nesting)⟩ := by
  unfold extractChecked reports extraction?
  cases hfound : source.submodule? nesting with
  | none => rfl
  | some submodule =>
    have hextraction : (Extraction.mk submodule source.path source.methods).checked =
        .valid ⟨submodule, source.path, source.methods⟩ :=
      Extraction.checked_eq_valid (isWord_of_submodule? hfound).ne_nil
    dsimp only [Option.map]
    rw [checkedMethods_eq, Logged.ofExcept, Logged.ok_bind, Logged.write_bind, Logged.write_bind,
      hextraction]
    rfl

end Source

namespace Aggregator

variable {aggregator : Aggregator} {sources : List Source}

def extractEach (aggregator : Aggregator) : List Source → Logged Fault (List Extraction)
  | [] => return []
  | source :: rest => do
    let found ← source.extractChecked aggregator.nesting
    let others ← aggregator.extractEach rest
    return found.toList ++ others

def extractChecked (aggregator : Aggregator) (sources : List Source) :
    Logged Fault (List Extraction) := do
  let found ← aggregator.extractEach sources
  Logged.write [summary found (sources.length - found.length)]
  return found

theorem extractEach_eq (aggregator : Aggregator) (sources : List Source) :
    aggregator.extractEach sources =
      ⟨sources.flatMap (·.reports aggregator.nesting), .ok (aggregator.extractions sources)⟩ := by
  induction sources with
  | nil => rfl
  | cons source rest ih =>
    rw [extractEach, source.extractChecked_eq, ih, Logged.ok_bind, Logged.ok_bind]
    cases hfound : source.extraction? aggregator.nesting with
    | none => simp [extractions, hfound]
    | some extraction => simp [extractions, hfound]

theorem extractChecked_eq (aggregator : Aggregator) (sources : List Source) :
    aggregator.extractChecked sources = aggregator.extract sources := by
  rw [extractChecked, extractEach_eq, Logged.ok_bind, Logged.write_bind]
  simp [extract, extractionReports]

theorem wellformed_facadeOf [Machine] (h : aggregator.settings.Accepted) (sources : List Source) :
    (aggregator.facadeOf sources).Wellformed where
  className := Settings.ne_nil_of_isConstantName h.className
  template := h.template
  submodules := by
    intro submodule hmem
    obtain ⟨extraction, hextraction, rfl⟩ := List.mem_map.mp hmem
    exact submodule_ne_nil hextraction

theorem build_of_lenient [Machine] (haccepted : aggregator.settings.Accepted)
    (hlenient : aggregator.settings.strict = false) (extractions : List Extraction) :
    aggregator.build extractions = ⟨(collisions extractions).map collisionReport,
      .ok (aggregator.settings.facadeOf extractions)⟩ := by
  rw [build_of_tolerated fun _ => hlenient, assemble_of_accepted haccepted]

/-- With settings that a program can have no check stops a lenient run before the facade is there.
Submodules are words, all that is extracted passes its checks, and so does the facade, which has the
submodule of every source that has one. -/
theorem checks_let_facade_through [Machine] (aggregator : Aggregator) (sources : List Source)
    (h : aggregator.settings.Obtainable) :
    (∀ source ∈ sources, ∀ submodule,
      source.submodule? aggregator.nesting = some submodule → IsWord submodule) ∧
    aggregator.extractChecked sources =
      ⟨aggregator.extractionReports sources, .ok (aggregator.extractions sources)⟩ ∧
    (∀ extraction ∈ aggregator.extractions sources,
      extraction.checked = .valid extraction ∧
        ∀ method ∈ extraction.methods, method.checked = .valid method) ∧
    Facade.checkClassName aggregator.settings.className = .valid aggregator.settings.className ∧
    Checked.template aggregator.settings.template = .valid aggregator.settings.template ∧
    Facade.ofValue (aggregator.facadeOf sources).toValue = .valid (aggregator.facadeOf sources) ∧
    (aggregator.settings.strict = false →
      (aggregator.extractChecked sources >>= aggregator.build).outcome =
        .ok (aggregator.facadeOf sources)) ∧
    (aggregator.facadeOf sources).submodules =
      sources.filterMap (·.submodule? aggregator.nesting) := by
  have haccepted := h.sound.accepted
  refine ⟨?_, aggregator.extractChecked_eq sources, ?_, ?_, ?_, ?_, ?_,
    aggregator.submodules_facadeOf sources⟩
  · intro source _ submodule hfound
    exact Source.isWord_of_submodule? hfound
  · intro extraction hextraction
    exact ⟨Extraction.checked_eq_valid (submodule_ne_nil hextraction),
      fun method _ => method.checked_eq_valid⟩
  · exact if_neg (Settings.ne_nil_of_isConstantName haccepted.className)
  · exact Checked.template_eq_valid_iff.mpr ⟨haccepted.template, rfl⟩
  · exact Facade.ofValue_of_writtenAs (wellformed_facadeOf haccepted sources)
      (Facade.writtenAs_toValue _)
  · intro hlenient
    rw [extractChecked_eq, extract, Logged.ok_bind, build_of_lenient haccepted hlenient]
    rfl

/-- A source outside of the usual nesting. -/
def straySource : Source where
  path := "stray.rb"
  text := "module Line\ndef ping\n"

section Examples

attribute [local instance] Runtime.shared

theorem obtainable_ninthCharacter : ninthCharacter.Obtainable :=
  Settings.obtainable_iff_sound.mpr ⟨accepted_ninthCharacter, Settings.sound_defaults.files⟩

/-- The facade is there, although its rendering asks a submodule for a character that it lacks. -/
theorem checks_let_facade_through_of_ninthCharacter :
    ninthCharacter.Obtainable ∧ ninthCharacter.strict = false ∧
      ∃ facade, ((ofSettings ninthCharacter).extractChecked [longSource, straySource, shortSource]
          >>= (ofSettings ninthCharacter).build).outcome = .ok facade ∧
        Facade.ofValue facade.toValue = .valid facade ∧
        facade.submodules = ["MessagingApi", "Foo"] := by
  obtain ⟨-, -, -, -, -, hvalid, hbuild, hsubmodules⟩ :=
    checks_let_facade_through (ofSettings ninthCharacter) [longSource, straySource, shortSource]
      obtainable_ninthCharacter
  refine ⟨obtainable_ninthCharacter, rfl, _, hbuild rfl, hvalid, ?_⟩
  rw [hsubmodules]
  decide +kernel

end Examples

end Aggregator

end ClientFacade
