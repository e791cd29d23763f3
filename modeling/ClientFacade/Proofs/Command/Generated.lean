import ClientFacade.Command.Run
import ClientFacade.Proofs.Outcome
import Mathlib.Data.List.Forall2

/-!
# The text that a call is for

A call works with the settings that it finds, in its file or by default. Files of its own take the
place of theirs, and it may ask for strictness. The text is what the aggregator makes of the files
as they are in the store, all of which must be readable.
-/

namespace ClientFacade

namespace Source

def ReadFrom (store : Store) (path : Path) (source : Source) : Prop :=
  source.path = path.text ∧ readText store .utf8 path = .ok source.text

theorem load_outcome_eq_ok_iff {store : Store} {path : Path} {source : Source} :
    (load store .utf8 path).outcome = .ok source ↔ source.ReadFrom store path := by
  unfold load ReadFrom
  rw [Logged.bind_outcome_eq_ok_iff]
  constructor
  · rintro ⟨text, htext, hsource⟩
    obtain rfl := Except.ok.inj hsource
    exact ⟨rfl, htext⟩
  · rintro ⟨hpath, htext⟩
    refine ⟨source.text, htext, ?_⟩
    rw [Logged.write_bind, ← hpath]
    rfl

theorem loadAll_outcome_eq_ok_iff {store : Store} {paths : List Path} {sources : List Source} :
    (loadAll store .utf8 paths).outcome = .ok sources ↔
      List.Forall₂ (fun path source => source.ReadFrom store path) paths sources := by
  induction paths generalizing sources with
  | nil =>
    rw [List.forall₂_nil_left_iff, loadAll, Logged.pure_outcome, Except.ok.injEq]
    exact eq_comm
  | cons path rest ih =>
    rw [loadAll, Logged.bind_outcome_eq_ok_iff, List.forall₂_cons_left_iff]
    constructor
    · rintro ⟨source, hsource, hrest⟩
      obtain ⟨others, hothers, hcons⟩ := Logged.bind_outcome_eq_ok_iff.mp hrest
      rw [Logged.pure_outcome, Except.ok.injEq] at hcons
      exact ⟨source, others, load_outcome_eq_ok_iff.mp hsource, ih.mp hothers, hcons.symm⟩
    · rintro ⟨source, others, hsource, hothers, rfl⟩
      refine ⟨source, load_outcome_eq_ok_iff.mpr hsource, ?_⟩
      exact Logged.bind_outcome_eq_ok_iff.mpr ⟨others, ih.mpr hothers, rfl⟩

end Source

namespace Command

namespace Call

/-- The settings that a call finds: those in its file, or the default ones. -/
def Finds [Runtime] (call : Call) (store : Store) (settings : Settings) : Prop :=
  match call.config with
  | none => settings = Settings.defaults
  | some path => Settings.readFile store path = .ok settings

/-- The files of a call stand in for those of the settings, and it may ask for strictness. -/
def effective (call : Call) (settings : Settings) : Settings :=
  { settings with
    files := if call.files = [] then settings.files else call.files
    strict := call.strict || settings.strict }

/-- The text that the files of a store make, with the settings in effect. -/
def Generates [Runtime] (call : Call) (store : Store) (text : Text) : Prop :=
  ∃ settings sources, call.Finds store settings ∧
    List.Forall₂ (fun path source => source.ReadFrom store path)
      (call.effective settings).files sources ∧
    ((Aggregator.ofSettings (call.effective settings)).run sources).outcome = .ok text

variable {call : Call} {store : Store}

theorem settings_outcome_eq_ok_iff [Runtime] {settings : Settings} :
    (call.settings store).outcome = .ok settings ↔
      ∃ found, call.Finds store found ∧ settings = call.effective found := by
  have hoverride : ∀ found : Settings, (pure (found.override call.files
      (if call.strict then some true else none)) : Logged (Stop Cause) Settings).outcome =
        .ok settings ↔ settings = call.effective found := by
    intro found
    rw [Logged.pure_outcome, Except.ok.injEq]
    cases hstrict : call.strict <;> simp [Settings.override, effective, hstrict, eq_comm]
  unfold Call.settings loadSettings Finds
  cases call.config with
  | none =>
    dsimp only
    rw [Logged.bind_outcome_eq_ok_iff]
    refine exists_congr fun found => and_congr ?_ (hoverride found)
    rw [Logged.pure_outcome, Except.ok.injEq]
    exact eq_comm
  | some path =>
    dsimp only
    rw [Logged.bind_outcome_eq_ok_iff]
    exact exists_congr fun found =>
      and_congr Logged.mapError_outcome_eq_ok_iff (hoverride found)

theorem generated_outcome_eq_ok_iff [Runtime] {text : Text} :
    (call.generated store).outcome = .ok text ↔ call.Generates store text := by
  rw [generated, Logged.bind_outcome_eq_ok_iff]
  constructor
  · rintro ⟨settings, hsettings, hrest⟩
    obtain ⟨found, hfound, rfl⟩ := settings_outcome_eq_ok_iff.mp hsettings
    obtain ⟨sources, hsources, hrun⟩ := Logged.bind_outcome_eq_ok_iff.mp hrest
    refine ⟨found, sources, hfound, ?_, Logged.mapError_outcome_eq_ok_iff.mp hrun⟩
    exact Source.loadAll_outcome_eq_ok_iff.mp (Logged.mapError_outcome_eq_ok_iff.mp hsources)
  · rintro ⟨found, sources, hfound, hsources, hrun⟩
    refine ⟨call.effective found, settings_outcome_eq_ok_iff.mpr ⟨found, hfound, rfl⟩, ?_⟩
    refine Logged.bind_outcome_eq_ok_iff.mpr ⟨sources, ?_, ?_⟩
    · exact Logged.mapError_outcome_eq_ok_iff.mpr (Source.loadAll_outcome_eq_ok_iff.mpr hsources)
    · exact Logged.mapError_outcome_eq_ok_iff.mpr hrun

theorem generates_unique [Runtime] {first second : Text} (hfirst : call.Generates store first)
    (hsecond : call.Generates store second) : first = second := by
  rw [← generated_outcome_eq_ok_iff] at hfirst hsecond
  exact Except.ok.inj (hfirst.symm.trans hsecond)

end Call

end Command

end ClientFacade
