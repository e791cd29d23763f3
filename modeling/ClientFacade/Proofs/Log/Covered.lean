import ClientFacade.Log.Setup
import ClientFacade.Proofs.Outcome
import ClientFacade.Proofs.Value.Heap

/-!
# Faults that the fallback covers

Whatever a file holds, finding no configuration in it is a covered fault, unless a scalar in it is
misread. So is every fault that stops the application of a configuration. What is left is the
override of the levels.
-/

namespace ClientFacade.Log

variable {α β : Type}

/-- Whether a step ends in a fault that the fallback does not cover. -/
def Escapes (step : Except Fault α) : Prop :=
  ∃ fault, step = .error fault ∧ fault.isCovered = false

/-- Whether the faults that stop the application of a configuration are covered. -/
def Covers (apply : Apply) : Prop :=
  ∀ config loggers fault, (apply config loggers).2 = some fault → fault.isCovered = true

@[simp] theorem not_escapes_ok (a : α) : ¬ Escapes (.ok a) := nofun

@[simp] theorem escapes_error {fault : Fault} :
    Escapes (.error fault : Except Fault α) ↔ fault.isCovered = false := by
  simp [Escapes]

theorem not_escapes_error {fault : Fault} (h : fault.isCovered = true) :
    ¬ Escapes (.error fault : Except Fault α) := by
  rw [escapes_error, h]
  exact Bool.noConfusion

theorem escapes_bind_iff {step : Except Fault α} {next : α → Except Fault β} :
    Escapes (step >>= next) ↔ Escapes step ∨ ∃ a, step = .ok a ∧ Escapes (next a) := by
  cases step <;> simp [bind, Except.bind]

theorem not_escapes_bind {step : Except Fault α} {next : α → Except Fault β}
    (hstep : ¬ Escapes step) (hnext : ∀ a, ¬ Escapes (next a)) : ¬ Escapes (step >>= next) := by
  rw [escapes_bind_iff]
  rintro (h | ⟨a, -, h⟩)
  · exact hstep h
  · exact hnext a h

theorem isCovered_of_not_escapes {step : Except Fault α} {fault : Fault} (h : ¬ Escapes step)
    (hfault : step = .error fault) : fault.isCovered = true := by
  rw [hfault, escapes_error, Bool.not_eq_false] at h
  exact h

/-! ## Reading -/

/-- Whether reading has ended in one of the faults of a scalar that the fallback does not cover. -/
def Misread (found : Except Yaml.FileFault Graph) : Prop :=
  ∃ kind reason, found = .error (.content (.impossible kind reason)) ∧
    kind ∈ [Yaml.FaultKind.index, .attribute, .overflow, .depth]

theorem not_misread_ok (config : Graph) : ¬ Misread (.ok config) := by
  rintro ⟨_, _, h, -⟩
  cases h

theorem Location.fault_isCovered_eq_false_iff {location : Location} {fault : Yaml.FileFault} :
    (location.fault fault).isCovered = false ↔ Misread (.error fault) := by
  rcases fault with (_ | _) | _ | (_ | ⟨kind, reason⟩)
  case content.impossible => cases kind <;> simp [Misread, fault, Fault.isCovered, Fault.kind,
    FaultKind.ofYaml]
  all_goals simp [Misread, fault, Fault.isCovered, Fault.kind]

theorem Location.config_eq_ok_iff {location : Location} {found : Except Yaml.FileFault Graph}
    {config : Graph} : location.config found = .ok config ↔
      found = .ok config ∧ config.heap.IsMap config.root := by
  cases found with
  | error fault => exact iff_of_false nofun fun h => nomatch h.1
  | ok graph =>
    rw [Location.config]
    split
    · rename_i hmap
      rw [Except.ok.injEq, Except.ok.injEq]
      exact ⟨fun h => ⟨h, h ▸ Option.isSome_iff_exists.mp hmap⟩, fun h => h.1⟩
    · rename_i hmap
      refine iff_of_false nofun fun h => hmap ?_
      obtain rfl := Except.ok.inj h.1
      exact Option.isSome_iff_exists.mpr h.2

theorem Location.escapes_config_iff {location : Location} {found : Except Yaml.FileFault Graph} :
    Escapes (location.config found) ↔ Misread found := by
  cases found with
  | error fault => rw [Location.config, escapes_error, fault_isCovered_eq_false_iff]
  | ok graph =>
    refine iff_of_false ?_ (not_misread_ok graph)
    rw [Location.config]
    split
    · exact not_escapes_ok graph
    · exact not_escapes_error rfl

/-! ## Applying -/

theorem not_escapes_checkVersion (config : Graph) : ¬ Escapes (checkVersion config) := by
  unfold checkVersion
  split
  · exact not_escapes_error rfl
  · split
    · split
      · exact not_escapes_ok ()
      · exact not_escapes_error rfl
    · exact not_escapes_error rfl

theorem not_escapes_entriesOf (key : Text) {fault : Text → Fault}
    (h : ∀ name, (fault name).isCovered = true) (config : Graph) :
    ¬ Escapes (entriesOf key fault config) := by
  unfold entriesOf
  split
  case h_1 => exact not_escapes_ok []
  case h_2 => exact not_escapes_ok []
  case h_3 => exact not_escapes_error (h _)
  case h_4 => exact not_escapes_ok []
  case h_5 => exact not_escapes_error (h _)
  case h_6 => exact not_escapes_error rfl
  case h_7 =>
    split
    case h_1 entries _ => exact not_escapes_ok entries
    case h_2 | h_3 | h_4 => exact not_escapes_ok []
    case h_5 | h_6 | h_7 => exact not_escapes_error (h _)

theorem not_escapes_formatters (heap : Heap) (entries : Entries) :
    ¬ Escapes (formatters heap entries) := by
  induction entries with
  | nil => exact not_escapes_ok []
  | cons entry rest ih =>
    rw [formatters]
    split
    · exact not_escapes_error rfl
    · exact not_escapes_bind ih fun _ => not_escapes_ok _

theorem not_escapes_handlersFrom (heap : Heap) (formats : List (Atom × Format))
    (entries : Entries) : ¬ Escapes (handlersFrom heap formats entries) := by
  induction entries with
  | nil => exact not_escapes_ok []
  | cons entry rest ih =>
    rw [handlersFrom]
    split
    · exact not_escapes_error rfl
    · exact not_escapes_bind ih fun _ => not_escapes_ok _

theorem not_escapes_handlersOf (config : Graph) : ¬ Escapes (handlersOf config) := by
  apply not_escapes_bind (not_escapes_entriesOf "formatters" (fun _ => rfl) config)
  intro entries
  apply not_escapes_bind (not_escapes_formatters config.heap entries)
  intro formats
  exact not_escapes_bind (not_escapes_entriesOf "handlers" (fun _ => rfl) config) fun entries =>
    not_escapes_handlersFrom config.heap formats _

theorem configureAll_isCovered {heap : Heap} {handlers : List (Atom × Handler)}
    {loggers next : Loggers} {entries : Entries} {fault : Fault}
    (h : configureAll heap handlers loggers entries = (next, some fault)) :
    fault.isCovered = true := by
  fun_induction configureAll heap handlers loggers entries with
  | case1 => cases h
  | case2 _ _ _ _ _ _ _ ih => exact ih h
  | case3 =>
    obtain ⟨-, hfault⟩ := Prod.mk.inj h
    cases hfault
    rfl
  | case4 => cases h; rfl

theorem configureRoot_isCovered {handlers : List (Atom × Handler)} {loggers : Loggers}
    {config : Graph} {fault : Fault}
    (h : (configureRoot handlers loggers config).2 = some fault) : fault.isCovered = true := by
  unfold configureRoot at h
  split at h
  · cases h
  · split at h
    · cases h
    · obtain ⟨-, hfault⟩ := Option.ite_none_left_eq_some.mp h
      cases hfault
      rfl

theorem configure_covers : Covers configure := by
  intro config loggers fault h
  unfold configure at h
  split at h
  case h_1 hversion =>
    cases h
    exact isCovered_of_not_escapes (not_escapes_checkVersion config) hversion
  split at h
  case h_1 hhandlers =>
    cases h
    exact isCovered_of_not_escapes (not_escapes_handlersOf config) hhandlers
  split at h
  case h_1 hentries =>
    cases h
    exact isCovered_of_not_escapes (not_escapes_entriesOf "loggers" (fun _ => rfl) config) hentries
  split at h
  case h_1 hall =>
    cases h
    exact configureAll_isCovered hall
  exact configureRoot_isCovered h

end ClientFacade.Log
