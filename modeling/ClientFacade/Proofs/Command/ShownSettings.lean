import ClientFacade.Proofs.Command.Delivery
import ClientFacade.Proofs.Settings.Document

/-!
# Shown settings come back

What is printed for settings may be saved as a settings file. From a file in the working directory
the same settings are read, with their files in order and where they were, so that showing them
prints the same text again.
-/

namespace ClientFacade.Command.Call

variable {call : Call} {store : Store} {settings : Settings}

structure Shows [Runtime] (call : Call) (store : Store) (settings : Settings) : Prop where
  command : call.command = .showConfig
  found : (call.settings store).outcome = .ok settings

theorem exists_run_of_shows [Runtime] {environment : Option Text} {logging : Log.Outcome}
    (h : call.Shows store settings) (hlogging : call.logging store environment = .ok logging) :
    ∃ outcome, call.run store environment = .ok outcome ∧ outcome.code = 0 ∧
      outcome.output = settings.shown := by
  have hperform : (call.perform store).result.outcome = .ok settings.shown := by
    rw [perform, h.command]
    exact Logged.bind_outcome_eq_ok_iff.mpr ⟨settings, h.found, rfl⟩
  exact exists_run_of_clean hlogging settings.clean_shown hperform

/-- A call to show settings that reads nothing but a file shows what is in it. -/
theorem shows_of_readFile [Runtime] {path : Path} (hcommand : call.command = .showConfig)
    (hconfig : call.config = some path) (hfiles : call.files = []) (hstrict : call.strict = false)
    (hread : Settings.readFile store path = .ok settings) : call.Shows store settings := by
  refine ⟨hcommand, settings_outcome_eq_ok_iff.mpr ⟨settings, ?_, ?_⟩⟩
  · rw [Finds, hconfig]
    exact hread
  · rw [effective, hfiles, hstrict]
    rfl

/-- If YAML reads back what it prints for these settings, a file in the working directory that holds
what is shown of them has the same settings, and showing this file gives the same text. -/
theorem shown_settings_come_back [Runtime] (settings : Settings) (hobtainable : settings.Obtainable)
    (hyaml : Yaml.Print.ReadsBack settings.contents) :
    (∀ (call : Call) (store : Store) (environment : Option Text) (logging : Log.Outcome),
      call.Shows store settings → call.logging store environment = .ok logging →
        ∃ outcome, call.run store environment = .ok outcome ∧ outcome.code = 0 ∧
          outcome.output = settings.shown) ∧
    ∀ (name : Text) (before after : Store),
      before.save ⟨.relative, [name]⟩ (Utf8.encode settings.shown) = ⟨after, none⟩ →
        Settings.readFile after ⟨.relative, [name]⟩ = .ok settings ∧
        ∀ (call : Call) (environment : Option Text) (logging : Log.Outcome),
          call.command = .showConfig → call.config = some ⟨.relative, [name]⟩ →
          call.files = [] → call.strict = false →
          call.logging after environment = .ok logging →
            ∃ outcome, call.run after environment = .ok outcome ∧ outcome.code = 0 ∧
              outcome.output = settings.shown := by
  refine ⟨fun _ _ _ _ => exists_run_of_shows, ?_⟩
  intro name before after hsave
  have hsaved : Store.Saved ⟨.relative, [name]⟩ (Utf8.encode settings.shown) before after := by
    have hfault : (before.save ⟨.relative, [name]⟩ (Utf8.encode settings.shown)).fault = none := by
      rw [hsave]
    have h := Store.saved_of_save hfault
    rwa [hsave] at h
  have hread : Settings.readFile after ⟨.relative, [name]⟩ = .ok settings :=
    Settings.readFile_shown hobtainable.sound hsaved.content hyaml
  refine ⟨hread, ?_⟩
  intro call environment logging hcommand hconfig hfiles hstrict hlogging
  exact exists_run_of_shows (shows_of_readFile hcommand hconfig hfiles hstrict hread) hlogging

/-- The default settings, made strict, for files whose paths have dots and doubled slashes. -/
def dottedSettings : Settings :=
  Settings.defaults.override
    [Path.ofText "./lib//../a.rb", Path.ofText "//share/b.rb", Path.ofText "./"] (some true)

theorem obtainable_dottedSettings [Runtime] : dottedSettings.Obtainable := by
  apply Settings.Obtainable.override
  · simp [Path.wellformed_ofText]
  · exact .defaults

def dottedCall : Call where
  command := .showConfig
  files := []
  config := some ⟨.relative, ["facade.yaml"]⟩
  output := none
  strict := false
  level := defaultLevel

section Examples

attribute [local instance] Runtime.shared

theorem shown_settings_come_back_of_dottedSettings :
    ∃ after outcome, Settings.readFile after ⟨.relative, ["facade.yaml"]⟩ = .ok dottedSettings ∧
      dottedCall.run after none = .ok outcome ∧ outcome.code = 0 ∧
      outcome.output = dottedSettings.shown := by
  obtain ⟨-, hfile⟩ :=
    shown_settings_come_back dottedSettings obtainable_dottedSettings (by decide +kernel)
  obtain ⟨hread, hshows⟩ := hfile "facade.yaml" Store.empty _ rfl
  obtain ⟨logging, hlogging⟩ := dottedCall.exists_logging_of_defaultLevel rfl _
  obtain ⟨outcome, hrun, hcode, houtput⟩ := hshows dottedCall none logging rfl rfl rfl rfl hlogging
  exact ⟨_, outcome, hread, hrun, hcode, houtput⟩

end Examples

end ClientFacade.Command.Call
