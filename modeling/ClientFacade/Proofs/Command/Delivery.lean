import ClientFacade.Proofs.Aggregation
import ClientFacade.Proofs.Command.Generated
import ClientFacade.Proofs.Command.Markup
import ClientFacade.Proofs.Store.Change
import ClientFacade.Proofs.Text.Clean

/-!
# Generating is all or nothing

A call to generate reads everything before it writes anything. Whatever stops it, from the settings
to the rendering, is shown and ends it with the store as it was. Only then is the text delivered: to
the file that is asked for, which may be one of those that were read, or to the standard output,
where it loses its control sequences.
-/

namespace ClientFacade

namespace Log

theorem setup_of_packaged {request : Request} (h : request.path = none) (store other : Store)
    (fromProcess : Option Text) (loggers : Loggers) :
    setup store fromProcess request loggers = setup other fromProcess request loggers := by
  have hlocation : request.location fromProcess = .packaged
      (Path.ofText (Packaged.wanted none request.environment fromProcess)) := by
    rw [Request.location, h]
  have hread : (request.location fromProcess).read store =
      (request.location fromProcess).read other := by
    rw [hlocation]
    rfl
  rw [setup, setup, hread]

end Log

namespace Command

namespace Call

variable {call : Call} {store : Store}

theorem exists_logging_of_defaultLevel (call : Call) (h : call.level = defaultLevel)
    (store : Store) :
    ∃ logging, call.logging store none = .ok logging := by
  have hset : (Log.setup Store.empty none ⟨none, some defaultLevel, none, false⟩
      .initial).outcome.toOption.any (fun _ => true) = true := by decide +kernel
  obtain ⟨logging, hlogging, -⟩ := exists_ok_of_any_toOption hset
  refine ⟨logging, ?_⟩
  rw [Call.logging, h, Log.setup_of_packaged rfl store Store.empty, hlogging]

/-- A command that is stopped is shown why, and nothing else goes out. -/
theorem exists_run_of_stop [Runtime] {environment : Option Text} {logging : Log.Outcome}
    {stop : Stop Cause}
    (hlogging : call.logging store environment = .ok logging)
    (hstop : (call.perform store).result.outcome = .error stop) :
    ∃ outcome, call.run store environment = .ok outcome ∧ outcome.code = 1 ∧
      outcome.output = [] ∧ outcome.store = (call.perform store).store := by
  obtain ⟨panel, hpanel⟩ := (stop.toFailure call.command.name).exists_panel call.command
  unfold run Performance.conclude
  rw [hlogging, hstop]
  dsimp only
  rw [hpanel]
  exact ⟨_, rfl, rfl, rfl, rfl⟩

theorem exists_run_of_output [Runtime] {environment : Option Text} {logging : Log.Outcome}
    {output : Text}
    (hlogging : call.logging store environment = .ok logging)
    (houtput : (call.perform store).result.outcome = .ok output) :
    ∃ outcome, call.run store environment = .ok outcome ∧ outcome.code = 0 ∧
      outcome.output = output.withoutSequences ∧ outcome.store = (call.perform store).store := by
  unfold run Performance.conclude
  rw [hlogging, houtput]
  exact ⟨_, rfl, rfl, rfl, rfl⟩

theorem exists_run_of_clean [Runtime] {environment : Option Text} {logging : Log.Outcome}
    {output : Text}
    (hlogging : call.logging store environment = .ok logging) (hclean : output.Clean)
    (houtput : (call.perform store).result.outcome = .ok output) :
    ∃ outcome, call.run store environment = .ok outcome ∧ outcome.code = 0 ∧
      outcome.output = output := by
  obtain ⟨outcome, hrun, hcode, hwritten, -⟩ := exists_run_of_output hlogging houtput
  exact ⟨outcome, hrun, hcode, hwritten.trans hclean.withoutSequences⟩

/-- The text has gone where the call wants it, and nowhere else. -/
structure Delivers (call : Call) (store : Store) (text : Text) (outcome : Outcome) : Prop where
  code : outcome.code = 0
  file : ∀ path, call.output = some path →
    outcome.output = [] ∧ Store.Saved path (Utf8.encode text) store outcome.store
  standard : call.output = none → outcome.store = store ∧
    outcome.output = text.withoutSequences ∧ (outcome.output = text ↔ text.SequenceFree)

/-- Nothing has gone out, and only a text that could not be saved has left any trace. -/
structure Refuses [Runtime] (call : Call) (store : Store) (outcome : Outcome) : Prop where
  code : outcome.code = 1
  output : outcome.output = []
  untouched : (¬ ∃ text, call.Generates store text) → outcome.store = store
  unsaved : ∀ text, call.Generates store text → ∃ path fault, call.output = some path ∧
    (store.save path (Utf8.encode text)).fault = some fault ∧
    Store.Grown (·.IsAbove path) store outcome.store

theorem deliver_stop (output : Option Path) (store : Store) (records : List Record)
    (stop : Stop Cause) :
    deliver output store ⟨records, .error stop⟩ = ⟨⟨records, .error stop⟩, store⟩ := by
  cases output <;> rfl

theorem deliver_saved {path : Path} {text : Text} (records : List Record)
    (h : (store.save path (Utf8.encode text)).fault = none) :
    deliver (some path) store ⟨records, .ok text⟩ =
      ⟨⟨records ++ [writtenReport path], .ok []⟩, (store.save path (Utf8.encode text)).store⟩ := by
  rw [deliver, h]

theorem deliver_unsaved {path : Path} {text : Text} {fault : Store.Fault} (records : List Record)
    (h : (store.save path (Utf8.encode text)).fault = some fault) :
    deliver (some path) store ⟨records, .ok text⟩ =
      ⟨⟨records, .error (Cause.store fault).stop⟩, (store.save path (Utf8.encode text)).store⟩ := by
  rw [deliver, h]

section

variable {environment : Option Text} {logging : Log.Outcome} {records : List Record}

theorem perform_of_generate [Runtime] {result : Except (Stop Cause) Text}
    (hcommand : call.command = .generate) (h : call.generated store = ⟨records, result⟩) :
    call.perform store = deliver call.output store ⟨records, result⟩ := by
  rw [perform, hcommand, ← h]

theorem exists_refuses_of_stop [Runtime] {stop : Stop Cause} (hcommand : call.command = .generate)
    (hlogging : call.logging store environment = .ok logging)
    (h : call.generated store = ⟨records, .error stop⟩) :
    ∃ outcome, call.run store environment = .ok outcome ∧ call.Refuses store outcome := by
  have hperform := perform_of_generate hcommand h
  rw [deliver_stop] at hperform
  have hnone : ¬ ∃ text, call.Generates store text := by
    rintro ⟨text, htext⟩
    rw [← generated_outcome_eq_ok_iff, h] at htext
    cases htext
  obtain ⟨outcome, hrun, hcode, houtput, hstore⟩ := exists_run_of_stop hlogging (by rw [hperform])
  rw [hperform] at hstore
  exact ⟨outcome, hrun, hcode, houtput, fun _ => hstore,
    fun text htext => absurd ⟨text, htext⟩ hnone⟩

theorem exists_delivers_to_output [Runtime] {text : Text} (hcommand : call.command = .generate)
    (hlogging : call.logging store environment = .ok logging) (houtput : call.output = none)
    (h : call.generated store = ⟨records, .ok text⟩) :
    ∃ outcome, call.run store environment = .ok outcome ∧ call.Delivers store text outcome := by
  have hperform := perform_of_generate hcommand h
  rw [houtput] at hperform
  obtain ⟨outcome, hrun, hcode, hwritten, hstore⟩ :=
    exists_run_of_output hlogging (by rw [hperform]; rfl)
  rw [hperform] at hstore
  have hsame : outcome.output = text ↔ text.SequenceFree := by
    rw [hwritten]
    exact text.withoutSequences_eq_self_iff
  refine ⟨outcome, hrun, hcode, fun path hpath => ?_, fun _ => ⟨hstore, hwritten, hsame⟩⟩
  rw [houtput] at hpath
  cases hpath

theorem exists_delivers_to_file [Runtime] {text : Text} {path : Path}
    (hcommand : call.command = .generate)
    (hlogging : call.logging store environment = .ok logging) (houtput : call.output = some path)
    (h : call.generated store = ⟨records, .ok text⟩)
    (hsave : (store.save path (Utf8.encode text)).fault = none) :
    ∃ outcome, call.run store environment = .ok outcome ∧ call.Delivers store text outcome := by
  have hperform := perform_of_generate hcommand h
  rw [houtput, deliver_saved records hsave] at hperform
  obtain ⟨outcome, hrun, hcode, hwritten, hstore⟩ :=
    exists_run_of_output hlogging (by rw [hperform])
  rw [hperform] at hstore
  refine ⟨outcome, hrun, hcode, fun other hother => ?_, fun hnone => ?_⟩
  · obtain rfl : path = other := Option.some.inj (houtput.symm.trans hother)
    rw [hstore]
    exact ⟨hwritten.trans Text.withoutSequences_nil, Store.saved_of_save hsave⟩
  · rw [houtput] at hnone
    cases hnone

theorem exists_refuses_of_unsaved [Runtime] {text : Text} {path : Path} {fault : Store.Fault}
    (hcommand : call.command = .generate)
    (hlogging : call.logging store environment = .ok logging) (houtput : call.output = some path)
    (h : call.generated store = ⟨records, .ok text⟩)
    (hsave : (store.save path (Utf8.encode text)).fault = some fault) :
    ∃ outcome, call.run store environment = .ok outcome ∧ call.Refuses store outcome := by
  have htext : call.Generates store text := by
    rw [← generated_outcome_eq_ok_iff, h]
  have hperform := perform_of_generate hcommand h
  rw [houtput, deliver_unsaved records hsave] at hperform
  obtain ⟨outcome, hrun, hcode, hwritten, hstore⟩ :=
    exists_run_of_stop hlogging (by rw [hperform])
  rw [hperform] at hstore
  refine ⟨outcome, hrun, hcode, hwritten, fun hnone => absurd ⟨text, htext⟩ hnone,
    fun other hother => ?_⟩
  obtain rfl := generates_unique htext hother
  rw [hstore]
  exact ⟨path, fault, houtput, hsave, Store.grown_of_save hsave⟩

end

/-- Once logging is set up, a call to generate either delivers the text that the files make as they
were before, or refuses. -/
theorem generate_delivers_or_refuses [Runtime] (call : Call) (store : Store)
    (environment : Option Text)
    (logging : Log.Outcome) (hcommand : call.command = .generate)
    (hlogging : call.logging store environment = .ok logging) :
    ∃ outcome, call.run store environment = .ok outcome ∧
      ((∃ text, call.Generates store text ∧ call.Delivers store text outcome) ∨
        call.Refuses store outcome) := by
  -- every step that can fail before the first effect is in this one result
  cases hgenerated : call.generated store with
  | mk records result =>
    cases result with
    | error stop =>
      obtain ⟨outcome, hrun, hrefuses⟩ := exists_refuses_of_stop hcommand hlogging hgenerated
      exact ⟨outcome, hrun, .inr hrefuses⟩
    | ok text =>
      have htext : call.Generates store text := by
        rw [← generated_outcome_eq_ok_iff, hgenerated]
      cases houtput : call.output with
      | none =>
        obtain ⟨outcome, hrun, hdelivers⟩ :=
          exists_delivers_to_output hcommand hlogging houtput hgenerated
        exact ⟨outcome, hrun, .inl ⟨text, htext, hdelivers⟩⟩
      | some path =>
        cases hsave : (store.save path (Utf8.encode text)).fault with
        | none =>
          obtain ⟨outcome, hrun, hdelivers⟩ :=
            exists_delivers_to_file hcommand hlogging houtput hgenerated hsave
          exact ⟨outcome, hrun, .inl ⟨text, htext, hdelivers⟩⟩
        | some fault =>
          obtain ⟨outcome, hrun, hrefuses⟩ :=
            exists_refuses_of_unsaved hcommand hlogging houtput hgenerated hsave
          exact ⟨outcome, hrun, .inr hrefuses⟩

/-- The text of a source whose only method is documented in red. -/
def redSource : Text :=
  "module Line\nmodule Bot\nmodule V2\nmodule Foo\n# \x1b[31mred\ndef ping\n"

def redPath : Path := ⟨.relative, ["foo.rb"]⟩

def redStore : Store := Store.empty.add ["foo.rb"] (.file (Utf8.encode redSource))

def redCall (output : Option Path) : Call where
  command := .generate
  files := [redPath]
  config := none
  output := output
  strict := false
  level := defaultLevel

section Examples

attribute [local instance] Runtime.shared

theorem exists_generates_redCall (output : Option Path) :
    ∃ text, (redCall output).Generates redStore text ∧ text.withoutSequences ≠ text := by
  have hany : ((redCall none).generated redStore).outcome.toOption.any
      (fun text => text.withoutSequences ≠ text) = true := by decide +kernel
  obtain ⟨text, htext, hchanged⟩ := exists_ok_of_any_toOption hany
  exact ⟨text, generated_outcome_eq_ok_iff.mp htext, by simpa using hchanged⟩

/-- The file that is read can be the one that is written. -/
theorem generate_delivers_or_refuses_of_redStore :
    ∃ outcome text, (redCall (some redPath)).run redStore none = .ok outcome ∧
      (redCall (some redPath)).Generates redStore text ∧
      (redCall (some redPath)).Delivers redStore text outcome := by
  obtain ⟨logging, hlogging⟩ :=
    (redCall (some redPath)).exists_logging_of_defaultLevel rfl redStore
  obtain ⟨outcome, hrun, ⟨text, htext, hdelivers⟩ | hrefuses⟩ :=
    generate_delivers_or_refuses (redCall (some redPath)) redStore none logging rfl hlogging
  · exact ⟨outcome, text, hrun, htext, hdelivers⟩
  · obtain ⟨text, htext, -⟩ := exists_generates_redCall (some redPath)
    obtain ⟨path, fault, hpath, hsave, -⟩ := hrefuses.unsaved text htext
    obtain rfl : redPath = path := Option.some.inj hpath
    have hnone : ∀ bytes, (redStore.save redPath bytes).fault = none := fun _ => rfl
    rw [hnone] at hsave
    cases hsave

/-- What goes to the standard output is not always the text, and the call succeeds all the same. -/
theorem not_forall_output_is_text :
    ¬ ∀ (call : Call) (store : Store) (environment : Option Text) (logging : Log.Outcome),
      call.command = .generate → call.logging store environment = .ok logging →
      call.output = none → ∃ outcome, call.run store environment = .ok outcome ∧
        ((∃ text, call.Generates store text ∧ outcome.code = 0 ∧ outcome.output = text ∧
            outcome.store = store) ∨
          outcome.code = 1 ∧ outcome.output = [] ∧ outcome.store = store) := by
  intro h
  obtain ⟨logging, hlogging⟩ := (redCall none).exists_logging_of_defaultLevel rfl redStore
  obtain ⟨red, hred, hchanged⟩ := exists_generates_redCall none
  obtain ⟨outcome, hrun, houtcome⟩ := h (redCall none) redStore none logging rfl hlogging rfl
  have hresult := generated_outcome_eq_ok_iff.mpr hred
  obtain ⟨other, hother, hdelivers⟩ :
      ∃ outcome, (redCall none).run redStore none = .ok outcome ∧
        (redCall none).Delivers redStore red outcome :=
    exists_delivers_to_output rfl hlogging rfl (by rw [← hresult])
  obtain rfl : outcome = other := Except.ok.inj (hrun.symm.trans hother)
  obtain ⟨-, hwritten, -⟩ := hdelivers.standard rfl
  rcases houtcome with ⟨text, htext, -, houtput, -⟩ | ⟨hcode, -⟩
  · have hsame := generates_unique hred htext
    exact hchanged (hwritten.symm.trans (houtput.trans hsame.symm))
  · rw [hdelivers.code] at hcode
    cases hcode

end Examples

end Call

end Command

end ClientFacade
