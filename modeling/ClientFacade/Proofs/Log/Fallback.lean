import ClientFacade.Proofs.Log.Covered
import ClientFacade.Proofs.Log.Override

/-!
# When logging falls back

A set-up that cannot use its configuration ends with a plain handler for everything, at the level
that is asked for. It fails to do so in three cases only. The level may be the name of something in
the register that is no level, which the plain handler cannot take either. A scalar in the file may
be misread. Or the override of the levels meets a configuration that is exposed to it. A set-up that
fails has applied nothing of its configuration.
-/

namespace ClientFacade.Log

variable {apply : Apply} {location : Location} {found : Except Yaml.FileFault Graph}
  {request : Request} {loggers next : Loggers} {fault : Fault} {config : Graph}

/-! ## The plain handler -/

/-- Whether the plain handler is to have a level by the name of an entry that is none. -/
def Request.NamesEntry (request : Request) : Prop :=
  Level.capitals (fallbackName request.level) = "BASIC_FORMAT" ∨
    Level.capitals (fallbackName request.level) = "_STYLES"

/-- The level of the plain handler. A name that the register does not have counts as INFO. -/
def Request.plainLevel (request : Request) : Level :=
  (Level.ofName? (Level.capitals (fallbackName request.level))).getD .info

/-- The loggers with nothing but the plain handler on the root, at a level. -/
def Loggers.withPlain (loggers : Loggers) (level : Level) : Loggers :=
  { loggers with root := ⟨level, [plainHandler], loggers.root.propagates⟩ }

theorem usePlain_of_not_namesEntry (h : ¬ request.NamesEntry) (loggers : Loggers) :
    usePlain (fallbackName request.level) loggers =
      (loggers.withPlain request.plainLevel, none) := by
  obtain ⟨hline, hstyle⟩ := not_or.mp h
  rw [usePlain, fallbackLevel, if_neg hline, if_neg hstyle]
  rfl

theorem usePlain_of_namesEntry (h : request.NamesEntry) (loggers : Loggers) :
    ∃ fault, usePlain (fallbackName request.level) loggers =
      (loggers.withPlain loggers.root.level, some fault) := by
  by_cases hline : Level.capitals (fallbackName request.level) = "BASIC_FORMAT"
  · refine ⟨.unknown, ?_⟩
    rw [usePlain, fallbackLevel, if_pos hline]
    rfl
  · refine ⟨.unusable, ?_⟩
    rw [usePlain, fallbackLevel, if_neg hline, if_pos (h.resolve_left hline)]
    rfl

/-! ## The configuration -/

/-- Whether a known level is to override those of a configuration that is exposed to it. -/
def Request.MeetsExposed (request : Request) (found : Except Yaml.FileFault Graph) : Prop :=
  ∃ asked config, request.level = some asked ∧
    (Level.ofName? (Level.capitals asked)).isSome ∧ found = .ok config ∧ Exposed config

theorem isMap_root_of_get? {key : Text} {value : Ref} (h : config.get? key = some value) :
    config.heap.IsMap config.root := by
  obtain ⟨entries, hentries, -⟩ := Option.bind_eq_some_iff.mp h
  exact ⟨entries, hentries⟩

theorem Exposed.isMap_root (h : Exposed config) : config.heap.IsMap config.root := by
  rcases h with ⟨_, hloggers, -⟩ | ⟨-, -, _, hhandlers, -⟩
  · exact isMap_root_of_get? hloggers
  · exact isMap_root_of_get? hhandlers

theorem endsUncovered_adjust_iff (level : Option Text) (config : Graph) :
    EndsUncovered (adjust level config) ↔
      ∃ asked, level = some asked ∧ (Level.ofName? (Level.capitals asked)).isSome ∧
        Exposed config := by
  have hempty : (Level.ofName? (Level.capitals [])).isSome = false := by decide
  rcases level with _ | (_ | ⟨c, rest⟩)
  · simp [adjust]
  · simp [adjust, hempty]
  · simp [adjust, endsUncovered_override_iff]

theorem endsUncovered_setupFrom_iff (hcovered : Covers apply) (location : Location)
    (loggers : Loggers) :
    EndsUncovered (setupFrom apply location found request.level loggers) ↔
      Misread found ∨ request.MeetsExposed found := by
  rw [setupFrom, Request.MeetsExposed]
  cases hconfig : location.config found with
  | error fault =>
    rw [← @Location.escapes_config_iff location, hconfig, escapes_error, endsUncovered_some_iff]
    refine (or_iff_left ?_).symm
    rintro ⟨_, config, -, -, hfound, hexposed⟩
    cases (Location.config_eq_ok_iff.mpr ⟨hfound, hexposed.isMap_root⟩).symm.trans hconfig
  | ok config =>
    obtain ⟨rfl, -⟩ := Location.config_eq_ok_iff.mp hconfig
    rw [or_iff_right (not_misread_ok config)]
    have hmeets : (∃ asked other, request.level = some asked ∧
        (Level.ofName? (Level.capitals asked)).isSome = true ∧
          (Except.ok config : Except Yaml.FileFault Graph) = .ok other ∧ Exposed other) ↔
        EndsUncovered (adjust request.level config) := by
      simp [endsUncovered_adjust_iff]
    rw [hmeets]
    rcases hadjusted : adjust request.level config with ⟨next, _ | fault⟩
    · refine iff_of_false ?_ (not_endsUncovered_none next)
      simp only [hadjusted]
      rintro ⟨fault, hfault, huncovered⟩
      rw [hcovered next loggers fault hfault] at huncovered
      cases huncovered
    · simp [hadjusted]

/-- Where the configuration does not get as far as the loggers, they are as they were. -/
theorem setupFrom_of_uncovered (hcovered : Covers apply)
    (h : setupFrom apply location found request.level loggers = (next, some fault))
    (huncovered : fault.isCovered = false) : next = loggers := by
  unfold setupFrom at h
  split at h
  · exact (Prod.mk.inj h).1.symm
  · split at h
    · exact (Prod.mk.inj h).1.symm
    · rename_i adjusted _
      have hfault := hcovered adjusted loggers fault (by rw [h])
      rw [huncovered] at hfault
      cases hfault

/-- The name of an entry that is no level cannot override levels either. -/
theorem setupFrom_of_namesEntry (h : request.NamesEntry) (apply : Apply) (location : Location)
    (found : Except Yaml.FileFault Graph) (loggers : Loggers) :
    ∃ fault, setupFrom apply location found request.level loggers = (loggers, some fault) ∧
      (fault.isCovered = false ↔ Misread found) := by
  rw [Request.NamesEntry] at h
  rw [setupFrom]
  cases hconfig : location.config found with
  | error fault =>
    refine ⟨fault, rfl, ?_⟩
    rw [← @Location.escapes_config_iff location, hconfig, escapes_error]
  | ok config =>
    obtain ⟨rfl, -⟩ := Location.config_eq_ok_iff.mp hconfig
    rcases hlevel : request.level with _ | (_ | ⟨c, rest⟩)
    · rw [hlevel] at h
      exact absurd h (by decide)
    · rw [hlevel] at h
      exact absurd h (by decide)
    · rw [hlevel, fallbackName] at h
      have hname : Level.ofName? (Level.capitals (c :: rest)) = none := by
        rcases h with h | h <;> rw [h] <;> decide
      refine ⟨.invalidLevel (c :: rest), ?_, iff_of_false Bool.noConfusion (not_misread_ok config)⟩
      simp only [adjust, override_of_ofName?_none hname]

/-! ## The set-up -/

theorem setupWith_of_plain (h : request.plain = true) (hname : ¬ request.NamesEntry) :
    setupWith apply location found request loggers =
      ⟨loggers.withPlain request.plainLevel, .ok []⟩ := by
  rw [setupWith, if_pos h, fallBack, usePlain_of_not_namesEntry hname]

theorem setupWith_of_applied (h : request.plain = false)
    (hfrom : setupFrom apply location found request.level loggers = (next, none)) :
    setupWith apply location found request loggers =
      ⟨next, .ok (next.emit (configuredReport location))⟩ := by
  simp [setupWith, h, hfrom]

theorem setupWith_of_fault (h : request.plain = false) (hname : ¬ request.NamesEntry)
    (hfrom : setupFrom apply location found request.level loggers = (next, some fault))
    (hcovered : fault.isCovered = true) :
    setupWith apply location found request loggers =
      ⟨next.withPlain request.plainLevel, .ok ((next.withPlain request.plainLevel).emit
        (fallbackReport fault.message (fallbackName request.level)))⟩ := by
  simp [setupWith, h, hfrom, hcovered, fallBack, usePlain_of_not_namesEntry hname]

theorem setupWith_of_uncovered (h : request.plain = false)
    (hfrom : setupFrom apply location found request.level loggers = (next, some fault))
    (huncovered : fault.isCovered = false) :
    setupWith apply location found request loggers = ⟨next, .error (.uncovered fault)⟩ := by
  simp [setupWith, h, hfrom, huncovered]

theorem setupWith_of_namesEntry (h : request.NamesEntry)
    (hread : request.plain = true ∨ ¬ Misread found) (apply : Apply) (location : Location)
    (loggers : Loggers) :
    ∃ fault, setupWith apply location found request loggers =
      ⟨loggers.withPlain loggers.root.level, .error (.fallback fault)⟩ := by
  obtain ⟨reason, hfrom, hreason⟩ := setupFrom_of_namesEntry h apply location found loggers
  obtain ⟨fault, hplain⟩ := usePlain_of_namesEntry h loggers
  refine ⟨fault, ?_⟩
  cases hasked : request.plain with
  | true => simp [setupWith, hasked, fallBack, hplain]
  | false =>
    have hmisread : ¬ Misread found := hread.resolve_left (hasked ▸ Bool.noConfusion)
    have hcovered : reason.isCovered = true :=
      eq_true_of_ne_false fun huncovered => hmisread (hreason.mp huncovered)
    simp [setupWith, hasked, hfrom, hcovered, fallBack, hplain]

/-- How a set-up ends, what it writes and how it leaves the loggers. Only one that ends normally has
changed more than the handlers of the root. -/
inductive Ends (apply : Apply) (location : Location) (found : Except Yaml.FileFault Graph)
    (request : Request) (loggers : Loggers) : Attempt → Prop
  | plain (h : request.plain = true) (hname : ¬ request.NamesEntry) :
    Ends apply location found request loggers ⟨loggers.withPlain request.plainLevel, .ok []⟩
  | applied {next : Loggers} (h : request.plain = false) (hname : ¬ request.NamesEntry)
    (hfrom : setupFrom apply location found request.level loggers = (next, none)) :
    Ends apply location found request loggers
      ⟨next, .ok (next.emit (configuredReport location))⟩
  | fallback {next : Loggers} {fault : Fault} (h : request.plain = false)
    (hname : ¬ request.NamesEntry)
    (hfrom : setupFrom apply location found request.level loggers = (next, some fault))
    (hcovered : fault.isCovered = true) :
    Ends apply location found request loggers
      ⟨next.withPlain request.plainLevel, .ok ((next.withPlain request.plainLevel).emit
        (fallbackReport fault.message (fallbackName request.level)))⟩
  | unplaced {fault : FallbackFault} (hname : request.NamesEntry)
    (hread : request.plain = true ∨ ¬ Misread found) :
    Ends apply location found request loggers
      ⟨loggers.withPlain loggers.root.level, .error (.fallback fault)⟩
  | uncovered {fault : Fault} (h : request.plain = false)
    (hcause : Misread found ∨ request.MeetsExposed found) (huncovered : fault.isCovered = false) :
    Ends apply location found request loggers ⟨loggers, .error (.uncovered fault)⟩

theorem ends_setupWith (hcovered : Covers apply) (location : Location)
    (found : Except Yaml.FileFault Graph) (request : Request) (loggers : Loggers) :
    Ends apply location found request loggers
      (setupWith apply location found request loggers) := by
  by_cases hname : request.NamesEntry
  · by_cases hread : request.plain = true ∨ ¬ Misread found
    · obtain ⟨fault, h⟩ := setupWith_of_namesEntry hname hread apply location loggers
      rw [h]
      exact .unplaced hname hread
    · obtain ⟨hasked, hread⟩ := not_or.mp hread
      have hplain : request.plain = false := Bool.eq_false_iff.mpr hasked
      have hmisread : Misread found := Classical.not_not.mp hread
      obtain ⟨fault, hfrom, hfault⟩ := setupFrom_of_namesEntry hname apply location found loggers
      have huncovered : fault.isCovered = false := hfault.mpr hmisread
      rw [setupWith_of_uncovered hplain hfrom huncovered]
      exact .uncovered hplain (Or.inl hmisread) huncovered
  cases hplain : request.plain with
  | true =>
    rw [setupWith_of_plain hplain hname]
    exact .plain hplain hname
  | false =>
    rcases hfrom : setupFrom apply location found request.level loggers with ⟨next, _ | fault⟩
    · rw [setupWith_of_applied hplain hfrom]
      exact .applied hplain hname hfrom
    · cases hfault : fault.isCovered with
      | true =>
        rw [setupWith_of_fault hplain hname hfrom hfault]
        exact .fallback hplain hname hfrom hfault
      | false =>
        rw [setupWith_of_uncovered hplain hfrom hfault,
          setupFrom_of_uncovered hcovered hfrom hfault]
        refine .uncovered hplain ?_ hfault
        exact (endsUncovered_setupFrom_iff hcovered location loggers).mp
          ⟨fault, by rw [hfrom], hfault⟩

theorem exists_outcome_iff {attempt : Attempt} :
    (∃ outcome, attempt.outcome = .ok outcome) ↔ ∃ text, attempt.written = .ok text := by
  cases h : attempt.written <;> simp [Attempt.outcome, h, Except.map]

/-- A set-up ends normally unless the plain handler cannot take its level, a scalar of the file is
misread or the override meets a configuration that is exposed to it. -/
theorem setup_ends_normally_iff (hcovered : Covers apply) (location : Location)
    (found : Except Yaml.FileFault Graph) (request : Request) (loggers : Loggers) :
    ((∃ outcome, (setupWith apply location found request loggers).outcome = .ok outcome) ↔
      ¬ request.NamesEntry ∧
        ¬ (request.plain = false ∧ (Misread found ∨ request.MeetsExposed found))) ∧
    Ends apply location found request loggers
      (setupWith apply location found request loggers) := by
  have hends := ends_setupWith hcovered location found request loggers
  refine ⟨?_, hends⟩
  rw [exists_outcome_iff]
  have hexposed : EndsUncovered (setupFrom apply location found request.level loggers) ↔
      Misread found ∨ request.MeetsExposed found :=
    endsUncovered_setupFrom_iff hcovered location loggers
  generalize setupWith apply location found request loggers = attempt at hends
  cases hends with
  | plain h hname =>
    refine iff_of_true ⟨_, rfl⟩ ⟨hname, fun hplain => ?_⟩
    rw [h] at hplain
    cases hplain.1
  | applied h hname hfrom =>
    refine iff_of_true ⟨_, rfl⟩ ⟨hname, fun hmeets => ?_⟩
    rw [hfrom, iff_false_intro (not_endsUncovered_none _)] at hexposed
    exact hexposed.mpr hmeets.2
  | fallback h hname hfrom hfault =>
    refine iff_of_true ⟨_, rfl⟩ ⟨hname, fun hmeets => ?_⟩
    rw [hfrom, endsUncovered_some_iff, hfault] at hexposed
    cases hexposed.mpr hmeets.2
  | unplaced hname => exact iff_of_false nofun fun h => h.1 hname
  | uncovered h hcause huncovered => exact iff_of_false nofun fun hnot => hnot.2 ⟨h, hcause⟩

/-- A configuration whose one handler has a class that does not exist. -/
def classless : Graph :=
  ⟨[.map [(.ofText "version", .atom (.scalar (.int 1))), (.ofText "handlers", .cell 1)],
    .map [(.ofText "console", .cell 2)],
    .map [(.ofText "class", .ofText "no.such.Handler")]], .cell 0⟩

theorem setup_ends_normally_iff_of_classless :
    Covers configure ∧
    ∃ outcome, (setupWith configure (.file (Path.ofText "log.yaml")) (.ok classless)
        ⟨none, some "debug", none, false⟩ .initial).outcome = .ok outcome ∧
      outcome.loggers.root.level = .debug ∧ outcome.loggers.root.handlers = [plainHandler] := by
  obtain ⟨hends, hattempt⟩ := setup_ends_normally_iff configure_covers
    (.file (Path.ofText "log.yaml")) (.ok classless) ⟨none, some "debug", none, false⟩ .initial
  have hname : ¬ Request.NamesEntry ⟨none, some "debug", none, false⟩ := by
    rw [Request.NamesEntry]
    decide
  have hmeets : ¬ Request.MeetsExposed ⟨none, some "debug", none, false⟩ (.ok classless) := by
    rintro ⟨_, _, -, -, hfound, ⟨loggers, hloggers, -⟩ | ⟨-, -, handlers, hhandlers, hmap⟩⟩
    · cases hfound
      cases hloggers
    · cases hfound
      cases hhandlers
      exact hmap ⟨_, rfl⟩
  have hcause : ¬ (Misread (.ok classless) ∨
      Request.MeetsExposed ⟨none, some "debug", none, false⟩ (.ok classless)) :=
    not_or.mpr ⟨not_misread_ok classless, hmeets⟩
  obtain ⟨outcome, houtcome⟩ := hends.mpr ⟨hname, fun h => hcause h.2⟩
  refine ⟨configure_covers, outcome, houtcome, ?_⟩
  have hfault : (setupFrom configure (.file (Path.ofText "log.yaml")) (.ok classless)
      (some "debug") .initial).2.isSome = true := by decide +kernel
  generalize setupWith configure (.file (Path.ofText "log.yaml")) (.ok classless)
    ⟨none, some "debug", none, false⟩ .initial = attempt at hattempt houtcome
  cases hattempt with
  | plain h _ => cases h
  | applied _ _ hfrom =>
    rw [hfrom] at hfault
    cases hfault
  | fallback _ _ _ _ =>
    cases houtcome
    exact ⟨rfl, rfl⟩
  | unplaced h => exact absurd h hname
  | uncovered _ h _ => exact absurd h hcause

/-- A file with a configuration that has nothing behind the key for the handlers. -/
def handlerless : Store :=
  Store.empty.add ["log.yaml"] (.file (Utf8.encode "version: 1\nhandlers:\n"))

theorem not_forall_setup_ends_normally :
    ¬ ∀ apply : Apply, Covers apply → ∀ store fromProcess request loggers,
      ∃ outcome, (setupWith apply (request.location fromProcess)
        ((request.location fromProcess).read store) request loggers).outcome = .ok outcome := by
  intro h
  obtain ⟨outcome, houtcome⟩ := h configure configure_covers handlerless none
    ⟨some (Path.ofText "log.yaml"), some "DEBUG", none, false⟩ .initial
  have hnone : (setup handlerless none ⟨some (Path.ofText "log.yaml"), some "DEBUG", none, false⟩
      .initial).outcome.toOption.isNone = true := by decide +kernel
  rw [setup, houtcome] at hnone
  cases hnone

end ClientFacade.Log
