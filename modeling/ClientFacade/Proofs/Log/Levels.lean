import ClientFacade.Log.Configure
import ClientFacade.Proofs.Log.Override
import ClientFacade.Proofs.Outcome
import Mathlib.Data.List.Basic

/-!
# What the override of levels changes

In a configuration of the usual shape every logger and the root come out at the level that is asked
for, whatever they had. A handler comes out at the lower one of its level and that one, unless it
shares its cell with a logger or the root: then it comes out at the level that is asked for, which
may be higher. No handler stops a record that has been asked for. All other cells stay as they are,
and all cells do if the name is no level.
-/

namespace ClientFacade.Log

variable {asked name key : Text} {level old : Level} {config : Graph} {heap base next : Heap}
  {id : Nat} {ref : Ref} {entries before rest : Entries}

/-! ## Shapes -/

/-- Whether a cell is the value of an entry in a part of a configuration. -/
def EntryOf (key : Text) (config : Graph) (id : Nat) : Prop :=
  ∃ part entries, config.get? key = some part ∧ config.heap.entries? part = some entries ∧
    ∃ entry ∈ entries, entry.2 = .cell id

def GetsLevel (config : Graph) (id : Nat) : Prop :=
  EntryOf "loggers" config id ∨ config.get? "root" = some (.cell id)

def HasLevel (heap : Heap) (id : Nat) (level : Level) : Prop :=
  ∃ name, heap.get? "level" (.cell id) = some (.ofText name) ∧ Level.ofName? name = some level

def IsAbove (level : Level) (heap : Heap) (id : Nat) : Prop :=
  ∃ old, HasLevel heap id old ∧ level.severity < old.severity

/-- A map whose level, if it has one, is a name of one. -/
def IsHandler (heap : Heap) (ref : Ref) : Prop :=
  heap.IsMap ref ∧ ∀ value, heap.get? "level" ref = some value →
    ∃ name level, value = .ofText name ∧ Level.ofName? name = some level

/-- The usual shape of a configuration: loggers and handlers are maps of maps, the root is a map,
and the levels of handlers go by their names. None of the three needs to be there. -/
structure Regular (config : Graph) : Prop where
  loggers : ∀ loggers, config.get? "loggers" = some loggers →
    ∃ entries, config.heap.entries? loggers = some entries ∧
      ∀ entry ∈ entries, config.heap.IsMap entry.2
  root : ∀ root, config.get? "root" = some root → config.heap.IsMap root
  handlers : ∀ handlers, config.get? "handlers" = some handlers →
    ∃ entries, config.heap.entries? handlers = some entries ∧
      ∀ entry ∈ entries, IsHandler config.heap entry.2

/-- Whether no level is put where another entry is to be gone over: the loggers can be set even if
their map is one of them, and where the map of handlers is a logger or the root, no handler is
called `level`. -/
structure Untangled (config : Graph) : Prop where
  loggers : ∀ loggers, config.get? "loggers" = some loggers → AcceptsLevels config.heap loggers
  handlers : ∀ id entries, config.get? "handlers" = some (.cell id) →
    config.heap.cell id = .map entries → GetsLevel config id → ¬ entries.Has "level"

theorem severity_nonneg (h : Level.ofName? name = some level) : 0 ≤ level.severity := by
  have hnames : ∀ entry ∈ Level.names, 0 ≤ entry.2.severity := by decide
  obtain ⟨before, after, hsplit, -⟩ := List.lookup_eq_some_iff.mp h
  apply hnames (name, level)
  rw [hsplit]
  exact List.mem_append_right before List.mem_cons_self

theorem levelIn_of_hasLevel (h : HasLevel heap id level) :
    levelIn heap (.cell id) = .ok (some level) := by
  obtain ⟨name, hget, hname⟩ := h
  rw [levelIn, hget]
  simp only [Ref.ofText, Ref.text?, Atom.ofText, Atom.text?, Level.registered, hname]

theorem levelIn_of_get?_none (h : heap.get? "level" ref = none) : levelIn heap ref = .ok none := by
  rw [levelIn, h]

theorem HasLevel.unique {other : Level} (h : HasLevel heap id level)
    (hother : HasLevel heap id other) : level = other := by
  have heq := (levelIn_of_hasLevel h).symm.trans (levelIn_of_hasLevel hother)
  exact Option.some.inj (Except.ok.inj heq)

theorem hasLevel_congr (h : next.get? "level" (.cell id) = heap.get? "level" (.cell id)) :
    HasLevel next id level ↔ HasLevel heap id level := by
  simp only [HasLevel, h]

/-! ## Lowering the levels of handlers -/

theorem lowerLevel_of_get?_none (h : heap.get? "level" ref = none) (name : Text) (level : Level) :
    lowerLevel name level ref heap = (heap, none) := by
  rw [lowerLevel, levelIn_of_get?_none h]

theorem lowerLevel_of_hasLevel (h : HasLevel heap id old) (name : Text) (level : Level) :
    lowerLevel name level (.cell id) heap =
      if level.severity < old.severity then setLevel name (.cell id) heap else (heap, none) := by
  rw [lowerLevel, levelIn_of_hasLevel h]

/-- What holds before a walk, and is kept by each step of it for one entry more, holds behind it. -/
theorem exists_along_of_invariant {step : Ref → Edit} {I : Entries → Heap → Prop}
    (hcell : ∀ {before heap}, I before heap → heap.cell id = .map entries)
    (hstep : ∀ {before entry rest heap}, entries = before ++ entry :: rest → I before heap →
      ∃ next, step entry.2 heap = (next, none) ∧ I (before ++ [entry]) next)
    (h : I [] heap) : ∃ next, Edit.along step id heap = (next, none) ∧ I entries next := by
  rw [Edit.along, Heap.values_of_cell (hcell h), List.length_map]
  suffices hlast : ∀ (rest before : Entries) (heap : Heap), entries = before ++ rest →
      I before heap → ∃ next,
        Edit.alongLast step id entries.length rest.length heap = (next, none) ∧ I entries next from
    hlast entries [] heap rfl h
  intro rest
  induction rest with
  | nil =>
    intro before heap hsplit hbefore
    rw [List.append_nil] at hsplit
    subst hsplit
    exact ⟨heap, rfl, hbefore⟩
  | cons entry rest ih =>
    intro before heap hsplit hbefore
    have hmap := hcell hbefore
    rw [hsplit] at hmap
    obtain ⟨next, hnext, hafter⟩ := hstep hsplit hbefore
    rw [List.length_cons, alongLast_succ hmap entries.length (congrArg List.length hsplit), hnext]
    dsimp only
    rw [if_pos (by rw [Heap.values_of_cell (hcell hafter), List.length_map])]
    exact ih (before ++ [entry]) next (hsplit.trans (List.append_cons before entry rest)) hafter

/-- Whether a cell is that of a handler among the entries with a level above the one asked for. -/
def Lowers (level : Level) (heap : Heap) (entries : Entries) (id : Nat) : Prop :=
  ∃ entry ∈ entries, entry.2 = .cell id ∧ IsAbove level heap id

theorem lowers_append_iff {entry : Atom × Ref} : Lowers level heap (before ++ [entry]) id ↔
    Lowers level heap before id ∨ entry.2 = .cell id ∧ IsAbove level heap id := by
  simp only [Lowers, List.mem_append, List.mem_singleton, or_and_right, exists_or, exists_eq_left]

theorem exists_lowerLevel (hlevel : Level.ofName? name = some level)
    (h : LevelsSet name (Lowers level base before) base heap) (key : Atom) {target : Ref}
    (htarget : (∃ value, target = .atom value) ∨ IsHandler base target) :
    ∃ next, lowerLevel name level target heap = (next, none) ∧
      LevelsSet name (Lowers level base (before ++ [(key, target)])) base next := by
  have hkept (hlowered : ∀ id, target = .cell id → IsAbove level base id →
      Lowers level base before id) :
      LevelsSet name (Lowers level base (before ++ [(key, target)])) base heap := by
    refine h.congr fun id => ?_
    rw [lowers_append_iff]
    exact ⟨Or.inl, fun hid => hid.elim (fun h => h) fun hid => hlowered id hid.1 hid.2⟩
  cases target with
  | atom value => exact ⟨heap, lowerLevel_of_get?_none rfl name level, hkept nofun⟩
  | cell id =>
    obtain ⟨hmap, hnamed⟩ := htarget.resolve_left nofun
    by_cases habove : IsAbove level base id
    · by_cases hbefore : Lowers level base before id
      · -- The same handler has stood at another key before, and so its level is set.
        have hnow : HasLevel heap id level := ⟨name, h.get?_level hbefore hmap, hlevel⟩
        refine ⟨heap, ?_, hkept ?_⟩
        · rw [lowerLevel_of_hasLevel hnow, if_neg (Int.lt_irrefl _)]
        · rintro _ ⟨⟩ -
          exact hbefore
      · obtain ⟨old, hold, hlower⟩ := habove
        have hnow : HasLevel heap id old :=
          (hasLevel_congr (h.get?_of_not_touched hbefore "level")).mpr hold
        obtain ⟨next, hnext, hset⟩ := exists_setLevel (h.isMap_iff.mpr hmap) name
        refine ⟨next, ?_, (h.trans hset).congr fun other => ?_⟩
        · rw [lowerLevel_of_hasLevel hnow, if_pos hlower, hnext]
        · rw [lowers_append_iff]
          apply or_congr_right
          refine ⟨fun heq => ⟨heq, ?_⟩, fun hother => hother.1⟩
          obtain rfl := Ref.cell.inj heq
          exact ⟨old, hold, hlower⟩
    · have hbefore : ¬ Lowers level base before id := by
        rintro ⟨_, -, -, hlowers⟩
        exact habove hlowers
      have hsame := h.get?_of_not_touched hbefore "level"
      refine ⟨heap, ?_, hkept ?_⟩
      · cases hget : base.get? "level" (.cell id) with
        | none => exact lowerLevel_of_get?_none (hsame.trans hget) name level
        | some value =>
          obtain ⟨oldName, old, rfl, holdName⟩ := hnamed value hget
          have hold : HasLevel base id old := ⟨oldName, hget, holdName⟩
          rw [lowerLevel_of_hasLevel ((hasLevel_congr hsame).mpr hold),
            if_neg fun hlower => habove ⟨old, hold, hlower⟩]
      · rintro _ ⟨⟩ hlowers
        exact absurd hlowers habove

theorem exists_lowerLevels (hlevel : Level.ofName? name = some level)
    (hcell : base.cell id = .map entries) (hself : ¬ IsAbove level base id)
    (hentries : ∀ entry ∈ entries, (∃ value, entry.2 = .atom value) ∨ IsHandler base entry.2) :
    ∃ next, lowerLevels name level (.cell id) base = (next, none) ∧
      LevelsSet name (Lowers level base entries) base next := by
  have halong : lowerLevels name level (.cell id) base =
      Edit.along (lowerLevel name level) id base := by
    simp only [lowerLevels, hcell]
  rw [halong]
  apply exists_along_of_invariant
    (I := fun before heap => LevelsSet name (Lowers level base before) base heap)
  · intro before heap h
    rw [h.kept id (fun hlowers => hself hlowers.choose_spec.2.2), hcell]
  · intro before entry rest heap hsplit h
    have hentry := hentries entry (by rw [hsplit]; exact List.mem_append_right _ List.mem_cons_self)
    exact exists_lowerLevel hlevel h entry.1 hentry
  · refine (LevelsSet.refl name base).congr fun other => ?_
    simp [Lowers]

/-! ## The parts of a configuration -/

theorem entryOf_iff {part : Ref} (hpart : config.get? key = some part)
    (hentries : config.heap.entries? part = some entries) :
    EntryOf key config id ↔ ∃ entry ∈ entries, entry.2 = .cell id := by
  simp [EntryOf, hpart, hentries]

theorem not_entryOf_of_none (h : config.get? key = none) : ¬ EntryOf key config id := by
  rintro ⟨part, _, hpart, -⟩
  rw [h] at hpart
  cases hpart

theorem Regular.exists_loggers_set (h : Regular config) (huntangled : Untangled config)
    (name : Text) :
    ∃ next, Edit.part "loggers" config.root (setLevels name) config.heap = (next, none) ∧
      LevelsSet name (EntryOf "loggers" config) config.heap next := by
  cases hget : config.get? "loggers" with
  | none =>
    exact ⟨config.heap, part_of_none hget _, (LevelsSet.refl name config.heap).congr fun id =>
      iff_of_false not_false (not_entryOf_of_none hget)⟩
  | some loggers =>
    obtain ⟨entries, hentries, -⟩ := h.loggers loggers hget
    have hiff (id : Nat) := @entryOf_iff _ _ id _ _ hget hentries
    have haccepts := huntangled.loggers loggers hget
    obtain ⟨id, _, rfl, -⟩ := Heap.IsMap.exists_cell ⟨entries, hentries⟩
    rw [Heap.entries?_cell_eq_some_iff] at hentries
    simp only [AcceptsLevels, hentries] at haccepts
    obtain ⟨next, hnext, hset⟩ := exists_along name hentries haccepts
    refine ⟨next, ?_, hset.congr fun other => (hiff other).symm⟩
    rw [part_of_some hget, setLevels_of_map hentries, hnext]

theorem Regular.exists_levels_set (h : Regular config) (huntangled : Untangled config)
    (name : Text) (level : Level) :
    ∃ next, LevelsSet name (GetsLevel config) config.heap next ∧
      overrideAll name level config.root config.heap =
        Edit.part "handlers" config.root (lowerLevels name level) next := by
  obtain ⟨first, hfirst, hloggers⟩ := h.exists_loggers_set huntangled name
  have hget := hloggers.get?_of_ne (show ("root" : Text) ≠ "level" by decide) config.root
  obtain ⟨second, hsecond, hroot⟩ := exists_root_set name fun root hfound =>
    hloggers.isMap_iff.mpr (h.root root (hget.symm.trans hfound))
  refine ⟨second, ?_, ?_⟩
  · rw [hget] at hroot
    exact hloggers.trans hroot
  · simp only [overrideAll, Edit.andThen, hfirst, hsecond]

theorem IsHandler.of_levelsSet {touched : Nat → Prop} (hlevel : Level.ofName? name = some level)
    (hset : LevelsSet name touched heap next) (h : IsHandler heap ref) : IsHandler next ref := by
  refine ⟨hset.isMap_iff.mpr h.1, fun value hvalue => ?_⟩
  obtain ⟨id, _, rfl, -⟩ := h.1.exists_cell
  by_cases hid : touched id
  · rw [hset.get?_level hid h.1] at hvalue
    exact ⟨name, level, (Option.some.inj hvalue).symm, hlevel⟩
  · rw [hset.get?_of_not_touched hid] at hvalue
    exact h.2 value hvalue

theorem isAbove_congr (h : next.get? "level" (.cell id) = heap.get? "level" (.cell id)) :
    IsAbove level next id ↔ IsAbove level heap id := by
  simp only [IsAbove, hasLevel_congr h]

theorem not_isAbove_of_hasLevel (h : HasLevel heap id level) : ¬ IsAbove level heap id := by
  rintro ⟨old, hold, hlower⟩
  rw [h.unique hold] at hlower
  exact absurd hlower (Int.lt_irrefl _)

/-- A map of maps has no level of its own. -/
theorem not_hasLevel_of_isMap (hcell : heap.cell id = .map entries)
    (hmap : ∀ entry ∈ entries, heap.IsMap entry.2) : ¬ HasLevel heap id old := by
  rintro ⟨name, hget, -⟩
  rw [Heap.get?, Heap.entries?_cell_eq_some_iff.mpr hcell, Option.bind_some] at hget
  obtain ⟨entry, hentry, hvalue⟩ := Entries.exists_mem_of_get? hget
  have hatom := hmap entry hentry
  rw [hvalue] at hatom
  exact Heap.not_isMap_atom _ _ hatom

/-- The cells that get the level: those of the loggers and the root, and those of the handlers above
it. -/
def Changes (level : Level) (config : Graph) (id : Nat) : Prop :=
  GetsLevel config id ∨ EntryOf "handlers" config id ∧ IsAbove level config.heap id

theorem Regular.exists_handlers_lowered {middle : Heap}
    (hlevel : Level.ofName? name = some level) (h : Regular config) (huntangled : Untangled config)
    (hset : LevelsSet name (GetsLevel config) config.heap middle) :
    ∃ next, Edit.part "handlers" config.root (lowerLevels name level) middle = (next, none) ∧
      LevelsSet name (Changes level config) config.heap next := by
  have hsame : middle.get? "handlers" config.root = config.get? "handlers" :=
    hset.get?_of_ne (by decide) config.root
  cases hget : config.get? "handlers" with
  | none =>
    refine ⟨middle, part_of_none (hsame.trans hget) _, hset.congr fun id => ?_⟩
    exact ⟨Or.inl, fun hid => hid.resolve_right fun hentry => not_entryOf_of_none hget hentry.1⟩
  | some handlers =>
    obtain ⟨entries, hentries, hhandlers⟩ := h.handlers handlers hget
    have hiff (id : Nat) := @entryOf_iff _ _ id _ _ hget hentries
    obtain ⟨place, _, rfl, -⟩ := Heap.IsMap.exists_cell ⟨entries, hentries⟩
    rw [Heap.entries?_cell_eq_some_iff] at hentries
    have hmaps : ∀ entry ∈ entries, config.heap.IsMap entry.2 := fun entry hentry =>
      (hhandlers entry hentry).1
    -- Where the map of handlers has got a level, it is a text behind the handlers.
    obtain ⟨more, hcell, hmore, habove⟩ : ∃ more, middle.cell place = .map (entries ++ more) ∧
        (∀ entry ∈ more, ∃ value, entry.2 = .atom value) ∧ ¬ IsAbove level middle place := by
      by_cases hplace : GetsLevel config place
      · have hmap := Heap.isMap_cell_iff.mpr ⟨entries, hentries⟩
        refine ⟨[(.ofText "level", .ofText name)], ?_, ?_, ?_⟩
        · rw [hset.set place hplace, hentries, Cell.withLevel,
            Entries.insert_of_not_has (huntangled.handlers place entries hget hentries hplace)]
        · exact List.forall_mem_singleton.mpr ⟨.ofText name, rfl⟩
        · exact not_isAbove_of_hasLevel ⟨name, hset.get?_level hplace hmap, hlevel⟩
      · refine ⟨[], ?_, fun _ hentry => absurd hentry List.not_mem_nil, ?_⟩
        · rw [hset.kept place hplace, hentries, List.append_nil]
        · rw [isAbove_congr (hset.get?_of_not_touched hplace "level")]
          rintro ⟨old, hold, -⟩
          exact not_hasLevel_of_isMap hentries hmaps hold
    obtain ⟨next, hnext, hlowered⟩ := exists_lowerLevels hlevel hcell habove fun entry hentry =>
      (List.mem_append.mp hentry).symm.imp (hmore entry) fun hold =>
        (hhandlers entry hold).of_levelsSet hlevel hset
    refine ⟨next, (part_of_some (hsame.trans hget) _).trans hnext,
      (hset.trans hlowered).congr fun id => ?_⟩
    rw [Changes]
    by_cases hid : GetsLevel config id
    · exact iff_of_true (Or.inl hid) (Or.inl hid)
    · rw [or_iff_right hid, or_iff_right hid, Lowers, hiff,
        isAbove_congr (hset.get?_of_not_touched hid "level")]
      constructor
      · rintro ⟨entry, hentry, hvalue, hlowers⟩
        refine ⟨⟨entry, (List.mem_append.mp hentry).resolve_right fun hmem => ?_, hvalue⟩, hlowers⟩
        obtain ⟨value, hatom⟩ := hmore entry hmem
        cases hatom.symm.trans hvalue
      · rintro ⟨⟨entry, hentry, hvalue⟩, hlowers⟩
        exact ⟨entry, List.mem_append_left more hentry, hvalue, hlowers⟩

/-- What the override makes of a regular configuration. -/
structure Overridden (name : Text) (level : Level) (config : Graph) (next : Heap) : Prop where
  cells : LevelsSet name (Changes level config) config.heap next
  loggers : ∀ id, GetsLevel config id → next.get? "level" (.cell id) = some (.ofText name)
  handlers : ∀ id old, EntryOf "handlers" config id → HasLevel config.heap id old →
    ¬ GetsLevel config id →
      ∃ new, HasLevel next id new ∧ new.severity = min old.severity level.severity

theorem Regular.isMap_of_getsLevel (h : Regular config) (hid : GetsLevel config id) :
    config.heap.IsMap (.cell id) := by
  rcases hid with ⟨loggers, entries, hget, hentries, entry, hentry, hvalue⟩ | hroot
  · obtain ⟨others, hothers, hmap⟩ := h.loggers loggers hget
    obtain rfl := Option.some.inj (hothers.symm.trans hentries)
    exact hvalue ▸ hmap entry hentry
  · exact h.root _ hroot

theorem Regular.isHandler_of_entryOf (h : Regular config) (hid : EntryOf "handlers" config id) :
    IsHandler config.heap (.cell id) := by
  obtain ⟨handlers, entries, hget, hentries, entry, hentry, hvalue⟩ := hid
  obtain ⟨others, hothers, hhandlers⟩ := h.handlers handlers hget
  obtain rfl := Option.some.inj (hothers.symm.trans hentries)
  exact hvalue ▸ hhandlers entry hentry

theorem Regular.overridden (hlevel : Level.ofName? name = some level) (h : Regular config)
    (hset : LevelsSet name (Changes level config) config.heap next) :
    Overridden name level config next := by
  refine ⟨hset, fun id hid => hset.get?_level (Or.inl hid) (h.isMap_of_getsLevel hid), ?_⟩
  intro id old hentry hold hgets
  by_cases hlower : level.severity < old.severity
  · have hid : Changes level config id := Or.inr ⟨hentry, old, hold, hlower⟩
    exact ⟨level, ⟨name, hset.get?_level hid (h.isHandler_of_entryOf hentry).1, hlevel⟩, by omega⟩
  · have hid : ¬ Changes level config id := by
      rintro (hid | ⟨-, other, hother, habove⟩)
      · exact hgets hid
      · rw [← hold.unique hother] at habove
        exact hlower habove
    exact ⟨old, (hasLevel_congr (hset.get?_of_not_touched hid "level")).mpr hold, by omega⟩

theorem exists_override (hlevel : Level.ofName? (Level.capitals asked) = some level)
    (h : Regular config) (huntangled : Untangled config) :
    ∃ next, override asked config = (⟨next, config.root⟩, none) ∧
      Overridden (Level.capitals asked) level config next := by
  obtain ⟨middle, hset, hall⟩ := h.exists_levels_set huntangled (Level.capitals asked) level
  obtain ⟨next, hnext, hchanges⟩ := h.exists_handlers_lowered hlevel huntangled hset
  refine ⟨next, ?_, h.overridden hlevel hchanges⟩
  simp only [override, hlevel, hall, hnext]

/-- Loggers that cannot all be set end the override. They can run off only as a map that grows. -/
theorem exists_override_fault (hlevel : Level.ofName? (Level.capitals asked) = some level)
    (h : Regular config) {loggers : Ref} (hget : config.get? "loggers" = some loggers)
    (hstuck : ¬ AcceptsLevels config.heap loggers) :
    ∃ fault, (override asked config).2 = some fault ∧
      (RunsOff config.heap loggers → fault = .grown) := by
  obtain ⟨entries, hentries, -⟩ := h.loggers loggers hget
  obtain ⟨id, _, rfl, -⟩ := Heap.IsMap.exists_cell ⟨entries, hentries⟩
  rw [Heap.entries?_cell_eq_some_iff] at hentries
  have hpart : Edit.part "loggers" config.root (setLevels (Level.capitals asked)) config.heap =
      Edit.along (setLevel (Level.capitals asked)) id config.heap :=
    (part_of_some hget _).trans (setLevels_of_map hentries _)
  have hwalked := walked_along (Level.capitals asked) hentries
  have hall : (override asked config).2 =
      (overrideAll (Level.capitals asked) level config.root config.heap).2 := by
    simp only [override, hlevel]
  rw [hall, overrideAll, Edit.andThen, hpart]
  simp only [AcceptsLevels, RunsOff, hentries] at hstuck ⊢
  generalize Edit.along (setLevel (Level.capitals asked)) id config.heap = change at hwalked
  cases hwalked with
  | done hsettable _ _ =>
    exact absurd ((settable_congr (iff_false_intro (Entries.not_has_nil "level"))).mp hsettable)
      hstuck
  | stuck _ hkeeps _ => exact ⟨_, rfl, fun hruns => hkeeps.elim (absurd · hruns.1) (absurd hruns.2)⟩
  | grown _ _ _ => exact ⟨_, rfl, fun _ => rfl⟩

/-! ## Records at the level that is asked for -/

variable {formats : List (Atom × Format)} {handlers : List (Atom × Handler)} {handler : Handler}

theorem levelOr?_of_handlerOf? (h : handlerOf? heap formats ref = some handler) :
    heap.IsMap ref ∧ levelOr? heap .notSet ref = some handler.level := by
  rw [handlerOf?] at h
  obtain ⟨entries, hentries, h⟩ := Option.bind_eq_some_iff.mp h
  refine ⟨⟨entries, hentries⟩, ?_⟩
  split at h
  · cases h
  · simp only [Option.bind_eq_bind, Option.bind_eq_some_iff] at h
    obtain ⟨format, -, target, -, level, hlevel, hhandler⟩ := h
    cases hhandler
    exact hlevel

theorem exists_entry_of_handlersFrom {named : Atom × Handler}
    (h : handlersFrom heap formats entries = .ok handlers) (hnamed : named ∈ handlers) :
    ∃ entry ∈ entries, handlerOf? heap formats entry.2 = some named.2 := by
  induction entries generalizing handlers with
  | nil =>
    cases h
    cases hnamed
  | cons entry rest ih =>
    rw [handlersFrom] at h
    split at h
    · cases h
    · rename_i first hfirst
      obtain ⟨others, hothers, heq⟩ := except_bind_eq_ok_iff.mp h
      cases heq
      rcases List.mem_cons.mp hnamed with rfl | hnamed
      · exact ⟨entry, List.mem_cons_self, hfirst⟩
      · obtain ⟨other, hother, hhandler⟩ := ih hothers hnamed
        exact ⟨other, List.mem_cons_of_mem entry hother, hhandler⟩

theorem entries?_of_entriesOf {fault : Text → Fault}
    (h : entriesOf key fault config = .ok entries) :
    entries = [] ∨ ∃ part, config.get? key = some part ∧
      config.heap.entries? part = some entries := by
  unfold entriesOf at h
  split at h
  case h_7 id hget =>
    split at h
    case h_1 found hcell =>
      cases h
      exact Or.inr ⟨.cell id, hget, Heap.entries?_cell_eq_some_iff.mpr hcell⟩
    case h_2 | h_3 | h_4 =>
      cases h
      exact Or.inl rfl
    all_goals cases h
  all_goals
    cases h
    try exact Or.inl rfl

/-- The handlers of a configuration stand in its part for them. -/
theorem exists_entryOf_of_handlersOf {named : Atom × Handler}
    (h : handlersOf config = .ok handlers) (hnamed : named ∈ handlers) :
    ∃ id formats, EntryOf "handlers" config id ∧
      handlerOf? config.heap formats (.cell id) = some named.2 := by
  rw [handlersOf, except_bind_eq_ok_iff] at h
  obtain ⟨formatEntries, -, h⟩ := h
  obtain ⟨formats, -, h⟩ := except_bind_eq_ok_iff.mp h
  obtain ⟨entries, hentries, hfrom⟩ := except_bind_eq_ok_iff.mp h
  obtain ⟨entry, hentry, hhandler⟩ := exists_entry_of_handlersFrom hfrom hnamed
  rw [List.mem_mergeSort] at hentry
  obtain ⟨id, _, hcell, -⟩ := (levelOr?_of_handlerOf? hhandler).1.exists_cell
  refine ⟨id, formats, ?_, hcell ▸ hhandler⟩
  rcases entries?_of_entriesOf hentries with rfl | ⟨part, hpart, hentries⟩
  · cases hentry
  · exact ⟨part, entries, hpart, hentries, entry, hentry, hcell⟩

/-- No entry but that of the level comes to the parts of a configuration. -/
theorem LevelsSet.entryOf {touched : Nat → Prop} (hset : LevelsSet name touched config.heap next)
    (hkey : key ≠ "level") (h : EntryOf key ⟨next, config.root⟩ id) : EntryOf key config id := by
  obtain ⟨part, entries, hget, hentries, entry, hentry, hvalue⟩ := h
  have hsame : config.get? key = some part := (hset.get?_of_ne hkey config.root).symm.trans hget
  obtain ⟨place, _, rfl, -⟩ := Heap.IsMap.exists_cell ⟨entries, hentries⟩
  obtain ⟨others, hothers⟩ := Heap.isMap_cell_iff.mp (hset.isMap_iff.mp ⟨entries, hentries⟩)
  refine ⟨.cell place, others, hsame, Heap.entries?_cell_eq_some_iff.mpr hothers, ?_⟩
  rw [Heap.entries?_cell_eq_some_iff] at hentries
  by_cases hplace : touched place
  · rw [hset.set place hplace, hothers] at hentries
    cases hentries
    rcases Entries.mem_or_eq_of_mem_insert hentry with hold | hnew
    · exact ⟨entry, hold, hvalue⟩
    · cases hnew.symm.trans hvalue
  · rw [hset.kept place hplace, hothers] at hentries
    cases hentries
    exact ⟨entry, hentry, hvalue⟩

/-- Whether no handler of a configuration stops records at a level or above it. -/
def LetsThrough (level : Level) (config : Graph) : Prop :=
  ∀ handlers, handlersOf config = .ok handlers → ∀ named ∈ handlers, ∀ record : Record,
    level.severity ≤ record.level.severity →
      Loggers.written record named.2 =
        if named.2.target = .standardError then named.2.format.render record ++ ['\n'] else []

theorem written_of_severity_le {record : Record}
    (h : handler.level.severity ≤ record.level.severity) :
    Loggers.written record handler =
      if handler.target = .standardError then handler.format.render record ++ ['\n'] else [] := by
  simp only [Loggers.written, h, and_true]

theorem Overridden.level_le (hlevel : Level.ofName? name = some level) (hregular : Regular config)
    (h : Overridden name level config next) (hid : EntryOf "handlers" config id) :
    next.get? "level" (.cell id) = none ∨
      ∃ new, HasLevel next id new ∧ new.severity ≤ level.severity := by
  by_cases hgets : GetsLevel config id
  · exact Or.inr ⟨level, ⟨name, h.loggers id hgets, hlevel⟩, Int.le_refl _⟩
  · cases hget : config.heap.get? "level" (.cell id) with
    | none =>
      have hkept : ¬ Changes level config id := by
        rintro (hid | ⟨-, _, ⟨_, hold, -⟩, -⟩)
        · exact hgets hid
        · cases hget.symm.trans hold
      exact Or.inl ((h.cells.get?_of_not_touched hkept "level").trans hget)
    | some value =>
      obtain ⟨oldName, old, rfl, hold⟩ := (hregular.isHandler_of_entryOf hid).2 value hget
      obtain ⟨new, hnew, hmin⟩ := h.handlers id old hid ⟨oldName, hget, hold⟩ hgets
      exact Or.inr ⟨new, hnew, hmin ▸ Int.min_le_right _ _⟩

theorem Overridden.letsThrough (hlevel : Level.ofName? name = some level)
    (hregular : Regular config) (h : Overridden name level config next) :
    LetsThrough level ⟨next, config.root⟩ := by
  intro handlers hhandlers named hnamed record hrecord
  apply written_of_severity_le
  refine Int.le_trans ?_ hrecord
  obtain ⟨id, formats, hentry, hhandler⟩ := exists_entryOf_of_handlersOf hhandlers hnamed
  have hfound := (levelOr?_of_handlerOf? hhandler).2
  rw [levelOr?] at hfound
  rcases h.level_le hlevel hregular (h.cells.entryOf (by decide) hentry) with hnone | hbelow
  · rw [hnone] at hfound
    rw [← Option.some.inj hfound]
    exact severity_nonneg hlevel
  · obtain ⟨new, ⟨newName, hget, hnew⟩, hle⟩ := hbelow
    rw [hget] at hfound
    cases hnew.symm.trans hfound
    exact hle

/-! ## The override -/

/-- The override of a regular configuration gives every logger and the root the level that is asked
for and lowers the handlers that share no cell with them to it. It leaves the rest. Only loggers
that cannot be set because their map is one of them end it. A name that is no level ends it before
anything is set, whatever the configuration. -/
theorem override_sets_levels (asked : Text) (config : Graph) :
    (∀ level, Level.ofName? (Level.capitals asked) = some level → Regular config →
      (Untangled config → ∃ next, override asked config = (⟨next, config.root⟩, none) ∧
        Overridden (Level.capitals asked) level config next ∧
          LetsThrough level ⟨next, config.root⟩) ∧
      ∀ loggers, config.get? "loggers" = some loggers → ¬ AcceptsLevels config.heap loggers →
        ∃ fault, (override asked config).2 = some fault ∧
          (RunsOff config.heap loggers → fault = .grown)) ∧
    (Level.ofName? (Level.capitals asked) = none →
      override asked config = (config, some (.invalidLevel asked)) ∧
        (Fault.invalidLevel asked).kind = .configuration) := by
  refine ⟨fun level hlevel hregular => ⟨fun huntangled => ?_, fun loggers hget => ?_⟩,
    fun hnone => ?_⟩
  · obtain ⟨next, hnext, hoverridden⟩ := exists_override hlevel hregular huntangled
    exact ⟨next, hnext, hoverridden, hoverridden.letsThrough hlevel hregular⟩
  · exact exists_override_fault hlevel hregular hget
  · exact ⟨override_of_ofName?_none hnone config, rfl⟩

/-- A handler above the level that is asked for, one below it and one without a level. -/
def plainConfig : Graph :=
  ⟨[.map [(.ofText "version", .atom (.scalar (.int 1))), (.ofText "handlers", .cell 1),
      (.ofText "loggers", .cell 2), (.ofText "root", .cell 3)],
    .map [(.ofText "console", .cell 4), (.ofText "trace", .cell 5), (.ofText "quiet", .cell 6)],
    .map [(.ofText "client_aggregator", .cell 7), (.ofText "yaml", .cell 8)],
    .map [(.ofText "handlers", .cell 9)],
    .map [(.ofText "class", .ofText "logging.StreamHandler"), (.ofText "level", .ofText "FATAL")],
    .map [(.ofText "level", .ofText "DEBUG"), (.ofText "class", .ofText "logging.StreamHandler")],
    .map [(.ofText "class", .ofText "logging.NullHandler")],
    .map [(.ofText "level", .ofText "ERROR")],
    .map [(.ofText "propagate", .atom (.scalar (.bool false)))],
    .list [.ofText "console", .ofText "trace"]], .cell 0⟩

theorem regular_plainConfig : Regular plainConfig := by
  refine ⟨?_, ?_, ?_⟩
  · rintro loggers ⟨⟩
    exact ⟨_, rfl, List.forall_mem_cons.mpr ⟨⟨_, rfl⟩, List.forall_mem_singleton.mpr ⟨_, rfl⟩⟩⟩
  · rintro root ⟨⟩
    exact ⟨_, rfl⟩
  · rintro handlers ⟨⟩
    refine ⟨_, rfl, List.forall_mem_cons.mpr ⟨⟨⟨_, rfl⟩, ?_⟩, List.forall_mem_cons.mpr
      ⟨⟨⟨_, rfl⟩, ?_⟩, List.forall_mem_singleton.mpr ⟨⟨_, rfl⟩, ?_⟩⟩⟩⟩
    · rintro value ⟨⟩
      exact ⟨"FATAL", .critical, rfl, rfl⟩
    · rintro value ⟨⟩
      exact ⟨"DEBUG", .debug, rfl, rfl⟩
    · rintro value ⟨⟩

theorem untangled_plainConfig : Untangled plainConfig := by
  have hloggers (id : Nat) : EntryOf "loggers" plainConfig id ↔ id = 7 ∨ id = 8 := by
    rw [entryOf_iff rfl rfl]
    simp [eq_comm]
  refine ⟨?_, ?_⟩
  · rintro loggers ⟨⟩
    exact ⟨⟨_, rfl⟩, nofun, ⟨_, rfl⟩, nofun, trivial⟩
  · rintro id entries ⟨⟩ - (hself | ⟨⟨⟩⟩)
    exact absurd ((hloggers 1).mp hself) (by decide)

theorem override_sets_levels_of_plainConfig :
    Regular plainConfig ∧ Untangled plainConfig ∧
      Level.ofName? (Level.capitals "Warn") = some .warning ∧
      (∃ next, override "Warn" plainConfig = (⟨next, plainConfig.root⟩, none) ∧
        Overridden "WARN" .warning plainConfig next ∧
          LetsThrough .warning ⟨next, plainConfig.root⟩) ∧
      Level.ofName? (Level.capitals "loud") = none ∧
      override "loud" plainConfig = (plainConfig, some (.invalidLevel "loud")) := by
  have hwarn : Level.ofName? (Level.capitals "Warn") = some .warning := by decide
  have hloud : Level.ofName? (Level.capitals "loud") = none := by decide
  obtain ⟨hsets, -⟩ := override_sets_levels "Warn" plainConfig
  obtain ⟨-, hends⟩ := override_sets_levels "loud" plainConfig
  exact ⟨regular_plainConfig, untangled_plainConfig, hwarn,
    (hsets .warning hwarn regular_plainConfig).1 untangled_plainConfig, hloud, (hends hloud).1⟩

/-- A logger that is an alias of a handler. -/
def aliasText : Text :=
  "version: 1\ndisable_existing_loggers: false\nhandlers:\n  console: &console\n" ++
    "    class: logging.StreamHandler\n    level: INFO\n" ++
    "loggers:\n  client_aggregator: *console\nroot:\n  handlers: [console]\n"

def aliasConfig : Graph :=
  ⟨[.map [(.ofText "version", .atom (.scalar (.int 1))),
      (.ofText "disable_existing_loggers", .atom (.scalar (.bool false))),
      (.ofText "handlers", .cell 1), (.ofText "loggers", .cell 3), (.ofText "root", .cell 4)],
    .map [(.ofText "console", .cell 2)],
    .map [(.ofText "class", .ofText "logging.StreamHandler"), (.ofText "level", .ofText "INFO")],
    .map [(.ofText "client_aggregator", .cell 2)],
    .map [(.ofText "handlers", .cell 5)],
    .list [.ofText "console"]], .cell 0⟩

theorem load_aliasText : Yaml.load aliasText = .ok aliasConfig := by decide +kernel

theorem regular_aliasConfig : Regular aliasConfig := by
  refine ⟨?_, ?_, ?_⟩
  · rintro loggers ⟨⟩
    exact ⟨_, rfl, List.forall_mem_singleton.mpr ⟨_, rfl⟩⟩
  · rintro root ⟨⟩
    exact ⟨_, rfl⟩
  · rintro handlers ⟨⟩
    refine ⟨_, rfl, List.forall_mem_singleton.mpr ⟨⟨_, rfl⟩, ?_⟩⟩
    rintro value ⟨⟩
    exact ⟨"INFO", .info, rfl, rfl⟩

theorem not_forall_override_only_lowers :
    ¬ ∀ (text asked : Text) (config : Graph) (level : Level), Yaml.load text = .ok config →
      Level.ofName? (Level.capitals asked) = some level → Regular config →
        ∃ next, override asked config = (⟨next, config.root⟩, none) ∧
          ∀ id old, EntryOf "handlers" config id → HasLevel config.heap id old →
            ∃ new, HasLevel next id new ∧ new.severity = min old.severity level.severity := by
  intro h
  obtain ⟨next, hnext, hlowers⟩ := h aliasText "ERROR" aliasConfig .error load_aliasText
    (by decide) regular_aliasConfig
  have hentry : EntryOf "handlers" aliasConfig 2 :=
    (entryOf_iff rfl rfl).mpr ⟨_, List.mem_cons_self, rfl⟩
  obtain ⟨new, ⟨name, hget, hname⟩, hmin⟩ := hlowers 2 .info hentry ⟨"INFO", rfl, rfl⟩
  have hraised : (override "ERROR" aliasConfig).1.heap.get? "level" (.cell 2) =
      some (.ofText "ERROR") := by decide
  rw [hnext] at hraised
  cases hget.symm.trans hraised
  cases hname
  exact absurd hmin (by decide)

end ClientFacade.Log
