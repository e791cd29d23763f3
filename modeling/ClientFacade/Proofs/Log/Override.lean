import ClientFacade.Proofs.Log.Edit

/-!
# Where the override of levels goes wrong

The override walks over a configuration whose shape nobody has checked. It takes the loggers first,
then the root, then the handlers, and what it meets decides how it ends. Three shapes end it in a
fault that the fallback does not cover: loggers in a list or in bytes that name an item which is not
there, a map of loggers that is a logger itself and has no level so far, and handlers that are no
map, if all before them could be set.
-/

namespace ClientFacade.Log

variable {name key : Text} {heap next : Heap} {id : Nat} {before rest entries : Entries}
  {target : Ref} {level : Level} {passed : Prop}

/-! ## Loggers in a map -/

/-- Whether entries of the map in a cell can be set one after another. The map itself can be so
only if the entry for its own level has been passed, which would be no map any more. -/
def Settable (heap : Heap) (id : Nat) (passed : Prop) : Entries → Prop
  | [] => True
  | (key, target) :: rest =>
    heap.IsMap target ∧ (target = .cell id → passed ∨ key = .ofText "level") ∧
      Settable heap id (passed ∨ key = .ofText "level") rest

/-- Whether the first of the entries that is no map comes behind the map in a cell itself. -/
def ComesTo (heap : Heap) (id : Nat) : Entries → Prop
  | [] => False
  | (_, target) :: rest => target = .cell id ∨ heap.IsMap target ∧ ComesTo heap id rest

theorem settable_congr_heap (h : ∀ ref, next.IsMap ref ↔ heap.IsMap ref) :
    Settable next id passed rest ↔ Settable heap id passed rest := by
  induction rest generalizing passed with
  | nil => exact Iff.rfl
  | cons entry rest ih => rw [Settable, Settable, h, ih]

theorem settable_congr {other : Prop} (h : passed ↔ other) :
    Settable heap id passed rest ↔ Settable heap id other rest := by
  rw [propext h]

theorem comesTo_congr (h : ∀ ref, next.IsMap ref ↔ heap.IsMap ref) :
    ComesTo next id rest ↔ ComesTo heap id rest := by
  induction rest with
  | nil => exact Iff.rfl
  | cons entry rest ih => rw [ComesTo, ComesTo, h, ih]

theorem Settable.isMap (h : Settable heap id passed rest) : ∀ entry ∈ rest, heap.IsMap entry.2 := by
  induction rest generalizing passed with
  | nil => exact nofun
  | cons entry rest ih => exact List.forall_mem_cons.mpr ⟨h.1, ih h.2.2⟩

/-- How setting the levels of the last entries ends. -/
inductive Walked (name : Text) (heap : Heap) (id : Nat) (before rest : Entries) :
    Heap × Option Fault → Prop
  | done {next : Heap} (h : Settable heap id (before.Has "level") rest)
      (hkeeps : Entries.Has "level" (before ++ rest) ∨ ¬ ComesTo heap id rest)
      (hnext : LevelsSet name (fun other => ∃ entry ∈ rest, entry.2 = .cell other) heap next) :
      Walked name heap id before rest (next, none)
  | stuck {left : Heap} {fault : Fault} (h : ¬ Settable heap id (before.Has "level") rest)
      (hkeeps : Entries.Has "level" (before ++ rest) ∨ ¬ ComesTo heap id rest)
      (hfault : fault.isCovered = true) : Walked name heap id before rest (left, some fault)
  | grown {left : Heap} (h : ¬ Settable heap id (before.Has "level") rest)
      (hlevel : ¬ Entries.Has "level" (before ++ rest)) (hself : ComesTo heap id rest) :
      Walked name heap id before rest (left, some .grown)

theorem alongLast_succ {step : Ref → Edit} {key : Atom}
    (hcell : heap.cell id = .map (before ++ (key, target) :: rest)) (size : Nat)
    (hsize : size = (before ++ (key, target) :: rest).length) :
    Edit.alongLast step id size (rest.length + 1) heap =
      match step target heap with
      | (next, some fault) => (next, some fault)
      | (next, none) =>
        if (next.values id).length = size then Edit.alongLast step id size rest.length next
        else (next, some .grown) := by
  have hplace : size - (rest.length + 1) = before.length := by
    rw [hsize, List.length_append, List.length_cons, Nat.add_sub_cancel]
  have hvalue : (heap.values id)[size - (rest.length + 1)]? = some target := by
    rw [hplace, Heap.values_of_cell hcell, List.map_append, List.getElem?_append_right (by simp)]
    simp
  rcases hstep : step target heap with ⟨next, _ | fault⟩ <;>
    simp only [Edit.alongLast, hvalue, hstep]

theorem Walked.cons {key : Atom} {middle : Heap} {passedEntries : Entries}
    {change : Heap × Option Fault} (hmap : heap.IsMap target)
    (hset : LevelsSet name (fun other => target = .cell other) heap middle)
    (hpassed : passedEntries.Has "level" ↔ before.Has "level" ∨ key = .ofText "level")
    (hself : target = .cell id → before.Has "level" ∨ key = .ofText "level")
    (h : Walked name middle id passedEntries rest change) :
    Walked name heap id before ((key, target) :: rest) change := by
  have hsettable : Settable heap id (before.Has "level") ((key, target) :: rest) ↔
      Settable middle id (passedEntries.Has "level") rest := by
    rw [Settable, settable_congr_heap fun ref => hset.isMap_iff, settable_congr hpassed]
    exact ⟨fun h => h.2.2, fun h => ⟨hmap, hself, h⟩⟩
  have hlevel : Entries.Has "level" (before ++ (key, target) :: rest) ↔
      Entries.Has "level" (passedEntries ++ rest) := by
    rw [Entries.has_append_iff, Entries.has_append_iff, Entries.has_cons_iff, hpassed, or_assoc]
  have hkeeps (h : Entries.Has "level" (passedEntries ++ rest) ∨ ¬ ComesTo middle id rest) :
      Entries.Has "level" (before ++ (key, target) :: rest) ∨
        ¬ ComesTo heap id ((key, target) :: rest) := by
    rw [hlevel]
    by_cases hcell : target = .cell id
    · exact Or.inl (Entries.has_append_iff.mpr (Or.inl (hpassed.mpr (hself hcell))))
    · apply h.imp_right
      rintro hrest (hcomes | ⟨-, hcomes⟩)
      · exact hcell hcomes
      · exact hrest ((comesTo_congr fun ref => hset.isMap_iff).mpr hcomes)
  cases h with
  | done h hrest hnext =>
    refine .done (hsettable.mpr h) (hkeeps hrest) ((hset.trans hnext).congr fun other => ?_)
    simp
  | stuck h hrest hfault => exact .stuck (mt hsettable.mp h) (hkeeps hrest) hfault
  | grown h hnone hcomes =>
    exact .grown (mt hsettable.mp h) (mt hlevel.mp hnone)
      (Or.inr ⟨hmap, (comesTo_congr fun ref => hset.isMap_iff).mp hcomes⟩)

/-- Where a text is still to come, the walk ends there if not before. -/
theorem Walked.of_later {middle : Heap} {passedEntries later : Entries}
    {change : Heap × Option Fault} (hunsettable : ¬ Settable heap id (before.Has "level") rest)
    (hhas : Entries.Has "level" (before ++ rest))
    (htext : ∃ entry ∈ later, entry.2 = .ofText name)
    (hlater : Entries.Has "level" (passedEntries ++ later))
    (h : Walked name middle id passedEntries later change) :
    Walked name heap id before rest change := by
  cases h with
  | done h _ _ =>
    obtain ⟨entry, hentry, hvalue⟩ := htext
    have hmap := h.isMap entry hentry
    rw [hvalue] at hmap
    exact absurd hmap (Heap.not_isMap_atom middle _)
  | stuck _ _ hfault => exact .stuck hunsettable (Or.inl hhas) hfault
  | grown _ hnone _ => exact absurd hlater hnone

theorem walked_alongLast (name : Text) (hcell : heap.cell id = .map (before ++ rest)) (size : Nat)
    (hsize : size = (before ++ rest).length) :
    Walked name heap id before rest
      (Edit.alongLast (setLevel name) id size rest.length heap) := by
  induction hlength : rest.length generalizing heap before rest with
  | zero =>
    obtain rfl := List.length_eq_zero_iff.mp hlength
    refine .done trivial (Or.inr not_false) ((LevelsSet.refl name heap).congr fun other => ?_)
    simp
  | succ left ih =>
    obtain ⟨⟨key, target⟩, rest, rfl⟩ := List.exists_cons_of_length_eq_add_one hlength
    obtain rfl := Nat.succ.inj hlength
    rw [alongLast_succ hcell size hsize]
    by_cases hmap : heap.IsMap target
    · obtain ⟨middle, hmiddle, hset⟩ := exists_setLevel hmap name
      rw [hmiddle]
      dsimp only
      by_cases hself : target = .cell id
      · subst hself
        have hinsert : middle.cell id = .map (Entries.insert (.ofText "level") (.ofText name)
            (before ++ (key, .cell id) :: rest)) := by
          rw [hset.set id rfl, hcell, Cell.withLevel]
        by_cases hpassed : Entries.Has "level" (before ++ [(key, .cell id)])
        · -- The level has been passed, and what is still to come stays as it is.
          rw [List.append_cons, Entries.insert_append hpassed] at hinsert
          have hsame : size = (Entries.insert (.ofText "level") (.ofText name)
              (before ++ [(key, .cell id)]) ++ rest).length := by
            simp only [hsize, List.append_cons before _ rest, List.length_append,
              Entries.length_insert hpassed]
          rw [if_pos (by rw [Heap.values_of_cell hinsert, List.length_map, hsame])]
          rw [Entries.has_append_singleton_iff] at hpassed
          exact (ih hinsert hsame rfl).cons hmap hset
            (iff_of_true (Entries.has_insert_self _ _ _) hpassed) fun _ => hpassed
        · have hunsettable :
              ¬ Settable heap id (before.Has "level") ((key, .cell id) :: rest) := by
            rw [Entries.has_append_singleton_iff] at hpassed
            exact fun h => hpassed (h.2.1 rfl)
          have hlevels : Entries.Has "level" (before ++ (key, .cell id) :: rest) ↔
              Entries.Has "level" (before ++ [(key, .cell id)]) ∨ Entries.Has "level" rest := by
            rw [List.append_cons, Entries.has_append_iff]
          by_cases hrest : Entries.Has "level" rest
          · -- The level is still to come, and no map stands there now.
            rw [List.append_cons, Entries.insert_append_of_not_has hpassed] at hinsert
            have hsame : size = (before ++ [(key, Ref.cell id)] ++
                Entries.insert (.ofText "level") (.ofText name) rest).length := by
              simp only [hsize, List.append_cons before _ rest, List.length_append,
                Entries.length_insert hrest]
            rw [if_pos (by rw [Heap.values_of_cell hinsert, List.length_map, hsame])]
            exact (ih hinsert hsame (Entries.length_insert hrest _)).of_later hunsettable
              (hlevels.mpr (Or.inr hrest)) (Entries.exists_mem_insert _ _ rest)
              (Entries.has_append_iff.mpr (Or.inr (Entries.has_insert_self _ _ rest)))
          · have hnone := mt hlevels.mp (not_or.mpr ⟨hpassed, hrest⟩)
            rw [Entries.insert_of_not_has hnone] at hinsert
            rw [if_neg (by
              rw [Heap.values_of_cell hinsert, List.length_map, List.length_append, hsize]
              simp)]
            exact .grown hunsettable hnone (Or.inl rfl)
      · -- The map that is walked over stays as it is.
        have hsame : middle.cell id = .map ((before ++ [(key, target)]) ++ rest) := by
          rw [hset.kept id hself, hcell, List.append_cons]
        have hlast := ih hsame (by rw [hsize, List.append_cons]) rfl
        rw [if_pos (by rw [Heap.values_of_cell hsame, List.length_map, ← List.append_cons, hsize])]
        refine hlast.cons hmap hset ?_ (fun h => absurd h hself)
        rw [Entries.has_append_iff, Entries.has_cons_iff]
        simp [Entries.Has]
    · obtain ⟨fault, hfault, hcovered⟩ := setLevel_of_not_isMap hmap name
      rw [hfault]
      refine .stuck (fun h => hmap h.1) (Or.inr ?_) hcovered
      rintro (rfl | ⟨h, -⟩)
      · exact hmap (Heap.isMap_cell_iff.mpr ⟨_, hcell⟩)
      · exact hmap h

theorem walked_along (name : Text) (hcell : heap.cell id = .map entries) :
    Walked name heap id [] entries (Edit.along (setLevel name) id heap) := by
  rw [Edit.along, Heap.values_of_cell hcell, List.length_map]
  exact walked_alongLast name hcell entries.length rfl

theorem along_eq_none_iff (name : Text) (hcell : heap.cell id = .map entries) :
    (Edit.along (setLevel name) id heap).2 = none ↔ Settable heap id False entries := by
  rw [← settable_congr (iff_false_intro (Entries.not_has_nil "level"))]
  have hwalked := walked_along name hcell
  generalize Edit.along (setLevel name) id heap = change at hwalked
  cases hwalked with
  | done h _ _ => exact iff_of_true rfl h
  | stuck h _ _ => exact iff_of_false nofun h
  | grown h _ _ => exact iff_of_false nofun h

theorem endsUncovered_along_iff (name : Text) (hcell : heap.cell id = .map entries) :
    EndsUncovered (Edit.along (setLevel name) id heap) ↔
      ¬ entries.Has "level" ∧ ComesTo heap id entries := by
  have hwalked := walked_along name hcell
  generalize Edit.along (setLevel name) id heap = change at hwalked
  cases hwalked with
  | done _ hkeeps _ =>
    exact iff_of_false (not_endsUncovered_none _) fun h => hkeeps.elim h.1 (· h.2)
  | stuck _ hkeeps hfault =>
    refine iff_of_false ?_ fun h => hkeeps.elim h.1 (· h.2)
    rw [endsUncovered_some_iff, hfault]
    exact Bool.noConfusion
  | grown _ hlevel hself => exact iff_of_true (endsUncovered_some_iff.mpr rfl) ⟨hlevel, hself⟩

theorem exists_along (name : Text) (hcell : heap.cell id = .map entries)
    (h : Settable heap id False entries) :
    ∃ next, Edit.along (setLevel name) id heap = (next, none) ∧
      LevelsSet name (fun other => ∃ entry ∈ entries, entry.2 = .cell other) heap next := by
  rw [← settable_congr (iff_false_intro (Entries.not_has_nil "level"))] at h
  have hwalked := walked_along name hcell
  generalize Edit.along (setLevel name) id heap = change at hwalked
  cases hwalked with
  | done _ _ hnext => exact ⟨_, rfl, hnext⟩
  | stuck hunsettable _ _ => exact absurd h hunsettable
  | grown hunsettable _ _ => exact absurd h hunsettable

/-! ## Loggers in a list -/

variable {items names : List Ref} {item : Ref}

/-- Whether a value counts as the index of a map among the items. -/
def NamesMap (heap : Heap) (items : List Ref) (item : Ref) : Prop :=
  ∃ index target, item.int? = some index ∧ item? items index = some target ∧ heap.IsMap target

/-- Whether a value counts as an index past the items. -/
def NamesNothing (items : List Ref) (item : Ref) : Prop :=
  ∃ index, item.int? = some index ∧ item? items index = none

/-- Whether the first name that is not one of a map is an index past the items. -/
def RunsPast (heap : Heap) (items : List Ref) : List Ref → Prop
  | [] => False
  | item :: rest =>
    NamesNothing items item ∨ NamesMap heap items item ∧ RunsPast heap items rest

theorem namesMap_congr (h : ∀ ref, next.IsMap ref ↔ heap.IsMap ref) :
    NamesMap next items item ↔ NamesMap heap items item := by
  simp only [NamesMap, h]

theorem runsPast_congr (h : ∀ ref, next.IsMap ref ↔ heap.IsMap ref) :
    RunsPast next items names ↔ RunsPast heap items names := by
  induction names with
  | nil => exact Iff.rfl
  | cons item rest ih => rw [RunsPast, RunsPast, namesMap_congr h, ih]

theorem setLevelsByItem_eq_none_iff (name : Text) (heap : Heap) (items names : List Ref) :
    (setLevelsByItem name items names heap).2 = none ↔
      ∀ item ∈ names, NamesMap heap items item := by
  induction names generalizing heap with
  | nil => simp [setLevelsByItem]
  | cons item rest ih =>
    rw [List.forall_mem_cons, setLevelsByItem, NamesMap]
    cases item.int? with
    | none => simp
    | some index =>
      cases hitem : item? items index with
      | none => simp [hitem]
      | some target =>
        dsimp only
        by_cases hmap : heap.IsMap target
        · obtain ⟨next, hnext, hset⟩ := exists_setLevel hmap name
          simp [Edit.andThen, hnext, ih, hitem, hmap, namesMap_congr fun ref => hset.isMap_iff]
        · obtain ⟨fault, hfault, -⟩ := setLevel_of_not_isMap hmap name
          simp [Edit.andThen, hfault, hitem, hmap]

theorem endsUncovered_setLevelsByItem_iff (name : Text) (heap : Heap) (items names : List Ref) :
    EndsUncovered (setLevelsByItem name items names heap) ↔ RunsPast heap items names := by
  induction names generalizing heap with
  | nil => simp [setLevelsByItem, RunsPast]
  | cons item rest ih =>
    rw [setLevelsByItem, RunsPast, NamesMap, NamesNothing]
    cases item.int? with
    | none => simp [Fault.isCovered, Fault.kind]
    | some index =>
      cases hitem : item? items index with
      | none => simp [hitem, Fault.isCovered, Fault.kind]
      | some target =>
        dsimp only
        by_cases hmap : heap.IsMap target
        · obtain ⟨next, hnext, hset⟩ := exists_setLevel hmap name
          simp [Edit.andThen, hnext, ih, hitem, hmap, runsPast_congr fun ref => hset.isMap_iff]
        · obtain ⟨fault, hfault, hcovered⟩ := setLevel_of_not_isMap hmap name
          simp [Edit.andThen, hfault, hitem, hmap, hcovered]

theorem item?_mem {index : Int} (h : item? items index = some target) : target ∈ items := by
  unfold item? at h
  split at h
  · split at h
    · exact List.mem_of_getElem? h
    · cases h
  · exact List.mem_of_getElem? h

/-- A name that could be set stands for a map, and that map is no name. -/
theorem forall_namesMap_iff : (∀ item ∈ items, NamesMap heap items item) ↔ items = [] := by
  refine ⟨fun h => ?_, by rintro rfl; exact nofun⟩
  cases items with
  | nil => rfl
  | cons first rest =>
    obtain ⟨_, target, -, htarget, hmap⟩ := h first List.mem_cons_self
    obtain ⟨_, _, hindex, -⟩ := h target (item?_mem htarget)
    obtain ⟨id, _, rfl, -⟩ := hmap.exists_cell
    cases hindex

/-! ## All loggers -/

def AcceptsLevels (heap : Heap) : Ref → Prop
  | .atom (.scalar value) => value = .text []
  | .atom (.bytes codes) => codes = []
  | .cell id =>
    match heap.cell id with
    | .map entries => Settable heap id False entries
    | .list items => items = []
    | .pairs items => items = []
    | .set members => members = []

/-- Whether setting the levels of loggers comes to an item that is not there, or to a map that
grows under it. -/
def RunsOff (heap : Heap) : Ref → Prop
  | .atom (.bytes (code :: rest)) => rest.length < code.toNat
  | .atom _ => False
  | .cell id =>
    match heap.cell id with
    | .map entries => ¬ entries.Has "level" ∧ ComesTo heap id entries
    | .list items => RunsPast heap items items
    | _ => False

theorem setLevels_of_map (hcell : heap.cell id = .map entries) (name : Text) :
    setLevels name (.cell id) heap = Edit.along (setLevel name) id heap := by
  simp only [setLevels, hcell]

theorem setLevels_eq_none_iff (name : Text) (heap : Heap) (loggers : Ref) :
    (setLevels name loggers heap).2 = none ↔ AcceptsLevels heap loggers := by
  rcases loggers with (value | codes) | id
  · cases value <;> simp [setLevels, AcceptsLevels]
  · cases codes <;> simp [setLevels, AcceptsLevels, byteFault?]
  · cases hcell : heap.cell id with
    | map entries =>
      rw [setLevels_of_map hcell]
      simp only [AcceptsLevels, hcell]
      exact along_eq_none_iff name hcell
    | list items =>
      simp only [setLevels, AcceptsLevels, hcell]
      rw [setLevelsByItem_eq_none_iff, forall_namesMap_iff]
    | pairs items => simp [setLevels, AcceptsLevels, hcell]
    | set members => simp [setLevels, AcceptsLevels, hcell]

theorem endsUncovered_setLevels_iff (name : Text) (heap : Heap) (loggers : Ref) :
    EndsUncovered (setLevels name loggers heap) ↔ RunsOff heap loggers := by
  rcases loggers with (value | codes) | id
  · cases value with
    | text text =>
      by_cases h : text = [] <;> simp [setLevels, RunsOff, h, Fault.isCovered, Fault.kind]
    | _ => simp [setLevels, RunsOff, Fault.isCovered, Fault.kind]
  · cases codes with
    | nil => simp [setLevels, RunsOff, byteFault?]
    | cons code rest =>
      by_cases h : code.toNat ≤ rest.length <;>
        simp [setLevels, RunsOff, byteFault?, h, Fault.isCovered, Fault.kind]
      omega
  · cases hcell : heap.cell id with
    | map entries =>
      rw [setLevels_of_map hcell]
      simp only [RunsOff, hcell]
      exact endsUncovered_along_iff name hcell
    | list items =>
      simp only [setLevels, RunsOff, hcell]
      exact endsUncovered_setLevelsByItem_iff name heap items items
    | pairs items =>
      by_cases h : items = [] <;> simp [setLevels, RunsOff, hcell, h, Fault.isCovered, Fault.kind]
    | set members =>
      by_cases h : members = [] <;> simp [setLevels, RunsOff, hcell, h, Fault.isCovered, Fault.kind]

theorem exists_setLevels (name : Text) {loggers : Ref} (h : AcceptsLevels heap loggers) :
    ∃ next touched, setLevels name loggers heap = (next, none) ∧
      LevelsSet name touched heap next := by
  have hnone := (setLevels_eq_none_iff name heap loggers).mpr h
  rcases loggers with (value | codes) | id
  · cases value <;> exact ⟨heap, _, Prod.ext rfl hnone, .refl name heap⟩
  · exact ⟨heap, _, Prod.ext rfl hnone, .refl name heap⟩
  · cases hcell : heap.cell id with
    | map entries =>
      simp only [AcceptsLevels, hcell] at h
      obtain ⟨next, hnext, hset⟩ := exists_along name hcell h
      exact ⟨next, _, (setLevels_of_map hcell name).trans hnext, hset⟩
    | list items =>
      simp only [AcceptsLevels, hcell] at h
      refine ⟨heap, _, ?_, .refl name heap⟩
      simp only [setLevels, hcell, h, setLevelsByItem]
    | pairs items =>
      refine ⟨heap, _, Prod.ext ?_ hnone, .refl name heap⟩
      simp only [setLevels, hcell]
    | set members =>
      refine ⟨heap, _, Prod.ext ?_ hnone, .refl name heap⟩
      simp only [setLevels, hcell]

/-! ## Handlers -/

variable {handler : Ref} {old : Level} {step : Ref → Edit} {size : Nat}

theorem not_endsUncovered_setLevel (name : Text) (target : Ref) (heap : Heap) :
    ¬ EndsUncovered (setLevel name target heap) := by
  by_cases hmap : heap.IsMap target
  · obtain ⟨next, hnext, -⟩ := exists_setLevel hmap name
    rw [hnext]
    exact not_endsUncovered_none next
  · obtain ⟨fault, hfault, hcovered⟩ := setLevel_of_not_isMap hmap name
    rw [hfault, endsUncovered_some_iff, hcovered]
    exact Bool.noConfusion

theorem isCovered_of_levelIn {fault : Fault} (h : levelIn heap handler = .error fault) :
    fault.isCovered = true := by
  unfold levelIn at h
  split at h
  · cases h
  · split at h
    · cases h
      rfl
    · split at h
      · cases h
        rfl
      · cases h

theorem exists_get?_of_levelIn (h : levelIn heap handler = .ok (some old)) :
    ∃ value, heap.get? "level" handler = some value := by
  unfold levelIn at h
  split at h
  · cases h
  · rename_i value hvalue
    exact ⟨value, hvalue⟩

theorem not_endsUncovered_lowerLevel (name : Text) (level : Level) (handler : Ref) (heap : Heap) :
    ¬ EndsUncovered (lowerLevel name level handler heap) := by
  unfold lowerLevel
  split
  · rename_i fault hfault
    rw [endsUncovered_some_iff, isCovered_of_levelIn hfault]
    exact Bool.noConfusion
  · exact not_endsUncovered_none heap
  · split
    · exact not_endsUncovered_setLevel name handler heap
    · exact not_endsUncovered_none heap

/-- A level that is there already takes no new place. -/
theorem length_values_of_setLevel {value : Ref} (hvalue : heap.get? "level" target = some value)
    (h : setLevel name target heap = (next, none)) (id : Nat) :
    (next.values id).length = (heap.values id).length := by
  obtain ⟨entries, hentries, hget⟩ := Option.bind_eq_some_iff.mp hvalue
  obtain ⟨place, _, rfl, hcell⟩ := Heap.IsMap.exists_cell ⟨entries, hentries⟩
  rw [Heap.entries?_cell_eq_some_iff] at hentries
  have hhas := Entries.has_of_get? hget
  rw [setLevel_of_cell hentries] at h
  obtain ⟨rfl, -⟩ := Prod.mk.inj h
  by_cases hid : place = id
  · subst hid
    rw [Heap.values_of_cell (Heap.cell_set_self hentries _), Heap.values_of_cell hentries,
      List.length_map, List.length_map, Entries.length_insert hhas]
  · rw [Heap.values, Heap.values, Heap.entries?, Heap.entries?, Heap.cell_set_of_ne hid]

theorem length_values_of_lowerLevel (h : lowerLevel name level handler heap = (next, none))
    (id : Nat) : (next.values id).length = (heap.values id).length := by
  unfold lowerLevel at h
  split at h
  · cases h
  · cases h
    rfl
  · rename_i old hold
    obtain ⟨value, hvalue⟩ := exists_get?_of_levelIn hold
    split at h
    · exact length_values_of_setLevel hvalue h id
    · cases h
      rfl

theorem not_endsUncovered_alongLast (hstep : ∀ target heap, ¬ EndsUncovered (step target heap))
    (hkeeps : ∀ {target heap next}, step target heap = (next, none) →
      ∀ id, (next.values id).length = (heap.values id).length)
    (left : Nat) (hsize : (heap.values id).length = size) :
    ¬ EndsUncovered (Edit.alongLast step id size left heap) := by
  induction left generalizing heap with
  | zero => exact not_endsUncovered_none heap
  | succ left ih =>
    rw [Edit.alongLast]
    split
    · exact not_endsUncovered_none heap
    · rename_i target _
      have htarget := hstep target heap
      rcases hnext : step target heap with ⟨next, _ | fault⟩
      · have hlength : (next.values id).length = size := (hkeeps hnext id).trans hsize
        simp only [hlength, if_true]
        exact ih hlength
      · rwa [hnext] at htarget

theorem endsUncovered_lowerLevels_iff (name : Text) (level : Level) (heap : Heap)
    (handlers : Ref) :
    EndsUncovered (lowerLevels name level handlers heap) ↔ ¬ heap.IsMap handlers := by
  cases handlers with
  | atom value => simp [lowerLevels, Fault.isCovered, Fault.kind]
  | cell id =>
    rw [Heap.isMap_cell_iff]
    cases hcell : heap.cell id with
    | map entries =>
      simp only [lowerLevels, hcell]
      refine iff_of_false ?_ (not_not_intro ⟨entries, rfl⟩)
      exact not_endsUncovered_alongLast (not_endsUncovered_lowerLevel name level)
        length_values_of_lowerLevel _ rfl
    | list items => simp [lowerLevels, hcell, Fault.isCovered, Fault.kind]
    | pairs items => simp [lowerLevels, hcell, Fault.isCovered, Fault.kind]
    | set members => simp [lowerLevels, hcell, Fault.isCovered, Fault.kind]

/-! ## The whole configuration -/

variable {config : Ref}

theorem part_of_none (h : heap.get? key config = none) (step : Ref → Edit) :
    Edit.part key config step heap = (heap, none) := by
  rw [Edit.part, h]

theorem part_of_some {value : Ref} (h : heap.get? key config = some value) (step : Ref → Edit) :
    Edit.part key config step heap = step value heap := by
  rw [Edit.part, h]

theorem part_eq_none_iff : (Edit.part key config step heap).2 = none ↔
    ∀ value, heap.get? key config = some value → (step value heap).2 = none := by
  cases h : heap.get? key config with
  | none => simp [part_of_none h]
  | some value => simp [part_of_some h]

theorem endsUncovered_part_iff : EndsUncovered (Edit.part key config step heap) ↔
    ∃ value, heap.get? key config = some value ∧ EndsUncovered (step value heap) := by
  cases h : heap.get? key config with
  | none => simp [part_of_none h]
  | some value => simp [part_of_some h]

/-- Whether a configuration has loggers that run off, or handlers that are no map behind loggers and
a root that can be set. -/
def Exposed (config : Graph) : Prop :=
  (∃ loggers, config.get? "loggers" = some loggers ∧ RunsOff config.heap loggers) ∨
  (∀ loggers, config.get? "loggers" = some loggers → AcceptsLevels config.heap loggers) ∧
    (∀ root, config.get? "root" = some root → config.heap.IsMap root) ∧
    ∃ handlers, config.get? "handlers" = some handlers ∧ ¬ config.heap.IsMap handlers

theorem setLevel_eq_none_iff (name : Text) (heap : Heap) (target : Ref) :
    (setLevel name target heap).2 = none ↔ heap.IsMap target := by
  by_cases hmap : heap.IsMap target
  · obtain ⟨next, hnext, -⟩ := exists_setLevel hmap name
    rw [hnext]
    exact iff_of_true rfl hmap
  · obtain ⟨fault, hfault, -⟩ := setLevel_of_not_isMap hmap name
    rw [hfault]
    exact iff_of_false nofun hmap

theorem exists_loggers_set (name : Text)
    (h : ∀ loggers, heap.get? "loggers" config = some loggers → AcceptsLevels heap loggers) :
    ∃ next touched, Edit.part "loggers" config (setLevels name) heap = (next, none) ∧
      LevelsSet name touched heap next := by
  cases hget : heap.get? "loggers" config with
  | none => exact ⟨heap, _, part_of_none hget _, .refl name heap⟩
  | some loggers =>
    obtain ⟨next, touched, hnext, hset⟩ := exists_setLevels name (h loggers hget)
    exact ⟨next, touched, (part_of_some hget _).trans hnext, hset⟩

theorem exists_root_set (name : Text)
    (h : ∀ root, heap.get? "root" config = some root → heap.IsMap root) :
    ∃ next, Edit.part "root" config (setLevel name) heap = (next, none) ∧
      LevelsSet name (fun id => heap.get? "root" config = some (.cell id)) heap next := by
  cases hget : heap.get? "root" config with
  | none =>
    exact ⟨heap, part_of_none hget _, (LevelsSet.refl name heap).congr fun id => by simp⟩
  | some root =>
    obtain ⟨next, hnext, hset⟩ := exists_setLevel (h root hget) name
    exact ⟨next, (part_of_some hget _).trans hnext, hset.congr fun id => by simp⟩

theorem endsUncovered_behind_loggers_iff (name : Text) (level : Level) (heap : Heap)
    (config : Ref) :
    EndsUncovered ((Edit.part "root" config (setLevel name)).andThen
        (Edit.part "handlers" config (lowerLevels name level)) heap) ↔
      (∀ root, heap.get? "root" config = some root → heap.IsMap root) ∧
        ∃ handlers, heap.get? "handlers" config = some handlers ∧ ¬ heap.IsMap handlers := by
  have hroot : ¬ EndsUncovered (Edit.part "root" config (setLevel name) heap) := by
    rw [endsUncovered_part_iff]
    rintro ⟨root, -, h⟩
    exact not_endsUncovered_setLevel name root heap h
  rw [Edit.endsUncovered_andThen_iff, or_iff_right hroot]
  simp only [endsUncovered_part_iff, endsUncovered_lowerLevels_iff]
  constructor
  · rintro ⟨next, hnext, handlers, hget, hmap⟩
    have hroots : ∀ root, heap.get? "root" config = some root → heap.IsMap root := by
      simpa only [part_eq_none_iff, setLevel_eq_none_iff] using congrArg Prod.snd hnext
    obtain ⟨other, hother, hset⟩ := exists_root_set name hroots
    cases hother.symm.trans hnext
    rw [hset.get?_of_ne (by decide)] at hget
    exact ⟨hroots, handlers, hget, mt hset.isMap_iff.mpr hmap⟩
  · rintro ⟨hroots, handlers, hget, hmap⟩
    obtain ⟨next, hnext, hset⟩ := exists_root_set name hroots
    exact ⟨next, hnext, handlers, (hset.get?_of_ne (by decide) config).trans hget,
      mt hset.isMap_iff.mp hmap⟩

theorem endsUncovered_overrideAll_iff (name : Text) (level : Level) (config : Graph) :
    EndsUncovered (overrideAll name level config.root config.heap) ↔ Exposed config := by
  rw [overrideAll, Edit.endsUncovered_andThen_iff, endsUncovered_part_iff, Exposed]
  simp only [endsUncovered_setLevels_iff, endsUncovered_behind_loggers_iff]
  apply or_congr_right
  have hframe {next : Heap} {touched : Nat → Prop}
      (hset : LevelsSet name touched config.heap next) :
      ((∀ root, next.get? "root" config.root = some root → next.IsMap root) ∧
        ∃ handlers, next.get? "handlers" config.root = some handlers ∧ ¬ next.IsMap handlers) ↔
      (∀ root, config.get? "root" = some root → config.heap.IsMap root) ∧
        ∃ handlers, config.get? "handlers" = some handlers ∧ ¬ config.heap.IsMap handlers := by
    rw [hset.get?_of_ne (by decide), hset.get?_of_ne (by decide)]
    simp only [hset.isMap_iff, Graph.get?]
  constructor
  · rintro ⟨next, hnext, h⟩
    have hloggers : ∀ loggers, config.get? "loggers" = some loggers →
        AcceptsLevels config.heap loggers := by
      simpa only [part_eq_none_iff, setLevels_eq_none_iff, Graph.get?] using
        congrArg Prod.snd hnext
    obtain ⟨other, _, hother, hset⟩ := exists_loggers_set name hloggers
    cases hother.symm.trans hnext
    exact ⟨hloggers, (hframe hset).mp h⟩
  · rintro ⟨hloggers, h⟩
    obtain ⟨next, _, hnext, hset⟩ := exists_loggers_set name hloggers
    exact ⟨next, hnext, (hframe hset).mpr h⟩

/-- The override ends in a fault that is not covered just if it comes to set levels at all, and the
configuration is exposed to it. -/
theorem endsUncovered_override_iff {asked : Text} {config : Graph} :
    EndsUncovered (override asked config) ↔
      (Level.ofName? (Level.capitals asked)).isSome ∧ Exposed config := by
  cases hlevel : Level.ofName? (Level.capitals asked) with
  | none =>
    simp only [override, hlevel]
    simp [Fault.isCovered, Fault.kind]
  | some level =>
    simp only [override, hlevel, Option.isSome_some, true_and]
    exact endsUncovered_overrideAll_iff (Level.capitals asked) level config

theorem override_of_ofName?_none {asked : Text} (h : Level.ofName? (Level.capitals asked) = none)
    (config : Graph) : override asked config = (config, some (.invalidLevel asked)) := by
  rw [override, h]

end ClientFacade.Log
