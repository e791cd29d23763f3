import ClientFacade.Proofs.Outcome
import ClientFacade.Store.Basic
import Mathlib.Data.List.Basic

/-!
# What saving a file changes

Making directories only adds to a store, and every new entry is the directory of a path that was
asked for. A walk that succeeds before it succeeds after it. Writing a file changes one place, which
is no directory, so it can be read back at once: no walk to it comes through that place.
-/

namespace ClientFacade

open Utf8 (Bytes)

namespace Store

theorem lookup_put (place other : Place) (entry : Entry) (entries : List (Place × Entry)) :
    (put place entry entries).lookup other =
      if other = place then some entry else entries.lookup other := by
  induction entries with
  | nil =>
    rw [put, List.lookup_cons, List.lookup_nil]
    by_cases h : other = place
    · simp [h]
    · simp [h, beq_eq_false_iff_ne.mpr h]
  | cons head rest ih =>
    obtain ⟨name, old⟩ := head
    rw [put, List.lookup_cons]
    by_cases h : other = name
    · subst h
      by_cases hplace : other = place <;> simp [hplace]
    · have hne : (other == name) = false := beq_eq_false_iff_ne.mpr h
      by_cases hname : name = place
      · subst hname
        simp [h, hne, List.lookup_cons]
      · simp [hname, hne, ih, List.lookup_cons]

theorem entry_set {store : Store} {place : Place} (h : store.entry? place ≠ some .directory)
    (entry : Entry) (other : Place) :
    Store.entry? (store.set place entry) other =
      if other = place then some entry else store.entry? other := by
  have hbase : place.isPrefixOf store.base = false :=
    Bool.eq_false_iff.mpr fun hprefix => h (if_pos hprefix)
  unfold entry? set
  dsimp only
  rw [lookup_put]
  by_cases hother : other = place
  · rw [hother, hbase]
    rfl
  · rw [if_neg hother, if_neg hother]

/-- The directories of one store are in another one, which has the same working directory. -/
structure Keeps (before after : Store) : Prop where
  base : after.base = before.base
  directory : ∀ place, before.entry? place = some .directory →
    after.entry? place = some .directory

theorem keeps_set {store : Store} {place : Place} (h : store.entry? place ≠ some .directory)
    (entry : Entry) : Keeps store (store.set place entry) where
  base := rfl
  directory other hother := by
    rw [entry_set h, if_neg, hother]
    rintro rfl
    exact h hother

variable {store before middle after made : Store} {path : Path} {place : Place}

theorem step_ok {name : Text} {next : Place} (h : store.step place name = .ok next) :
    store.entry? place = some .directory := by
  unfold step at h
  split at h
  · cases h
  · cases h
  · next hentry => exact hentry

theorem Keeps.step {name : Text} {next : Place} (hkeeps : Keeps before after)
    (h : before.step place name = .ok next) : after.step place name = .ok next := by
  have hentry := step_ok h
  rw [Store.step, hkeeps.directory place hentry]
  rw [Store.step, hentry] at h
  exact h

/-- A step looks at directories only, so what comes to the store besides them does not matter. -/
theorem Keeps.walk (hkeeps : Keeps before after) {names : List Text} {found : Place}
    (h : before.walk place names = .ok found) : after.walk place names = .ok found := by
  induction names generalizing place with
  | nil => exact h
  | cons name rest ih =>
    obtain ⟨next, hstep, hrest⟩ := except_bind_eq_ok_iff.mp h
    exact except_bind_eq_ok_iff.mpr ⟨next, hkeeps.step hstep, ih hrest⟩

theorem Keeps.locate (hkeeps : Keeps before after) (h : before.locate path = .ok place) :
    after.locate path = .ok place := by
  have hstart : after.start path = before.start path := by rw [start, start, hkeeps.base]
  unfold Store.locate at h ⊢
  split_ifs at h ⊢
  rw [except_mapError_eq_ok_iff] at h ⊢
  rw [hstart]
  exact hkeeps.walk h

/-- One store comes from another by making directories at some of the paths in `wanted`. -/
structure Grown (wanted : Path → Prop) (before after : Store) : Prop where
  base : after.base = before.base
  entries : ∀ place, after.entry? place = before.entry? place ∨
    before.entry? place = none ∧ after.entry? place = some .directory ∧
      ∃ path, wanted path ∧ after.locate path = .ok place

variable {wanted : Path → Prop}

theorem Grown.refl (wanted : Path → Prop) (store : Store) : Grown wanted store store :=
  ⟨rfl, fun _ => .inl rfl⟩

theorem Grown.keeps (h : Grown wanted before after) : Keeps before after where
  base := h.base
  directory place hplace := by
    rcases h.entries place with heq | ⟨hnone, -, -⟩
    · rw [heq, hplace]
    · rw [hnone] at hplace
      cases hplace

theorem Grown.trans (h : Grown wanted before middle) (h' : Grown wanted middle after) :
    Grown wanted before after where
  base := h'.base.trans h.base
  entries place := by
    rcases h.entries place with heq | ⟨hnone, hdirectory, path, hpath, hlocate⟩
    · rw [← heq]
      exact h'.entries place
    · refine .inr ⟨hnone, h'.keeps.directory place hdirectory, path, hpath, ?_⟩
      exact h'.keeps.locate hlocate

theorem Grown.mono {others : Path → Prop} (himp : ∀ path, wanted path → others path)
    (h : Grown wanted before after) : Grown others before after where
  base := h.base
  entries place := (h.entries place).imp_right fun ⟨hnone, hdirectory, path, hpath, hlocate⟩ =>
    ⟨hnone, hdirectory, path, himp path hpath, hlocate⟩

theorem grown_of_makeDirectory (h : store.makeDirectory path = .ok made) :
    Grown (· = path) store made := by
  obtain ⟨found, hlocate, hmade⟩ := except_bind_eq_ok_iff.mp h
  cases hentry : store.entry? found with
  | some entry => simp [hentry] at hmade
  | none =>
    simp only [hentry, Except.ok.injEq] at hmade
    subst hmade
    have hnot : store.entry? found ≠ some .directory := by simp [hentry]
    refine ⟨rfl, fun place => ?_⟩
    rw [entry_set hnot]
    by_cases hplace : place = found
    · subst hplace
      exact .inr ⟨hentry, if_pos rfl, path, rfl, (keeps_set hnot _).locate hlocate⟩
    · exact .inl (if_neg hplace)

theorem grown_ensureDirectory (store : Store) (path : Path) :
    Grown (· = path) store (store.ensureDirectory path).store := by
  unfold ensureDirectory
  cases hmake : store.makeDirectory path with
  | ok made => exact grown_of_makeDirectory hmake
  | error fault => exact .refl _ store

/-- The paths from the root of a path to the path itself. -/
def UpTo (root : Root) (names : List Text) (path : Path) : Prop :=
  path.root = root ∧ path.names <+: names

theorem grown_makeDirectories (store : Store) (root : Root) (names : List Text) :
    Grown (UpTo root names.reverse) store (store.makeDirectories root names).store := by
  induction names generalizing store with
  | nil =>
    refine (grown_ensureDirectory store _).mono ?_
    rintro - rfl
    exact ⟨rfl, List.prefix_rfl⟩
  | cons name above ih =>
    have hself : ∀ path, path = ⟨root, (name :: above).reverse⟩ →
        UpTo root (name :: above).reverse path := by
      rintro - rfl
      exact ⟨rfl, List.prefix_rfl⟩
    have habove : Grown (UpTo root (name :: above).reverse) store
        (store.makeDirectories root above).store := by
      refine (ih store).mono fun path hpath => ⟨hpath.1, hpath.2.trans ?_⟩
      rw [List.reverse_cons]
      exact List.prefix_append ..
    rw [makeDirectories]
    dsimp only
    split
    · split
      · exact habove
      · exact habove.trans ((grown_ensureDirectory _ _).mono hself)
    · exact (grown_ensureDirectory store _).mono hself

end Store

def Path.IsAbove (above path : Path) : Prop :=
  above.root = path.root ∧ above.names <+: path.names.dropLast

namespace Store

variable {store before after : Store} {path : Path} {bytes : Bytes}

theorem grown_makeParents (store : Store) (path : Path) :
    Grown (·.IsAbove path) store (store.makeParents path).store := by
  have hgrown := store.grown_makeDirectories path.parent.root path.parent.names.reverse
  rw [List.reverse_reverse] at hgrown
  exact hgrown

theorem write_ok {written : Store} (h : store.write path bytes = .ok written) :
    ∃ place, store.locate path = .ok place ∧ store.entry? place ≠ some .directory ∧
      written = store.set place (.file bytes) := by
  obtain ⟨place, hlocate, hwritten⟩ := except_bind_eq_ok_iff.mp h
  refine ⟨place, hlocate, ?_⟩
  split at hwritten
  · cases hwritten
  · next hentry => exact ⟨hentry, (Except.ok.inj hwritten).symm⟩

/-- A file is saved: its path leads to it, and besides it only directories above it are new. -/
structure Saved (path : Path) (bytes : Bytes) (before after : Store) : Prop where
  base : after.base = before.base
  content : after.read path = .ok bytes
  others : ∀ place, after.locate path = .ok place ∨
    after.entry? place = before.entry? place ∨
    before.entry? place = none ∧ after.entry? place = some .directory ∧
      ∃ above : Path, above.IsAbove path ∧ after.locate above = .ok place

theorem saved_of_write {middle : Store} (hgrown : Grown (·.IsAbove path) before middle)
    (h : middle.write path bytes = .ok after) : Saved path bytes before after := by
  obtain ⟨found, hlocate, hentry, rfl⟩ := write_ok h
  have hkeeps := keeps_set hentry (.file bytes)
  have hfound := hkeeps.locate hlocate
  refine ⟨hgrown.base, ?_, fun place => ?_⟩
  · simp [read, find, hfound, entry_set hentry, bind, Except.bind]
  · by_cases hplace : place = found
    · exact .inl (hplace ▸ hfound)
    · rw [entry_set hentry, if_neg hplace]
      refine .inr ((hgrown.entries place).imp_right ?_)
      rintro ⟨hnone, hdirectory, above, habove, hplace⟩
      exact ⟨hnone, hdirectory, above, habove, hkeeps.locate hplace⟩

theorem saved_of_save (h : (store.save path bytes).fault = none) :
    Saved path bytes store (store.save path bytes).store := by
  have hgrown := store.grown_makeParents path
  unfold save at h ⊢
  dsimp only at h ⊢
  cases hparents : (store.makeParents path).fault with
  | some fault => simp [hparents] at h
  | none =>
    cases hwrite : (store.makeParents path).store.write path bytes with
    | error fault => simp [hparents, hwrite] at h
    | ok written => exact saved_of_write hgrown hwrite

/-- An attempt that fails has made directories above the file at most. -/
theorem grown_of_save {fault : Fault} (h : (store.save path bytes).fault = some fault) :
    Grown (·.IsAbove path) store (store.save path bytes).store := by
  have hgrown := store.grown_makeParents path
  unfold save at h ⊢
  dsimp only at h ⊢
  cases hparents : (store.makeParents path).fault with
  | some fault => exact hgrown
  | none =>
    cases hwrite : (store.makeParents path).store.write path bytes with
    | error fault => exact hgrown
    | ok written => simp [hparents, hwrite] at h

end Store

end ClientFacade
