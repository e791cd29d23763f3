import ClientFacade.Proofs.Facade.Collision
import Mathlib.Data.List.Perm.Basic
import Mathlib.Data.List.Sort
import Mathlib.Data.Set.Function

/-!
# What the collisions say

The collisions of a list of names are determined by what they have to say: which identifiers are
shared by different names, and which names share each of them, both in the order of their first
occurrence. An identifier may occur first through a name that occurs again only later, or through
one that stands far from the name it collides with. Nothing is said twice.
-/

namespace ClientFacade

section FirstOccurrences

variable {α : Type} [BEq α] {source items others : List α} {p : α → Prop}

/-- The items of the source with a property, each of them once, in the order of their first
occurrence in the source. -/
structure FirstOccurrences (source : List α) (p : α → Prop) (items : List α) : Prop where
  mem_iff : ∀ item, item ∈ items ↔ item ∈ source ∧ p item
  ordered : items.Pairwise fun first second => source.idxOf first < source.idxOf second

theorem FirstOccurrences.nodup (h : FirstOccurrences source p items) : items.Nodup := by
  refine h.ordered.imp fun hlt => ?_
  rintro rfl
  exact Nat.lt_irrefl _ hlt

/-- What occurs and in which order leaves no choice. -/
theorem FirstOccurrences.unique (h : FirstOccurrences source p items)
    (hothers : FirstOccurrences source p others) : items = others := by
  have hperm : items.Perm others := (List.perm_ext_iff_of_nodup h.nodup hothers.nodup).mpr
    fun item => (h.mem_iff item).trans (hothers.mem_iff item).symm
  refine List.Perm.eq_of_pairwise (fun _ _ _ _ hlt hgt => ?_) h.ordered hothers.ordered hperm
  exact absurd hgt (Nat.lt_asymm hlt)

variable [LawfulBEq α]

theorem pairwise_idxOf_eraseDups (source : List α) :
    source.eraseDups.Pairwise fun first second => source.idxOf first < source.idxOf second := by
  induction source using List.reverseRecOn with
  | nil => exact .nil
  | append_singleton source item ih =>
    have hbefore : source.eraseDups.Pairwise fun first second =>
        (source ++ [item]).idxOf first < (source ++ [item]).idxOf second := by
      refine ih.imp_of_mem fun hfirst hsecond hlt => ?_
      rwa [List.idxOf_append_of_mem (List.mem_eraseDups.mp hfirst),
        List.idxOf_append_of_mem (List.mem_eraseDups.mp hsecond)]
    by_cases hmem : item ∈ source
    · rwa [eraseDups_concat_of_mem hmem]
    · rw [eraseDups_concat_of_not_mem hmem]
      refine List.pairwise_append.mpr ⟨hbefore, List.pairwise_singleton _ item, ?_⟩
      intro first hfirst last hlast
      have hfirst : first ∈ source := List.mem_eraseDups.mp hfirst
      rw [List.mem_singleton.mp hlast, List.idxOf_append_of_mem hfirst,
        List.idxOf_append_of_notMem hmem]
      exact Nat.lt_of_lt_of_le (List.idxOf_lt_length_of_mem hfirst) (Nat.le_add_right _ _)

theorem firstOccurrences_filter {select : α → Bool}
    (hselect : ∀ item, select item = true ↔ p item) :
    FirstOccurrences source p (source.eraseDups.filter select) where
  mem_iff item := by rw [List.mem_filter, List.mem_eraseDups, hselect]
  ordered := (pairwise_idxOf_eraseDups source).filter select

end FirstOccurrences

namespace NameGroup

def Shared (names : List Text) (target : Text) : Prop :=
  ∃ first ∈ names, ∃ second ∈ names, first ≠ second ∧
    ClientFacade.identifier first = target ∧ ClientFacade.identifier second = target

theorem one_lt_length_namesOf_iff {names : List Text} {target : Text} :
    1 < (namesOf target names).length ↔ Shared names target := by
  rw [one_lt_length_iff (nodup_namesOf target names), Shared]
  simp only [mem_namesOf]
  constructor
  · rintro ⟨first, ⟨hfirst, hid⟩, second, ⟨hsecond, hid'⟩, hne⟩
    exact ⟨first, hfirst, second, hsecond, hne, hid, hid'⟩
  · rintro ⟨first, hfirst, second, hsecond, hne, hid, hid'⟩
    exact ⟨first, ⟨hfirst, hid⟩, second, ⟨hsecond, hid'⟩, hne⟩

theorem firstOccurrences_namesOf (target : Text) (names : List Text) :
    FirstOccurrences names (ClientFacade.identifier · = target) (namesOf target names) :=
  firstOccurrences_filter fun _ => decide_eq_true_iff

/-- The identifiers of the collisions are those of all names, less those that one name has for
itself. -/
theorem identifiers_collisions (names : List Text) :
    (collisions names).map (·.identifier) =
      (names.map ClientFacade.identifier).eraseDups.filter
        fun target => 1 < (namesOf target names).length := by
  rw [collisions, ofNames_eq, List.filter_map, List.map_map]
  exact List.map_id _

/-- What the groups say about the names: the shared identifiers, and with each of them the names
that share it. -/
structure Tells (names : List Text) (groups : List NameGroup) : Prop where
  identifiers : FirstOccurrences (names.map ClientFacade.identifier) (Shared names)
    (groups.map (·.identifier))
  names : ∀ group ∈ groups,
    FirstOccurrences names (ClientFacade.identifier · = group.identifier) group.names

theorem tells_collisions (names : List Text) : Tells names (collisions names) where
  identifiers := by
    rw [identifiers_collisions]
    refine firstOccurrences_filter fun target => ?_
    rw [decide_eq_true_iff, one_lt_length_namesOf_iff]
  names := by
    intro group hgroup
    rw [(mem_collisions_iff.mp hgroup).1]
    exact firstOccurrences_namesOf group.identifier names

/-- The identifiers fix the groups, since each group holds the names of its identifier. -/
theorem Tells.unique {names : List Text} {groups others : List NameGroup} (h : Tells names groups)
    (hothers : Tells names others) : groups = others := by
  have hgroups : ∀ {told : List NameGroup}, Tells names told →
      told = (told.map (·.identifier)).map (groupOf names) := by
    intro told htold
    rw [List.map_map]
    refine (List.map_id' told).symm.trans (List.map_congr_left fun group hgroup => ?_)
    have hnames := (htold.names group hgroup).unique
      (firstOccurrences_namesOf group.identifier names)
    rw [Function.comp_apply, groupOf, ← hnames]
  rw [hgroups h, hgroups hothers, h.identifiers.unique hothers.identifiers]

/-- The collisions are the one list of groups that tells exactly the shared identifiers with the
names that share them, in order. There are none just if different names never share an
identifier. -/
theorem collisions_tell_exactly (names : List Text) (groups : List NameGroup) :
    (groups = collisions names ↔ Tells names groups) ∧
      (collisions names = [] ↔
        Set.InjOn ClientFacade.identifier {name | name ∈ names}) := by
  refine ⟨⟨?_, fun h => h.unique (tells_collisions names)⟩, ?_⟩
  · rintro rfl
    exact tells_collisions names
  · rw [collisions_eq_nil_iff]
    exact ⟨fun h first hfirst second hsecond => h first hfirst second hsecond,
      fun h first hfirst second hsecond => h hfirst hsecond⟩

/-- The identifier of `FOO` comes first although `Bar` and `BAR` are the first to collide. -/
example : collisions ["FOO", "Bar", "BAR", "Bar", "Shop", "Foo"] =
    [⟨"@foo_client", ["FOO", "Foo"]⟩, ⟨"@bar_client", ["Bar", "BAR"]⟩] := by decide +kernel

end NameGroup

end ClientFacade
