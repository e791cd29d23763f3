import ClientFacade.Facade.Identifier
import Mathlib.Data.List.Induction
import Mathlib.Data.List.Nodup

/-!
# Which names collide

The groups of a list of names are described without the pass that collects them: one group for each
identifier, in the order in which the identifiers occur first, with all the distinct names that fold
onto it, in the order in which they occur first. So a collision is a pair of different names with
one identifier, wherever the two stand.
-/

namespace ClientFacade

section FirstOccurrences

variable {α : Type} [BEq α] [LawfulBEq α] {items : List α} {item : α}

theorem eraseDups_concat_of_mem (h : item ∈ items) :
    (items ++ [item]).eraseDups = items.eraseDups := by
  simp [List.eraseDups_append, List.removeAll, h]

theorem eraseDups_concat_of_not_mem (h : item ∉ items) :
    (items ++ [item]).eraseDups = items.eraseDups ++ [item] := by
  simp [List.eraseDups_append, List.removeAll, h, List.eraseDups_cons]

theorem nodup_eraseDups (items : List α) : items.eraseDups.Nodup := by
  induction items using List.reverseRecOn with
  | nil => exact List.nodup_nil
  | append_singleton items item ih =>
    by_cases hmem : item ∈ items
    · rwa [eraseDups_concat_of_mem hmem]
    · rw [eraseDups_concat_of_not_mem hmem]
      refine ih.append (List.nodup_singleton item) ?_
      simpa using hmem

omit [BEq α] [LawfulBEq α] in
theorem one_lt_length_iff (h : items.Nodup) :
    1 < items.length ↔ ∃ first ∈ items, ∃ second ∈ items, first ≠ second := by
  rcases items with _ | ⟨a, _ | ⟨b, rest⟩⟩
  · simp
  · simp
  · have hab : a ≠ b := by
      rintro rfl
      simp at h
    simp only [List.length_cons, Nat.lt_add_left_iff_pos, Nat.zero_lt_succ, true_iff]
    exact ⟨a, by simp, b, by simp, hab⟩

end FirstOccurrences

namespace NameGroup

/-- The distinct names with the identifier `target`, in the order of their first occurrence. -/
def namesOf (target : Text) (names : List Text) : List Text :=
  names.eraseDups.filter fun name => ClientFacade.identifier name = target

theorem mem_namesOf {target name : Text} {names : List Text} :
    name ∈ namesOf target names ↔ name ∈ names ∧ ClientFacade.identifier name = target := by
  simp [namesOf]

theorem nodup_namesOf (target : Text) (names : List Text) : (namesOf target names).Nodup :=
  List.Nodup.filter _ (nodup_eraseDups names)

theorem namesOf_eq_nil {target : Text} {names : List Text}
    (h : target ∉ names.map ClientFacade.identifier) : namesOf target names = [] := by
  refine List.eq_nil_iff_forall_not_mem.mpr fun name hname => h ?_
  obtain ⟨hmem, rfl⟩ := mem_namesOf.mp hname
  exact List.mem_map_of_mem hmem

theorem insert_of_new {name : Text} {groups : List NameGroup}
    (h : ∀ group ∈ groups, group.identifier ≠ ClientFacade.identifier name) :
    insert name groups = groups ++ [⟨ClientFacade.identifier name, [name]⟩] := by
  induction groups with
  | nil => rfl
  | cons group rest ih =>
    have hrest := ih fun other hother => h other (List.mem_cons_of_mem _ hother)
    rw [insert, if_neg (h group List.mem_cons_self), hrest, List.cons_append]

theorem namesOf_concat_of_new {target name : Text} {names : List Text}
    (hid : ClientFacade.identifier name = target) (hnew : name ∉ names) :
    namesOf target (names ++ [name]) = namesOf target names ++ [name] := by
  rw [namesOf, eraseDups_concat_of_not_mem hnew, List.filter_append, namesOf]
  simp [hid]

theorem namesOf_concat_of_known {target name : Text} {names : List Text}
    (h : ClientFacade.identifier name ≠ target ∨ name ∈ names) :
    namesOf target (names ++ [name]) = namesOf target names := by
  by_cases hmem : name ∈ names
  · rw [namesOf, eraseDups_concat_of_mem hmem, namesOf]
  · have hid : ClientFacade.identifier name ≠ target := h.resolve_right hmem
    rw [namesOf, eraseDups_concat_of_not_mem hmem, List.filter_append, namesOf]
    simp [hid]

/-- The group of all the names with one identifier. -/
def groupOf (names : List Text) (target : Text) : NameGroup := ⟨target, namesOf target names⟩

theorem groupOf_concat_of_ne {target name : Text} {names : List Text}
    (h : target ≠ ClientFacade.identifier name) :
    groupOf (names ++ [name]) target = groupOf names target := by
  rw [groupOf, namesOf_concat_of_known (Or.inl h.symm), groupOf]

theorem map_groupOf_concat_of_new {targets names : List Text} {name : Text}
    (h : ClientFacade.identifier name ∉ targets) :
    targets.map (groupOf (names ++ [name])) = targets.map (groupOf names) := by
  refine List.map_congr_left fun target htarget => groupOf_concat_of_ne ?_
  rintro rfl
  exact h htarget

/-- Identifiers of groups are distinct, so that a known name reaches one group only. -/
theorem insert_of_known {targets names : List Text} {name : Text} (hnodup : targets.Nodup)
    (h : ClientFacade.identifier name ∈ targets) :
    insert name (targets.map (groupOf names)) = targets.map (groupOf (names ++ [name])) := by
  induction targets with
  | nil => exact absurd h List.not_mem_nil
  | cons target rest ih =>
    rw [List.nodup_cons] at hnodup
    rw [List.map_cons, List.map_cons, insert]
    by_cases hfirst : target = ClientFacade.identifier name
    · subst hfirst
      have hsame : (groupOf names (ClientFacade.identifier name)).identifier =
          ClientFacade.identifier name := rfl
      rw [if_pos hsame, map_groupOf_concat_of_new hnodup.1]
      by_cases hmem : name ∈ names
      · have hknown : name ∈ (groupOf names (ClientFacade.identifier name)).names :=
          mem_namesOf.mpr ⟨hmem, rfl⟩
        rw [if_pos hknown, groupOf, groupOf, namesOf_concat_of_known (Or.inr hmem)]
      · have hnew : name ∉ (groupOf names (ClientFacade.identifier name)).names :=
          fun hm => hmem (mem_namesOf.mp hm).1
        have hgrown : (groupOf (names ++ [name]) (ClientFacade.identifier name)).names =
            (groupOf names (ClientFacade.identifier name)).names ++ [name] :=
          namesOf_concat_of_new rfl hmem
        rw [if_neg hnew, ← hgrown]
        rfl
    · have hrest : ClientFacade.identifier name ∈ rest :=
        (List.mem_cons.mp h).resolve_left fun he => hfirst he.symm
      have hother : (groupOf names target).identifier ≠ ClientFacade.identifier name := hfirst
      rw [if_neg hother, ih hnodup.2 hrest, groupOf_concat_of_ne hfirst]

/-- The pass over the names collects exactly these groups. -/
theorem ofNames_eq (names : List Text) :
    ofNames names = (names.map ClientFacade.identifier).eraseDups.map (groupOf names) := by
  induction names using List.reverseRecOn with
  | nil => rfl
  | append_singleton names name ih =>
    have hstep : ofNames (names ++ [name]) = insert name (ofNames names) := by
      simp [ofNames]
    rw [hstep, ih, List.map_append, List.map_singleton]
    by_cases hknown : ClientFacade.identifier name ∈ names.map ClientFacade.identifier
    · rw [eraseDups_concat_of_mem hknown]
      exact insert_of_known (nodup_eraseDups _) (List.mem_eraseDups.mpr hknown)
    · have hnew : ∀ group ∈ (names.map ClientFacade.identifier).eraseDups.map (groupOf names),
          group.identifier ≠ ClientFacade.identifier name := by
        intro group hgroup heq
        obtain ⟨target, htarget, rfl⟩ := List.mem_map.mp hgroup
        obtain rfl : target = ClientFacade.identifier name := heq
        exact hknown (List.mem_eraseDups.mp htarget)
      have halone : groupOf (names ++ [name]) (ClientFacade.identifier name) =
          ⟨ClientFacade.identifier name, [name]⟩ := by
        have hnot : name ∉ names := fun hm => hknown (List.mem_map_of_mem hm)
        rw [groupOf, namesOf_concat_of_new rfl hnot, namesOf_eq_nil hknown, List.nil_append]
      have habsent : ClientFacade.identifier name ∉
          (names.map ClientFacade.identifier).eraseDups :=
        fun hm => hknown (List.mem_eraseDups.mp hm)
      rw [insert_of_new hnew, eraseDups_concat_of_not_mem hknown, List.map_append,
        List.map_singleton, halone, map_groupOf_concat_of_new habsent]

/-- A collision is a group of all the distinct names with one identifier, if there are several. -/
theorem mem_collisions_iff {group : NameGroup} {names : List Text} :
    group ∈ collisions names ↔
      group.names = namesOf group.identifier names ∧ 1 < group.names.length := by
  rw [collisions, List.mem_filter, ofNames_eq, List.mem_map, decide_eq_true_iff]
  constructor
  · rintro ⟨⟨target, -, rfl⟩, hlength⟩
    exact ⟨rfl, hlength⟩
  · rintro ⟨hnames, hlength⟩
    refine ⟨⟨group.identifier, List.mem_eraseDups.mpr ?_, by rw [groupOf, ← hnames]⟩, hlength⟩
    by_contra hnot
    rw [hnames, namesOf_eq_nil hnot] at hlength
    exact absurd hlength (Nat.not_lt_zero 1)

theorem collisions_eq_nil_iff {names : List Text} :
    collisions names = [] ↔ ∀ first ∈ names, ∀ second ∈ names,
      ClientFacade.identifier first = ClientFacade.identifier second → first = second := by
  constructor
  · intro hnone first hfirst second hsecond hid
    by_contra hne
    have hlength : 1 < (namesOf (ClientFacade.identifier second) names).length :=
      (one_lt_length_iff (nodup_namesOf _ _)).mpr ⟨first, mem_namesOf.mpr ⟨hfirst, hid⟩,
        second, mem_namesOf.mpr ⟨hsecond, rfl⟩, hne⟩
    have hmem : NameGroup.mk _ _ ∈ collisions names := mem_collisions_iff.mpr ⟨rfl, hlength⟩
    rw [hnone] at hmem
    exact absurd hmem List.not_mem_nil
  · intro hinjective
    refine List.eq_nil_iff_forall_not_mem.mpr fun group hgroup => ?_
    obtain ⟨hnames, hlength⟩ := mem_collisions_iff.mp hgroup
    rw [hnames, one_lt_length_iff (nodup_namesOf _ _)] at hlength
    obtain ⟨first, hfirst, second, hsecond, hne⟩ := hlength
    obtain ⟨hfirst, hid⟩ := mem_namesOf.mp hfirst
    obtain ⟨hsecond, hid'⟩ := mem_namesOf.mp hsecond
    exact hne (hinjective first hfirst second hsecond (hid.trans hid'.symm))

theorem nodup_map_identifier {names : List Text} (h : collisions names = []) :
    (names.eraseDups.map ClientFacade.identifier).Nodup := by
  refine List.Nodup.map_on (fun first hfirst second hsecond hid => ?_) (nodup_eraseDups names)
  exact collisions_eq_nil_iff.mp h first (List.mem_eraseDups.mp hfirst) second
    (List.mem_eraseDups.mp hsecond) hid

end NameGroup

end ClientFacade
