import Mathlib.Algebra.BigOperators.Group.List.Basic
import Mathlib.Data.Finset.Card
import Mathlib.Data.List.Forall2
import Mathlib.Data.List.Nodup
import MediaIndex.Proofs.Grouping.Batch
import MediaIndex.Proofs.Store.Sound

/-!
# Grouping is a partition

A value vector has one value for each column. A copy of an item admits a vector when it has each of its
values in the column of the value. The groups of a computed batch are the vectors that some copy admits,
each with the items that have such a copy.

* `Grouper.Admits`, `mem_vectors` -- the vectors of a copy are those that it admits;
* `Batch.Partitions` -- the groups of a batch are the vectors that items admit;
* `partitions_compute` -- the computed batch is such a partition;
* `Batch.Partitions.unique` -- and there is no other;
* `groupCount_compute_singleton` -- the number of groups that one copy is in;
* `compute_is_the_partition` -- all of it, for every list of items.
-/

namespace MediaIndex

/-! ## 1. Vectors -/

theorem mem_choices {lists : List (List String)} {vector : List String} :
    vector ∈ choices lists ↔ List.Forall₂ (· ∈ ·) vector lists := by
  induction lists generalizing vector with
  | nil => rw [choices, List.mem_singleton, List.forall₂_nil_right_iff]
  | cons values rest ih =>
    rw [choices, List.mem_flatMap, List.forall₂_cons_right_iff]
    constructor
    · intro h
      obtain ⟨v, hv, h⟩ := h
      obtain ⟨w, hw, rfl⟩ := List.mem_map.mp h
      exact ⟨v, w, hv, ih.mp hw, rfl⟩
    · intro h
      obtain ⟨v, w, hv, hw, rfl⟩ := h
      exact ⟨v, hv, List.mem_map_of_mem (ih.mpr hw)⟩

theorem length_choices (lists : List (List String)) :
    (choices lists).length = (lists.map List.length).prod := by
  induction lists with
  | nil => rfl
  | cons values rest ih =>
    have hconst : (values.map fun v => ((choices rest).map (v :: ·)).length) =
        values.map fun _ => (choices rest).length :=
      List.map_congr_left fun _ _ => List.length_map _
    rw [choices, List.length_flatMap, hconst, List.map_const', List.sum_replicate_nat, ih,
      List.map_cons, List.prod_cons]

theorem nodup_choices {lists : List (List String)} (h : ∀ values ∈ lists, values.Nodup) :
    (choices lists).Nodup := by
  induction lists with
  | nil => exact List.nodup_singleton _
  | cons values rest ih =>
    have hrest : (choices rest).Nodup := ih fun l hl => h l (List.mem_cons_of_mem _ hl)
    have hvalues : values.Nodup := h values List.mem_cons_self
    refine List.nodup_flatMap.mpr ⟨fun v _ => hrest.map fun _ _ e => (List.cons.inj e).2, ?_⟩
    refine hvalues.imp fun hne vector hv hw => ?_
    obtain ⟨u, -, rfl⟩ := List.mem_map.mp hv
    obtain ⟨w, -, e⟩ := List.mem_map.mp hw
    exact hne (List.cons.inj e).1.symm

theorem nodup_eraseDups (values : List String) : values.eraseDups.Nodup := by
  generalize hn : values.length = n
  induction n using Nat.strongRecOn generalizing values with
  | _ n ih =>
    subst hn
    cases values with
    | nil => exact List.nodup_nil
    | cons v rest =>
      have hle : (rest.filter fun w => !w == v).length ≤ rest.length := List.length_filter_le _ rest
      rw [List.eraseDups_cons, List.nodup_cons]
      refine ⟨fun hm => ?_, ih _ (Nat.lt_succ_of_le hle) _ rfl⟩
      have hv := (List.mem_filter.mp (List.mem_eraseDups.mp hm)).2
      simp at hv

theorem nodup_valuesOf (text : String) : (valuesOf text).Nodup := by
  unfold valuesOf
  dsimp only
  split
  · exact List.nodup_singleton _
  · exact nodup_eraseDups _

namespace Grouper

variable {g : Grouper} {columns : List Column} {item : Item} {vector : List String}

/-- A copy of an item has each value of the vector in the column of the value. -/
def Admits (g : Grouper) (columns : List Column) (item : Item) (vector : List String) : Prop :=
  List.Forall₂ (fun value column => value ∈ g.values item column) vector (orUnclassified columns)

theorem mem_vectors :
    vector ∈ g.vectors (orUnclassified columns) item ↔ g.Admits columns item vector := by
  rw [vectors, mem_choices, List.forall₂_map_right_iff]
  rfl

theorem nodup_values (g : Grouper) (item : Item) (column : Column) : (g.values item column).Nodup := by
  unfold values
  split
  · exact List.nodup_singleton _
  · exact nodup_valuesOf _

/-- A copy has as many vectors as there are ways to choose among its values. -/
theorem length_vectors (g : Grouper) (columns : List Column) (item : Item) :
    (g.vectors columns item).length =
      (columns.map fun column => (g.values item column).toFinset.card).prod := by
  have hcard (column : Column) : (g.values item column).toFinset.card = (g.values item column).length :=
    List.toFinset_card_of_nodup (g.nodup_values item column)
  rw [vectors, length_choices, List.map_map]
  simp only [hcard]
  rfl

theorem Admits.separable (h : g.Admits columns item vector) : Separable vector :=
  g.separable_of_mem_vectors (orUnclassified_ne_nil columns) (mem_vectors.mpr h)

/-- The keys of different vectors of a copy are different. -/
theorem nodup_map_compose (g : Grouper) (columns : List Column) (item : Item) :
    ((g.vectors (orUnclassified columns) item).map GroupKey.compose).Nodup := by
  have hn : (g.vectors (orUnclassified columns) item).Nodup := by
    refine nodup_choices fun values hm => ?_
    obtain ⟨column, -, rfl⟩ := List.mem_map.mp hm
    exact g.nodup_values item column
  refine List.Nodup.map_on (fun u hu v hv e => ?_) hn
  exact (mem_vectors.mp hu).separable.compose_inj (mem_vectors.mp hv).separable e

end Grouper

/-! ## 2. The partition -/

/-- The groups of the batch are the value vectors that some of the items admit. -/
structure Batch.Partitions (b : Batch) (g : Grouper) (columns : List Column) (items : List Item) :
    Prop where
  requested : ∀ id, id ∈ b.requested ↔ ∃ item ∈ items, item.id = id
  /-- The keys of the groups are those of the vectors. -/
  keys : ∀ key, key ∈ b.groups ↔
    ∃ item ∈ items, ∃ vector, g.Admits columns item vector ∧ GroupKey.compose vector = key
  /-- The group of a vector shows it, and holds the items that have a copy which admits it. -/
  group : ∀ item ∈ items, ∀ vector, g.Admits columns item vector →
    ∃ group : Group, b.groups[GroupKey.compose vector]? = some group ∧ group.display = vector ∧
      ∀ id, id ∈ group.members ↔ ∃ item ∈ items, item.id = id ∧ g.Admits columns item vector
  /-- Two vectors never share a group. -/
  apart : ∀ item item' u v, g.Admits columns item u → g.Admits columns item' v →
    GroupKey.compose u = GroupKey.compose v → u = v
  /-- Every item that was asked for is in a group. -/
  covered : ∀ id ∈ b.requested, ∃ key, b.Puts key id
  /-- No group is empty. -/
  inhabited : ∀ (key : GroupKey) (group : Group), b.groups[key]? = some group → group.members ≠ ∅

section Partition

variable {g : Grouper} {columns : List Column} {items items' : List Item} {b b' : Batch}

/-- An item is in the group of a vector by the copies that admit it. -/
theorem Grouper.puts_compute_iff_admits {item : Item} {vector : List String} {id : ItemId}
    (h : g.Admits columns item vector) : (g.compute items columns).Puts (GroupKey.compose vector) id ↔
      ∃ item ∈ items, item.id = id ∧ g.Admits columns item vector := by
  rw [puts_compute]
  refine exists_congr fun other => and_congr_right fun _ => and_congr_right fun _ => ?_
  rw [mem_keySet]
  constructor
  · intro hx
    obtain ⟨u, hu, e⟩ := hx
    have hu : g.Admits columns other u := mem_vectors.mp hu
    rwa [← hu.separable.compose_inj h.separable e]
  · exact fun hv => ⟨vector, mem_vectors.mpr hv, rfl⟩

/-- There is a group for every key under which some item is put. -/
theorem Batch.Sound.mem_groups_iff (h : b.Sound) {key : GroupKey} : key ∈ b.groups ↔ ∃ id, b.Puts key id := by
  rw [Std.ExtTreeMap.mem_iff_isSome_getElem?, Option.isSome_iff_exists]
  constructor
  · intro hx
    obtain ⟨group, hg⟩ := hx
    obtain ⟨id, hid⟩ := Store.exists_mem_of_ne_empty (h.inhabited hg)
    exact ⟨id, group, hg, hid⟩
  · intro hx
    obtain ⟨id, group, hg, -⟩ := hx
    exact ⟨group, hg⟩

/-- **The computed batch is the partition of the items by their value vectors.** -/
theorem Grouper.partitions_compute (g : Grouper) (columns : List Column) (items : List Item) :
    (g.compute items columns).Partitions g columns items := by
  have hsound : (g.compute items columns).Sound := g.sound_compute items
  have puts {item : Item} (hm : item ∈ items) {vector : List String} (hv : g.Admits columns item vector) :
      (g.compute items columns).Puts (GroupKey.compose vector) item.id :=
    (Grouper.puts_compute_iff_admits hv).mpr ⟨item, hm, rfl, hv⟩
  refine ⟨fun id => Grouper.mem_requested_compute, fun key => ⟨fun hk => ?_, fun hx => ?_⟩,
    fun item hm vector hv => ?_, fun item item' u v hu hv => hu.separable.compose_inj hv.separable,
    fun id hid => ?_, fun key group => hsound.inhabited⟩
  · -- a group has a member, and the member a copy with the key
    obtain ⟨id, hp⟩ := hsound.mem_groups_iff.mp hk
    obtain ⟨item, hm, -, hkey⟩ := Grouper.puts_compute.mp hp
    obtain ⟨vector, hv, e⟩ := Grouper.mem_keySet.mp hkey
    exact ⟨item, hm, vector, Grouper.mem_vectors.mp hv, e⟩
  · obtain ⟨item, hm, vector, hv, rfl⟩ := hx
    exact hsound.mem_groups_iff.mpr ⟨_, puts hm hv⟩
  · obtain ⟨group, hg, -⟩ := puts hm hv
    refine ⟨group, hg, (hsound.separable hg).compose_inj hv.separable (hsound.compose hg), fun id => ?_⟩
    rw [← Grouper.puts_compute_iff_admits hv]
    constructor
    · exact fun hid => ⟨group, hg, hid⟩
    · intro hp
      obtain ⟨other, ho, hid⟩ := hp
      rw [hg] at ho
      cases ho
      exact hid
  · obtain ⟨item, hm, rfl⟩ := Grouper.mem_requested_compute.mp hid
    obtain ⟨key, hk⟩ := Store.exists_mem_of_ne_empty (g.keySet_ne_empty columns item)
    exact ⟨key, Grouper.puts_compute.mpr ⟨item, hm, rfl, hk⟩⟩

/-- **There is only one partition.** -/
theorem Batch.Partitions.unique (h : b.Partitions g columns items) (h' : b'.Partitions g columns items) :
    b = b' := by
  have hrequested : b.requested = b'.requested :=
    Std.ExtTreeSet.ext_mem fun id => (h.requested id).trans (h'.requested id).symm
  have hgroups : b.groups = b'.groups := by
    refine Std.ExtTreeMap.ext_getElem? fun key => ?_
    by_cases hk : key ∈ b.groups
    · obtain ⟨item, hm, vector, hv, rfl⟩ := (h.keys key).mp hk
      obtain ⟨group, hg, hd, hmem⟩ := h.group item hm vector hv
      obtain ⟨group', hg', hd', hmem'⟩ := h'.group item hm vector hv
      have hmembers : group.members = group'.members :=
        Std.ExtTreeSet.ext_mem fun id => (hmem id).trans (hmem' id).symm
      cases group
      cases group'
      rw [hg, hg']
      exact congrArg some (congrArg₂ Group.mk (hd.trans hd'.symm) hmembers)
    · have hk' : key ∉ b'.groups := fun hk' => hk ((h.keys key).mpr ((h'.keys key).mp hk'))
      rw [Std.ExtTreeMap.getElem?_eq_none hk, Std.ExtTreeMap.getElem?_eq_none hk']
  cases b
  cases b'
  exact congrArg₂ Batch.mk hgroups hrequested

/-- A partition depends on which items there are, not on their order or how often each is there. -/
theorem Batch.Partitions.congr (h : b.Partitions g columns items)
    (hm : ∀ item, item ∈ items' ↔ item ∈ items) : b.Partitions g columns items' where
  requested id := by simp only [hm, h.requested]
  keys key := by simp only [hm, h.keys]
  group item hi vector hv := by
    simp only [hm]
    exact h.group item ((hm item).mp hi) vector hv
  apart := h.apart
  covered := h.covered
  inhabited := h.inhabited

/-- **One copy of an item is in as many groups as there are ways to choose one of its values in each
    column.** -/
theorem Grouper.groupCount_compute_singleton (g : Grouper) (columns : List Column) (item : Item) :
    (g.compute [item] columns).groupCount =
      ((orUnclassified columns).map fun column => (g.values item column).toFinset.card).prod := by
  have hp := g.partitions_compute columns [item]
  have hkeys : (g.compute [item] columns).groups.keys.Perm
      ((g.vectors (orUnclassified columns) item).map GroupKey.compose) := by
    refine (List.perm_ext_iff_of_nodup Std.ExtTreeMap.nodup_keys (g.nodup_map_compose columns item)).mpr
      fun key => ?_
    rw [Std.ExtTreeMap.mem_keys, hp.keys, List.mem_map]
    simp only [List.mem_singleton, exists_eq_left, Grouper.mem_vectors]
  rw [Batch.groupCount, ← Std.ExtTreeMap.length_keys, hkeys.length_eq, List.length_map, g.length_vectors]

/-- **Grouping is the partition by value vectors**: the computed batch is the one batch whose groups are the
    vectors that items admit, whatever the order of the items; and one copy is in as many groups as there
    are ways to choose one of its values in each column. -/
theorem Grouper.compute_is_the_partition (g : Grouper) (columns : List Column) (items : List Item) :
    (∀ b : Batch, b.Partitions g columns items ↔ b = g.compute items columns) ∧
    (∀ items', items'.Perm items → g.compute items' columns = g.compute items columns) ∧
    ∀ item, (g.compute [item] columns).groupCount =
      ((orUnclassified columns).map fun column => (g.values item column).toFinset.card).prod := by
  have hp := g.partitions_compute columns items
  refine ⟨fun b => ⟨fun h => h.unique hp, fun e => e ▸ hp⟩, fun items' hperm => ?_,
    g.groupCount_compute_singleton columns⟩
  exact ((g.partitions_compute columns items').congr fun item => hperm.symm.mem_iff).unique hp

end Partition

end MediaIndex
