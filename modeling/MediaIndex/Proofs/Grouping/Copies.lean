import MediaIndex.Proofs.Grouping.Batch
import MediaIndex.Proofs.Queue.Absorb
import MediaIndex.Proofs.Store.Sound

/-!
# The keys of an item by its copies

A list of items may have several copies of one item. The batch computed from the list puts the item
into the groups of all of them, so the keys it gets are those of its copies taken together.

* `Grouper.keysIn` -- the keys of an item by its copies in a list, if there are any;
* `keysIn_eq_or` -- when newer copies stand in place of older ones, they alone count;
* `keysIn_filter`, `keysIn_append`, `keysIn_absorb` -- the lists that requests and jobs are made of.
-/

namespace MediaIndex.Grouper

variable {g : Grouper} {columns : List Column} {items newer both : List Item} {id : ItemId}

/-! ## 1. All copies together -/

/-- The keys of all copies of an item in a list; none when there is no copy. -/
def keysIn (g : Grouper) (columns : List Column) (items : List Item) (id : ItemId) : Option KeySet :=
  if id ∈ idsOf items then
    some (.ofList ((items.filter (·.id == id)).flatMap fun item => (g.keySet columns item).toList))
  else none

theorem keysIn_eq_none_iff : g.keysIn columns items id = none ↔ id ∉ idsOf items := by
  unfold keysIn
  split
  · rename_i h
    exact iff_of_false (fun e => by cases e) fun hn => hn h
  · rename_i h
    exact iff_of_true rfl h

theorem mem_of_keysIn {keys : KeySet} (h : g.keysIn columns items id = some keys) :
    id ∈ idsOf items := by
  refine Classical.byContradiction fun hn => ?_
  rw [keysIn_eq_none_iff.mpr hn] at h
  cases h

theorem keysIn_of_mem (g : Grouper) (columns : List Column) (h : id ∈ idsOf items) :
    ∃ keys, g.keysIn columns items id = some keys ∧
      ∀ key, key ∈ keys ↔ ∃ item ∈ items, item.id = id ∧ key ∈ g.keySet columns item := by
  refine ⟨_, if_pos h, fun key => ?_⟩
  rw [Std.ExtTreeSet.mem_ofList, List.contains_iff_mem, List.mem_flatMap]
  simp only [List.mem_filter, beq_iff_eq, Std.ExtTreeSet.mem_toList, and_assoc]

/-- The copies in a list count before whatever else there is. -/
theorem keysIn_or_of_mem (h : id ∈ idsOf items) (other : Option KeySet) :
    (g.keysIn columns items id).or other = g.keysIn columns items id := by
  obtain ⟨keys, e, -⟩ := keysIn_of_mem g columns h
  rw [e, Option.some_or]

/-- The batch computed from a list puts an item exactly where its keys are. -/
theorem puts_compute_iff {keys : KeySet} (h : g.keysIn columns items id = some keys) (key : GroupKey) :
    (g.compute items columns).Puts key id ↔ key ∈ keys := by
  obtain ⟨keys', h', hkeys⟩ := keysIn_of_mem g columns (mem_of_keysIn h)
  rw [h] at h'
  cases h'
  rw [puts_compute, hkeys]

theorem ne_empty_of_keysIn {keys : KeySet} (h : g.keysIn columns items id = some keys) : keys ≠ ∅ := by
  obtain ⟨item, hi, hid⟩ := mem_idsOf.mp (mem_of_keysIn h)
  obtain ⟨key, hkey⟩ := Store.exists_mem_of_ne_empty (g.keySet_ne_empty columns item)
  exact Store.ne_empty_of_mem ((puts_compute_iff h key).mp (puts_compute.mpr ⟨item, hi, hid, hkey⟩))

/-- An item has the keys of one of its copies when those of all its copies are among them. -/
theorem keysIn_eq_keySet_iff {c : Item} (hc : c ∈ items) :
    g.keysIn columns items c.id = some (g.keySet columns c) ↔
      ∀ copy ∈ items, copy.id = c.id → ∀ key ∈ g.keySet columns copy, key ∈ g.keySet columns c := by
  obtain ⟨keys, e, hkeys⟩ := keysIn_of_mem g columns (mem_idsOf_of_mem hc)
  rw [e, Option.some_inj]
  constructor
  · rintro rfl copy hm hid key hk
    exact (hkeys key).mpr ⟨copy, hm, hid, hk⟩
  · intro h
    refine Std.ExtTreeSet.ext_mem fun key => ?_
    rw [hkeys]
    constructor
    · rintro ⟨copy, hm, hid, hk⟩
      exact h copy hm hid key hk
    · exact fun hk => ⟨c, hc, rfl, hk⟩

/-- An item with one copy has the keys of it. -/
theorem keysIn_of_count_le_one {c : Item} (hc : c ∈ items) (hn : (idsOf items).count c.id ≤ 1) :
    g.keysIn columns items c.id = some (g.keySet columns c) := by
  refine (keysIn_eq_keySet_iff hc).mpr fun copy hm hid key hk => ?_
  rwa [← eq_of_count_le_one hn hm hc hid rfl]

/-! ## 2. Lists with the same copies -/

theorem keysIn_congr (h : ∀ item, item.id = id → (item ∈ newer ↔ item ∈ items)) :
    g.keysIn columns newer id = g.keysIn columns items id := by
  have hmem : id ∈ idsOf newer ↔ id ∈ idsOf items := by
    rw [mem_idsOf, mem_idsOf]
    exact exists_congr fun item => and_congr_left (h item)
  by_cases hi : id ∈ idsOf items
  · obtain ⟨keys, e, hkeys⟩ := keysIn_of_mem g columns hi
    obtain ⟨keys', e', hkeys'⟩ := keysIn_of_mem g columns (hmem.mpr hi)
    rw [e, e']
    refine congrArg some (Std.ExtTreeSet.ext_mem fun key => ?_)
    rw [hkeys, hkeys']
    exact exists_congr fun item => and_congr_left fun hx => h item hx.1
  · rw [keysIn_eq_none_iff.mpr hi, keysIn_eq_none_iff.mpr fun hm => hi (hmem.mp hm)]

/-- **When newer copies of an item stand in place of the older ones, they alone count.** -/
theorem keysIn_eq_or (h : ∀ item, item.id = id →
      (item ∈ both ↔ item ∈ newer ∨ (item ∈ items ∧ id ∉ idsOf newer))) :
    g.keysIn columns both id = (g.keysIn columns newer id).or (g.keysIn columns items id) := by
  by_cases hn : id ∈ idsOf newer
  · have hb : g.keysIn columns both id = g.keysIn columns newer id := by
      refine keysIn_congr fun item hid => ?_
      rw [h item hid]
      exact or_iff_left fun hx => hx.2 hn
    rw [hb, keysIn_or_of_mem hn]
  · rw [keysIn_eq_none_iff.mpr hn, Option.none_or]
    refine keysIn_congr fun item hid => ?_
    rw [h item hid]
    constructor
    · intro hx
      rcases hx with hm | hm
      · exact absurd (hid ▸ mem_idsOf_of_mem hm) hn
      · exact hm.1
    · exact fun hm => Or.inr ⟨hm, hn⟩

theorem keysIn_filter (p : ItemId → Bool) : g.keysIn columns (items.filter fun item => p item.id) id =
    if p id then g.keysIn columns items id else none := by
  cases hp : p id with
  | true =>
    refine keysIn_congr fun item hid => ?_
    rw [List.mem_filter, hid, hp]
    exact and_iff_left rfl
  | false =>
    refine keysIn_eq_none_iff.mpr fun hm => ?_
    have hp' := ((mem_idsOf_filter p).mp hm).2
    rw [hp] at hp'
    cases hp'

/-- Of two lists that have no item in common, the one that has copies counts. -/
theorem keysIn_append (hd : id ∈ idsOf newer → id ∉ idsOf items) :
    g.keysIn columns (items ++ newer) id =
      (g.keysIn columns newer id).or (g.keysIn columns items id) := by
  refine keysIn_eq_or fun item hid => ?_
  rw [List.mem_append]
  constructor
  · intro hx
    rcases hx with hm | hm
    · have hi : id ∈ idsOf items := hid ▸ mem_idsOf_of_mem hm
      exact Or.inr ⟨hm, fun hn => hd hn hi⟩
    · exact Or.inl hm
  · exact fun hx => hx.elim Or.inr fun hm => Or.inl hm.1

/-- A job that has taken newer items in gives an item the keys of its newer copy, if there is one. -/
theorem keysIn_absorb (hi : (idsOf items).Nodup) (hn : (idsOf newer).Nodup) :
    g.keysIn columns (absorb items newer) id =
      (g.keysIn columns newer id).or (g.keysIn columns items id) := by
  refine keysIn_eq_or fun item hid => ?_
  rw [mem_absorb hi hn, hid]

end MediaIndex.Grouper
