import MediaIndex.Proofs.Grouping.Key

/-!
# What a batch holds

The groups of a computed batch, told by who is in them: an item is in the group of a key exactly when
the key is among its keys. The values a group shows are those its key was made of.

* `Batch.Puts` -- the batch puts an item into the group of a key;
* `Batch.Sound` -- every group has members and shows the values of its key;
* `Grouper.puts_compute`, `Grouper.sound_compute` -- both for a computed batch;
* `Batch.puts_without`, `Batch.Sound.without` -- both when some items are left out.
-/

namespace MediaIndex

namespace Batch

/-! ## 1. Groups by their members -/

/-- The batch puts the item into the group of the key. -/
def Puts (b : Batch) (key : GroupKey) (id : ItemId) : Prop :=
  ∃ group, b.groups[key]? = some group ∧ id ∈ group.members

/-- Every group has members and shows the values its key was made of. -/
structure Sound (b : Batch) : Prop where
  separable : ∀ {key : GroupKey} {group : Group}, b.groups[key]? = some group → Separable group.display
  compose : ∀ {key : GroupKey} {group : Group}, b.groups[key]? = some group →
    GroupKey.compose group.display = key
  inhabited : ∀ {key : GroupKey} {group : Group}, b.groups[key]? = some group → group.members ≠ ∅

theorem not_puts_empty (key : GroupKey) (id : ItemId) : ¬ Puts {} key id := by
  intro hx
  obtain ⟨group, h, -⟩ := hx
  rw [Std.ExtTreeMap.getElem?_empty] at h
  cases h

theorem sound_empty : Sound {} where
  separable h := by rw [Std.ExtTreeMap.getElem?_empty] at h; cases h
  compose h := by rw [Std.ExtTreeMap.getElem?_empty] at h; cases h
  inhabited h := by rw [Std.ExtTreeMap.getElem?_empty] at h; cases h

/-! ## 2. Putting an item -/

variable {b : Batch} {id id' : ItemId} {key : GroupKey} {display : List String}

/-- The group that an item is put into. -/
def joined (b : Batch) (id : ItemId) (display : List String) : Group :=
  match b.groups[GroupKey.compose display]? with
  | some g => { g with members := g.members.insert id }
  | none => { display, members := {id} }

theorem mem_joined : id' ∈ (b.joined id display).members ↔
    id' = id ∨ b.Puts (GroupKey.compose display) id' := by
  unfold joined
  split
  · rename_i g hg
    rw [Std.ExtTreeSet.mem_insert, Std.compare_eq_iff_eq]
    refine or_congr eq_comm ⟨fun h => ⟨g, hg, h⟩, ?_⟩
    intro hx
    obtain ⟨g', hg', h⟩ := hx
    rw [hg] at hg'
    cases hg'
    exact h
  · rename_i hg
    show id' ∈ (∅ : ItemSet).insert id ↔ _
    rw [Std.ExtTreeSet.mem_insert, Std.compare_eq_iff_eq]
    refine or_congr eq_comm ⟨fun h => absurd h Std.ExtTreeSet.not_mem_empty, ?_⟩
    intro hx
    obtain ⟨g', hg', -⟩ := hx
    rw [hg] at hg'
    cases hg'

theorem getElem?_groups_put : (b.put id display).groups[key]? =
    if GroupKey.compose display = key then some (b.joined id display) else b.groups[key]? := by
  show (b.groups.insert (GroupKey.compose display) (b.joined id display))[key]? = _
  rw [Std.ExtTreeMap.getElem?_insert]
  simp only [Std.compare_eq_iff_eq]

theorem puts_put : (b.put id display).Puts key id' ↔
    b.Puts key id' ∨ (GroupKey.compose display = key ∧ id' = id) := by
  unfold Puts
  rw [getElem?_groups_put]
  split
  · rename_i e
    subst e
    constructor
    · intro hx
      obtain ⟨g, hg, h⟩ := hx
      cases hg
      rcases mem_joined.mp h with h | h
      · exact Or.inr ⟨rfl, h⟩
      · exact Or.inl h
    · intro h
      refine ⟨_, rfl, mem_joined.mpr ?_⟩
      rcases h with h | ⟨-, h⟩
      · exact Or.inr h
      · exact Or.inl h
  · rename_i e
    exact ⟨Or.inl, fun h => h.elim (fun h => h) fun h => absurd h.1 e⟩

theorem Sound.put (h : b.Sound) (hd : Separable display) : (b.put id display).Sound := by
  have key_eq {key group} (hg : (b.put id display).groups[key]? = some group) :
      (GroupKey.compose display = key ∧ b.joined id display = group) ∨ b.groups[key]? = some group := by
    rw [getElem?_groups_put] at hg
    split at hg
    · exact Or.inl ⟨‹_›, Option.some.inj hg⟩
    · exact Or.inr hg
  -- the group joined shows what it showed before, and a new one the vector itself
  have display_eq : (b.joined id display).display = display := by
    unfold joined
    split
    · rename_i g hg
      exact (h.separable hg).compose_inj hd (h.compose hg)
    · rfl
  refine ⟨fun hg => ?_, fun hg => ?_, fun hg => ?_⟩
  · rcases key_eq hg with ⟨-, rfl⟩ | hg
    · rw [display_eq]
      exact hd
    · exact h.separable hg
  · rcases key_eq hg with ⟨rfl, rfl⟩ | hg
    · rw [display_eq]
    · exact h.compose hg
  · rcases key_eq hg with ⟨-, rfl⟩ | hg
    · intro e
      have hm : id ∈ (b.joined id display).members := mem_joined.mpr (Or.inl rfl)
      rw [e] at hm
      exact Std.ExtTreeSet.not_mem_empty hm
    · exact h.inhabited hg

theorem puts_foldl_put {vectors : List (List String)} : (vectors.foldl (·.put id ·) b).Puts key id' ↔
    b.Puts key id' ∨ (id' = id ∧ ∃ vector ∈ vectors, GroupKey.compose vector = key) := by
  induction vectors generalizing b with
  | nil => exact ⟨Or.inl, fun h => h.elim (fun h => h) fun ⟨_, _, h, _⟩ => absurd h List.not_mem_nil⟩
  | cons vector vectors ih =>
    rw [List.foldl_cons, ih, puts_put, or_assoc]
    refine or_congr_right ⟨?_, ?_⟩
    · intro hx
      rcases hx with ⟨hk, hid⟩ | ⟨hid, v, hv, hk⟩
      · exact ⟨hid, vector, List.mem_cons_self, hk⟩
      · exact ⟨hid, v, List.mem_cons_of_mem _ hv, hk⟩
    · intro hx
      obtain ⟨hid, v, hv, hk⟩ := hx
      rcases List.mem_cons.mp hv with rfl | hv
      · exact Or.inl ⟨hk, hid⟩
      · exact Or.inr ⟨hid, v, hv, hk⟩

theorem Sound.foldl_put {vectors : List (List String)} (h : b.Sound)
    (hv : ∀ vector ∈ vectors, Separable vector) : (vectors.foldl (·.put id ·) b).Sound := by
  induction vectors generalizing b with
  | nil => exact h
  | cons vector vectors ih =>
    exact ih (h.put (hv vector List.mem_cons_self)) fun v hm => hv v (List.mem_cons_of_mem _ hm)

theorem requested_foldl_put {vectors : List (List String)} :
    (vectors.foldl (·.put id ·) b).requested = b.requested := by
  induction vectors generalizing b with
  | nil => rfl
  | cons vector vectors ih => rw [List.foldl_cons, ih]; rfl

/-! ## 3. Leaving items out -/

variable {dropped : ItemId → Bool}

theorem mem_requested_without :
    id ∈ (b.without dropped).requested ↔ id ∈ b.requested ∧ dropped id = false := by
  show id ∈ b.requested.filter (!dropped ·) ↔ _
  rw [Std.ExtTreeSet.mem_filter]
  simp

/-- The members that are left of a group. -/
def left (g : Group) (dropped : ItemId → Bool) : ItemSet := g.members.filter (!dropped ·)

theorem mem_left {g : Group} : id ∈ left g dropped ↔ id ∈ g.members ∧ dropped id = false := by
  rw [left, Std.ExtTreeSet.mem_filter]
  simp

theorem getElem?_groups_without {group : Group} : (b.without dropped).groups[key]? = some group ↔
    ∃ g, b.groups[key]? = some g ∧ left g dropped ≠ ∅ ∧
      group = { g with members := left g dropped } := by
  show (b.groups.filterMap _)[key]? = some group ↔ _
  rw [Std.ExtTreeMap.getElem?_filterMap', Option.bind_eq_some_iff]
  refine exists_congr fun g => and_congr_right fun _ => ?_
  dsimp only
  constructor
  · intro h
    split at h
    · cases h
    · rename_i hne
      cases h
      exact ⟨fun e => hne (Std.ExtTreeSet.isEmpty_iff.mpr e), rfl⟩
  · intro hx
    obtain ⟨hne, rfl⟩ := hx
    exact if_neg fun e => hne (Std.ExtTreeSet.isEmpty_iff.mp e)

theorem puts_without : (b.without dropped).Puts key id ↔ b.Puts key id ∧ dropped id = false := by
  constructor
  · intro h
    obtain ⟨group, hg, hm⟩ := h
    obtain ⟨g, hb, -, rfl⟩ := getElem?_groups_without.mp hg
    obtain ⟨hm, hd⟩ := mem_left.mp hm
    exact ⟨⟨g, hb, hm⟩, hd⟩
  · intro h
    obtain ⟨⟨g, hb, hm⟩, hd⟩ := h
    have hl : id ∈ left g dropped := mem_left.mpr ⟨hm, hd⟩
    refine ⟨_, getElem?_groups_without.mpr ⟨g, hb, ?_, rfl⟩, hl⟩
    intro e
    rw [e] at hl
    exact Std.ExtTreeSet.not_mem_empty hl

theorem Sound.without (h : b.Sound) : (b.without dropped).Sound := by
  constructor
  · intro key group hg
    obtain ⟨g, hb, -, rfl⟩ := getElem?_groups_without.mp hg
    exact (h.separable hb : Separable g.display)
  · intro key group hg
    obtain ⟨g, hb, -, rfl⟩ := getElem?_groups_without.mp hg
    exact (h.compose hb : GroupKey.compose g.display = key)
  · intro key group hg
    obtain ⟨g, -, hne, rfl⟩ := getElem?_groups_without.mp hg
    exact hne

/-- Leaving no item out changes nothing. -/
theorem Sound.without_of_none (h : b.Sound) (hd : ∀ id, dropped id = false) : b.without dropped = b := by
  have hrequested : (b.without dropped).requested = b.requested :=
    Std.ExtTreeSet.ext_mem fun id => mem_requested_without.trans (and_iff_left (hd id))
  have hleft (g : Group) : left g dropped = g.members :=
    Std.ExtTreeSet.ext_mem fun id => mem_left.trans (and_iff_left (hd id))
  have hgroups : (b.without dropped).groups = b.groups := by
    refine Std.ExtTreeMap.ext_getElem? fun key => Option.ext fun group => ?_
    rw [getElem?_groups_without]
    constructor
    · intro hx
      obtain ⟨g, hg, -, rfl⟩ := hx
      rw [hleft]
      exact hg
    · intro hg
      refine ⟨group, hg, ?_, ?_⟩
      · rw [hleft]
        exact h.inhabited hg
      · rw [hleft]
  obtain ⟨groups, requested⟩ := b
  exact Batch.mk.injEq .. ▸ ⟨hgroups, hrequested⟩

end Batch

/-! ## 4. Computed batches -/

namespace Grouper

variable {g : Grouper} {columns : List Column} {key : GroupKey} {id : ItemId}

theorem puts_putAll {b : Batch} {item : Item} :
    (b.putAll item.id (g.vectors (orUnclassified columns) item)).Puts key id ↔
      b.Puts key id ∨ (id = item.id ∧ key ∈ g.keySet columns item) := by
  rw [Batch.putAll, Batch.puts_foldl_put, mem_keySet]
  rfl

theorem sound_putAll {b : Batch} {item : Item} (h : b.Sound) :
    (b.putAll item.id (g.vectors (orUnclassified columns) item)).Sound :=
  Batch.Sound.foldl_put ⟨h.separable, h.compose, h.inhabited⟩ fun _ hv =>
    g.separable_of_mem_vectors (orUnclassified_ne_nil columns) hv

theorem mem_requested_putAll {b : Batch} {item : Item} {vectors : List (List String)} :
    id ∈ (b.putAll item.id vectors).requested ↔ id ∈ b.requested ∨ item.id = id := by
  rw [Batch.putAll, Batch.requested_foldl_put]
  show id ∈ b.requested.insert item.id ↔ _
  rw [Std.ExtTreeSet.mem_insert, Std.compare_eq_iff_eq, or_comm]

/-- **An item is in the group of a key exactly when the key is one of its keys.** -/
theorem puts_compute {items : List Item} : (g.compute items columns).Puts key id ↔
    ∃ item ∈ items, item.id = id ∧ key ∈ g.keySet columns item := by
  suffices h : ∀ b : Batch, (items.foldl (fun b item =>
      b.putAll item.id (g.vectors (orUnclassified columns) item)) b).Puts key id ↔
      b.Puts key id ∨ ∃ item ∈ items, item.id = id ∧ key ∈ g.keySet columns item by
    rw [compute, h]
    exact ⟨fun h => h.elim (fun h => absurd h (Batch.not_puts_empty _ _)) (fun h => h), Or.inr⟩
  induction items with
  | nil => exact fun b => ⟨Or.inl, fun h => h.elim (fun h => h) fun ⟨_, h, _⟩ =>
    absurd h List.not_mem_nil⟩
  | cons item items ih =>
    intro b
    rw [List.foldl_cons, ih, puts_putAll, or_assoc, @eq_comm _ id]
    simp only [List.mem_cons, exists_eq_or_imp]

theorem sound_compute (items : List Item) : (g.compute items columns).Sound := by
  suffices h : ∀ b : Batch, b.Sound → (items.foldl (fun b item =>
      b.putAll item.id (g.vectors (orUnclassified columns) item)) b).Sound from h _ Batch.sound_empty
  induction items with
  | nil => exact fun b h => h
  | cons item items ih => exact fun b h => ih _ (sound_putAll h)

theorem mem_requested_compute {items : List Item} :
    id ∈ (g.compute items columns).requested ↔ ∃ item ∈ items, item.id = id := by
  suffices h : ∀ b : Batch, id ∈ (items.foldl (fun b item =>
      b.putAll item.id (g.vectors (orUnclassified columns) item)) b).requested ↔
      id ∈ b.requested ∨ ∃ item ∈ items, item.id = id by
    rw [compute, h]
    exact ⟨fun h => h.elim (fun h => absurd h Std.ExtTreeSet.not_mem_empty) (fun h => h), Or.inr⟩
  induction items with
  | nil => exact fun b => ⟨Or.inl, fun h => h.elim (fun h => h) fun ⟨_, h, _⟩ =>
    absurd h List.not_mem_nil⟩
  | cons item items ih =>
    intro b
    rw [List.foldl_cons, ih, mem_requested_putAll, or_assoc]
    simp only [List.mem_cons, exists_eq_or_imp]

end Grouper

end MediaIndex
