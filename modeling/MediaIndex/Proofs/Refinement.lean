import MediaIndex.Proofs.Index.Carried
import MediaIndex.Proofs.Store.Displayed

/-!
# The index refines recomputation from scratch

Whatever is asked of the index and however jobs and deliveries interleave, the index shows the groups
of one version of every indexed item, all over the same columns. So its store is what grouping these
versions from scratch would give.

* `Store.Shows` -- the store shows the groups of given versions;
* `Store.Shows.take`, `Shows.detach`, `Shows.hideColumn` -- what the operations on the store make of it;
* `Index.exists_shows_after` -- every step leads from versions shown to versions shown;
* `Store.Shows.nodes_eq`, `Shows.keysOf_eq` -- the store equals the computed groups;
* `Index.run_refines_compute` -- the same for every run.
-/

namespace MediaIndex

/-! ## 1. Versions shown -/

namespace Store

/-- The store shows the groups of one version of every item, over the key columns of the layout. -/
structure Shows (s : Store) (g : Grouper) (layout : Layout) (held : ItemId → Option Item) : Prop where
  links_iff : ∀ {key : GroupKey} {id : ItemId}, s.Links key id ↔
    ∃ item, held id = some item ∧ key ∈ g.keySet layout.keyColumns item
  display : ∀ {key : GroupKey} {node : GroupNode}, s.nodes[key]? = some node →
    ∃ values, Separable values ∧ GroupKey.compose values = key ∧
      node.display = project layout.visible values

variable {s : Store} {g : Grouper} {layout : Layout} {held : ItemId → Option Item}

theorem shows_empty (g : Grouper) (layout : Layout) : Shows {} g layout fun _ => none where
  links_iff := iff_of_false (not_links_empty _ _) fun ⟨_, e, _⟩ => by cases e
  display hn := displays_empty layout.visible hn

/-- The nodes show the values of their keys, whatever versions they are of. -/
theorem Shows.displays (h : s.Shows g layout held) : s.Displays layout.visible :=
  fun _ _ hn => h.display hn

theorem Shows.detach (h : s.Shows g layout held) (hs : s.Sound) (ids : List ItemId) :
    (s.detach ids).store.Shows g layout fun id => if id ∈ ids then none else held id where
  links_iff {key id} := by
    rw [links_detach hs, h.links_iff]
    split
    · rename_i hm
      exact iff_of_false (fun hl => hl.2 hm) fun ⟨_, e, _⟩ => by cases e
    · rename_i hm
      exact and_iff_left hm
  display hn := h.displays.detach hs ids hn

theorem Shows.hideColumn (h : s.Shows g layout held) (i : Nat) :
    (s.hideColumn i).Shows g (layout.hide i) held where
  links_iff := links_hideColumn.trans h.links_iff
  display hn := h.displays.hideColumn i hn

/-- **A batch brings its own versions; of the other items the store keeps those it had.** -/
theorem Shows.take (h : s.Shows g layout held) (hs : s.Sound) {batch : Batch} (hb : batch.Sound)
    {copies : ItemId → Option Item}
    (hputs : ∀ key id, batch.Puts key id ↔
      ∃ item, copies id = some item ∧ key ∈ g.keySet layout.keyColumns item)
    (hreq : ∀ id, id ∈ batch.requested ↔ (copies id).isSome = true) :
    (s.take layout.visible batch).Shows g layout fun id => (copies id).or (held id) where
  links_iff {key id} := by
    rw [links_take hs, hputs, hreq, h.links_iff]
    cases copies id with
    | none => simp
    | some item => simp
  display hn := h.displays.take hs hb hn

/-! ## 2. The store from scratch -/

/-- The versions that a store shows, as a finite map. -/
def versions (s : Store) (held : ItemId → Option Item) : Std.ExtTreeMap ItemId Item :=
  s.keysOf.filterMap fun id _ => held id

theorem Shows.getElem?_versions (h : s.Shows g layout held) (hs : s.Sound) (id : ItemId) :
    (s.versions held)[id]? = held id := by
  rw [versions, Std.ExtTreeMap.getElem?_filterMap']
  cases hk : s.keysOf[id]? with
  | some keys => rfl
  | none =>
    cases hi : held id with
    | none => rfl
    | some item =>
      -- an item that is held has a key, so some node has it
      obtain ⟨key, hkey⟩ := exists_mem_of_ne_empty (g.keySet_ne_empty layout.keyColumns item)
      exact absurd (h.links_iff.mpr ⟨item, hi, hkey⟩) ((hs.getElem?_keysOf_eq_none_iff.mp hk) key)

theorem Shows.puts_compute (h : s.Shows g layout held) (hs : s.Sound)
    (hid : ∀ id item, held id = some item → item.id = id) (key : GroupKey) (id : ItemId) :
    (g.compute ((s.versions held).toList.map (·.2)) layout.keyColumns).Puts key id ↔
      s.Links key id := by
  rw [Grouper.puts_compute, h.links_iff]
  constructor
  · intro hx
    obtain ⟨item, hm, rfl, hk⟩ := hx
    obtain ⟨⟨id, item'⟩, hp, rfl⟩ := List.mem_map.mp hm
    rw [Std.ExtTreeMap.mem_toList_iff_getElem?_eq_some, h.getElem?_versions hs] at hp
    rw [hid id item' hp]
    exact ⟨item', hp, hk⟩
  · intro hx
    obtain ⟨item, hi, hk⟩ := hx
    refine ⟨item, List.mem_map.mpr ⟨(id, item), ?_, rfl⟩, hid id item hi, hk⟩
    rw [Std.ExtTreeMap.mem_toList_iff_getElem?_eq_some, h.getElem?_versions hs]
    exact hi

/-- The node that shows a computed group. -/
def nodeOf (visible : List Nat) (key : GroupKey) (group : Group) : GroupNode :=
  ⟨key, project visible group.display, group.members⟩

/-- **The nodes are those of the groups computed from the versions.** -/
theorem Shows.nodes_eq (h : s.Shows g layout held) (hs : s.Sound)
    (hid : ∀ id item, held id = some item → item.id = id) : s.nodes =
      (g.compute ((s.versions held).toList.map (·.2)) layout.keyColumns).groups.map (nodeOf layout.visible) := by
  have hputs := h.puts_compute hs hid
  have hsound : (g.compute ((s.versions held).toList.map (·.2)) layout.keyColumns).Sound :=
    g.sound_compute _
  generalize g.compute ((s.versions held).toList.map (·.2)) layout.keyColumns = batch at hputs hsound ⊢
  refine Std.ExtTreeMap.ext_getElem? fun key => ?_
  rw [Std.ExtTreeMap.getElem?_map]
  cases hn : s.nodes[key]? with
  | none =>
    cases hg : batch.groups[key]? with
    | none => rfl
    | some group =>
      obtain ⟨id, hm⟩ := exists_mem_of_ne_empty (hsound.inhabited hg)
      obtain ⟨node, hn', -⟩ := (hputs key id).mp ⟨group, hg, hm⟩
      rw [hn] at hn'
      cases hn'
  | some node =>
    obtain ⟨id, hm⟩ := exists_mem_of_ne_empty (hs.inhabited hn)
    obtain ⟨group, hg, -⟩ := (hputs key id).mpr ⟨node, hn, hm⟩
    obtain ⟨values, hv, hk, hd⟩ := h.display hn
    have hvalues : values = group.display :=
      hv.compose_inj (hsound.separable hg) (hk.trans (hsound.compose hg).symm)
    have hmembers : node.members = group.members := by
      refine Std.ExtTreeSet.ext_mem fun a => ?_
      rw [← links_iff_mem hn, ← hputs]
      refine ⟨?_, fun ha => ⟨group, hg, ha⟩⟩
      intro hx
      obtain ⟨group', hg', ha⟩ := hx
      rw [hg] at hg'
      cases hg'
      exact ha
    rw [hg]
    obtain ⟨nodeKey, display, members⟩ := node
    cases hs.keyed hn
    cases hmembers
    cases hd
    rw [hvalues]
    rfl

/-- **The keys of an item are those of its version.** -/
theorem Shows.keysOf_eq (h : s.Shows g layout held) (hs : s.Sound) :
    s.keysOf = (s.versions held).map fun _ item => g.keySet layout.keyColumns item := by
  refine Std.ExtTreeMap.ext_getElem? fun id => ?_
  rw [Std.ExtTreeMap.getElem?_map, h.getElem?_versions hs]
  cases hi : held id with
  | none =>
    refine hs.getElem?_keysOf_eq_none_iff.mpr fun key hl => ?_
    obtain ⟨item, e, -⟩ := h.links_iff.mp hl
    rw [hi] at e
    cases e
  | some item =>
    refine hs.getElem?_keysOf_eq_some_iff.mpr ⟨g.keySet_ne_empty _ item, fun key => ?_⟩
    rw [h.links_iff, hi]
    constructor
    · exact fun hk => ⟨item, rfl, hk⟩
    · intro hx
      obtain ⟨other, e, hk⟩ := hx
      cases e
      exact hk

end Store

/-! ## 3. Steps of the index -/

namespace Index

/-- The store shows one version of every item, each with the property. -/
def Refines (ix : Index) (g : Grouper) (P : Item → Prop) : Prop :=
  ix.worker.grouper = g ∧ ∃ held : ItemId → Option Item, ix.store.Shows g ix.layout held ∧
    ∀ id item, held id = some item → item.id = id ∧ P item

variable {ix : Index} {g : Grouper} {P : Item → Prop}

theorem Refines.of_parts_eq {ix' : Index} (h : ix.Refines g P) (hs : ix'.store = ix.store)
    (hg : ix'.worker.grouper = ix.worker.grouper) (hl : ix'.layout = ix.layout) : ix'.Refines g P := by
  obtain ⟨rfl, held, hshows, hheld⟩ := h
  refine ⟨hg, held, ?_, hheld⟩
  rw [hs, hl]
  exact hshows

theorem refines_of_store_empty (hg : ix.worker.grouper = g) (h : ix.store = {}) : ix.Refines g P := by
  refine ⟨hg, fun _ => none, ?_, fun _ _ e => by cases e⟩
  rw [h]
  exact Store.shows_empty _ _

theorem Refines.dispatch (h : ix.Refines g P) (kind : JobKind) (items : List Item) :
    (ix.dispatch kind items).2.Refines g P :=
  h.of_parts_eq rfl (ix.worker.grouper_submit kind ix.dispatchColumns items) rfl

theorem Refines.dispatchSome (h : ix.Refines g P) (kind : JobKind) (items : List Item) :
    (ix.dispatchSome kind items).2.Refines g P :=
  dispatchSome_induct (P := fun r => r.2.Refines g P) (fun _ => h) (h.dispatch kind items)

theorem Refines.refreshSummary (h : ix.Refines g P) : ix.refreshSummary.Refines g P := by
  obtain ⟨summary, notifier, e⟩ := ix.refreshSummary_eq
  rw [e]
  exact h.of_parts_eq rfl rfl rfl

theorem Refines.removed (h : ix.Refines g P) (hs : ix.store.Sound) (ids : List ItemId) :
    (ix.removed ids).Refines g P := by
  have hd : ((ix.buried ids).detached ids).Refines g P := by
    obtain ⟨hg, held, hshows, hheld⟩ := h
    refine ⟨hg, _, hshows.detach hs ids, fun id item e => ?_⟩
    split at e
    · cases e
    · exact hheld id item e
  unfold Index.removed
  split
  · exact hd
  · exact hd.refreshSummary

theorem Refines.hidden (h : ix.Refines g P) (i : Nat) : (ix.hidden i).Refines g P := by
  unfold Index.hidden
  split
  · exact h
  · rename_i column _
    obtain ⟨hg, held, hshows, hheld⟩ := h
    have hn : (ix.narrowed i column).Refines g P := ⟨hg, held, hshows.hideColumn i, hheld⟩
    exact hn.refreshSummary

theorem Refines.rebuilt (h : ix.Refines g P) (columns : List Column) (items : List Item) :
    (ix.rebuilt columns items).Refines g P := by
  unfold Index.rebuilt
  split
  · exact refines_of_store_empty h.1 rfl
  · have ha : Refines
        { ix.adopting columns with worker := ix.worker.supersede.2, resetting := true } g P :=
      h.of_parts_eq rfl rfl rfl
    exact (ha.dispatch .reset items).of_parts_eq rfl rfl rfl

theorem Refines.met (h : ix.Refines g P) : ix.met.Refines g P := by
  unfold Index.met
  split
  · exact refines_of_store_empty h.1 rfl
  · exact h

theorem Refines.delivered (h : ix.Refines g P) (ho : ix.Coherent) (hc : ix.Carries P) :
    ix.delivered.Refines g P := by
  rcases ix.delivered_cases with ⟨-, e⟩ | ⟨job, rest, hf, -⟩
  · rw [e]
    exact h
  · have hmem : job.toJob.unmarked ∈ ix.jobs := mem_jobs_of_finished hf
    have hd : (idsOf job.items).Nodup := hc.distinct job.toJob.unmarked hmem
    have hp : ∀ item ∈ job.items, P item := hc.requested job.toJob.unmarked hmem
    have hb : job.batch = ix.worker.grouper.compute job.items job.columns :=
      ho.worker.batch_eq job (hf ▸ List.mem_cons_self)
    have hpop : (ix.popped rest).Refines g P := h.of_parts_eq rfl rfl rfl
    obtain ⟨stage, summary, notifier, batchesApplied, resets, hout, e⟩ := delivered_outcome hf
    suffices hs : stage.Refines g P by
      rw [e]
      exact hs.of_parts_eq rfl rfl rfl
    cases hout with
    | dropped hr hs =>
      subst hs
      exact hpop.of_parts_eq rfl rfl rfl
    | taken hr hcol hs =>
      subst hs
      obtain ⟨hg, held, hshows, hheld⟩ := hpop.met
      have hsound : (ix.popped rest).met.store.Sound := by
        rw [met_popped]
        exact ho.store_met
      have hputs := (ix.popped rest).puts_wanted hd hb
      rw [hcol, hpop.1] at hputs
      have ht := hshows.take hsound ((ix.popped rest).sound_wanted hb) hputs
        ((ix.popped rest).mem_requested_wanted hd hb)
      refine ⟨?_, fun id => ((ix.popped rest).copies job id).or (held id), ?_, fun id item e => ?_⟩
      · rw [met_applying]
        exact hg
      · rw [met_applying]
        exact ht
      · rcases Option.or_eq_some_iff.mp e with e | ⟨-, e⟩
        · obtain ⟨-, hm, hid⟩ := ((ix.popped rest).copies_eq_some_iff hd).mp e
          exact ⟨hid, hp item hm⟩
        · exact hheld id item e
    | again hr hcol hs =>
      subst hs
      have hmet : (ix.popped rest).applying.met.Refines g P :=
        Refines.met (hpop.of_parts_eq rfl rfl rfl)
      rw [resubmitted_eq]
      exact hmet.dispatchSome .add _

/-- **Every step leads from versions shown to versions shown.** -/
theorem Refines.after (h : ix.Refines g P) (ho : ix.Orderly) (hc : ix.Carries P) (s : Step) :
    (ix.after s).Refines g P := by
  cases s with
  | reset columns items => exact h.rebuilt columns items
  | add items => exact h.dispatchSome .add _
  | update items =>
    exact updated_induct (P := fun ix' => ix'.Refines g P) h
      fun _ kind part _ _ h => h.dispatchSome kind part
  | fullReload items => exact h.rebuilt _ items
  | remove ids => exact h.removed ho.store ids
  | hideColumn i => exact h.hidden i
  | setSummaryShown shown =>
    show (ix.summarised shown).Refines g P
    unfold summarised
    split
    · exact h
    · exact h.of_parts_eq rfl rfl rfl
  | decorationReady id => exact h.of_parts_eq rfl rfl rfl
  | subscribe => exact h.of_parts_eq rfl rfl rfl
  | start => exact h.of_parts_eq rfl ix.worker.grouper_start rfl
  | finish => exact h.of_parts_eq rfl ix.worker.grouper_finish rfl
  | deliver => exact h.delivered ho.toCoherent hc

/-! ## 4. Runs -/

/-- Every run leads to an index that shows versions brought by its steps. -/
theorem refines_run (ho : ix.Orderly) (hj : ix.jobs = []) (hs : ix.store = {}) {steps : List Step}
    (hd : ∀ s ∈ steps, (idsOf s.items).Nodup) :
    (steps.foldl Index.after ix).Refines ix.worker.grouper fun item => ∃ s ∈ steps, item ∈ s.items := by
  let P : Item → Prop := fun item => ∃ s ∈ steps, item ∈ s.items
  let I : Index → Prop := fun ix' => ix'.Orderly ∧ ix'.Carries P ∧ ix'.Refines ix.worker.grouper P
  suffices h : I (steps.foldl Index.after ix) from h.2.2
  refine List.foldlRecOn (motive := I) steps Index.after
    ⟨ho, carries_of_no_jobs hj, refines_of_store_empty rfl hs⟩ fun ix' h s hmem => ?_
  obtain ⟨ho, hc, hr⟩ := h
  exact ⟨ho.after s, hc.after (hd s hmem) fun item hi => ⟨s, hmem, hi⟩, hr.after ho hc s⟩

/-- **The index refines recomputation from scratch.** After every run in which no request brings an
    item twice, there is one version for every indexed item, brought by some step, such that the nodes
    are the groups computed from these versions over the key columns, shown in the visible columns,
    and the keys of every item are those of its version. -/
theorem run_refines_compute (extractor : Extractor) (options : IndexOptions) (steps : List Step)
    (hd : ∀ s ∈ steps, (idsOf s.items).Nodup) :
    ∃ ix, (ofOptions extractor options).run steps = .ok ix ∧
      ∃ held : Std.ExtTreeMap ItemId Item,
        (∀ id, id ∈ held ↔ ix.store.indexes id = true) ∧
        (∀ id item, held[id]? = some item → item.id = id ∧ ∃ s ∈ steps, item ∈ s.items) ∧
        ix.store.nodes = (Grouper.compute { extractor } (held.toList.map (·.2)) ix.layout.keyColumns).groups.map
          (fun key group => ⟨key, Store.project ix.layout.visible group.display, group.members⟩) ∧
        ix.store.keysOf = held.map fun _ item =>
          Grouper.keySet { extractor } ix.layout.keyColumns item := by
  have ho := orderly_ofOptions extractor options
  refine ⟨_, run_eq ho.quiet steps, ?_⟩
  obtain ⟨-, held, hshows, hheld⟩ := refines_run ho rfl rfl hd
  have hsound := (ho.foldl_after steps).store
  have hversions := hshows.getElem?_versions hsound
  have hkeys := hshows.keysOf_eq hsound
  refine ⟨_, fun id => ?_, fun id item hi => hheld id item (hversions id ▸ hi),
    hshows.nodes_eq hsound fun id item hi => (hheld id item hi).1, hkeys⟩
  rw [Store.indexes, hkeys, Std.ExtTreeMap.contains_map, Std.ExtTreeMap.mem_iff_contains]

/-- A copy of item 1 with an artist. -/
def byArtist (artist : String) : Item := Item.withField ⟨1, ∅⟩ "artist" artist

/-- An item is changed by a reset while its first copy is on its way, and a column is hidden. -/
def changedRun : List Step :=
  [.add [byArtist "A"], .start,
    .reset [.ofField "artist" "Artist", .ofField "album" "Album"] [byArtist "B"],
    .finish, .deliver, .hideColumn 1, .start, .finish, .deliver]

/-- The version that is shown of the item is the changed one. -/
theorem refines_compute_changedRun : (∀ s ∈ changedRun, (idsOf s.items).Nodup) ∧
    ∃ ix, (ofOptions rawExtractor {}).run changedRun = .ok ix ∧
      ∃ held : Std.ExtTreeMap ItemId Item,
        (∀ id, id ∈ held ↔ ix.store.indexes id = true) ∧
        (∀ id item, held[id]? = some item → item.id = id ∧ ∃ s ∈ changedRun, item ∈ s.items) ∧
        ix.store.nodes = (Grouper.compute { extractor := rawExtractor } (held.toList.map (·.2))
            ix.layout.keyColumns).groups.map
          (fun key group => ⟨key, Store.project ix.layout.visible group.display, group.members⟩) ∧
        ix.store.keysOf = (held.map fun _ item =>
          Grouper.keySet { extractor := rawExtractor } ix.layout.keyColumns item) ∧
        ix.store.indexes 1 = true ∧ held[(1 : ItemId)]? = some (byArtist "B") ∧
        ix.store.keysOf[(1 : ItemId)]? =
          some (Grouper.keySet { extractor := rawExtractor } ix.layout.keyColumns (byArtist "B")) := by
  have hd : ∀ s ∈ changedRun, (idsOf s.items).Nodup := by decide
  obtain ⟨ix, hrun, held, hdom, hfrom, hnodes, hkeys⟩ := run_refines_compute rawExtractor {} changedRun hd
  obtain rfl := eq_foldl_after_of_run (quiet_ofOptions rawExtractor {}) hrun
  refine ⟨hd, _, hrun, held, hdom, hfrom, hnodes, hkeys, by decide +kernel, ?_, by decide +kernel⟩
  have hmem : (1 : ItemId) ∈ held := (hdom 1).mpr (by decide +kernel)
  obtain ⟨item, hitem⟩ := Option.isSome_iff_exists.mp (Std.ExtTreeMap.isSome_getElem?_iff_mem.mpr hmem)
  obtain ⟨-, s, hs, hm⟩ := hfrom 1 item hitem
  have hcopies : item ∈ [byArtist "A", byArtist "B"] :=
    List.mem_flatMap.mpr (⟨s, hs, hm⟩ : ∃ s ∈ changedRun, item ∈ s.items)
  rcases List.mem_cons.mp hcopies with rfl | hm
  · -- the first copy has other keys than the item
    have hfirst := congrArg (·[(1 : ItemId)]?) hkeys
    rw [Std.ExtTreeMap.getElem?_map, hitem] at hfirst
    exact absurd hfirst (by decide +kernel)
  · rw [hitem, List.mem_singleton.mp hm]

end Index

end MediaIndex
