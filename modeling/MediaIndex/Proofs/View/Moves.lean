import MediaIndex.Index.Lookup
import MediaIndex.Proofs.Index.Orderly
import MediaIndex.Proofs.View.Following

/-!
# Moves of the index and the views that follow them

Every move of the index outside a reset tells its observers events, and a view that knew the rows
before and follows these events knows the rows after it.

* `Index.view`, `Index.Fits` -- the view of one who reads everything, and a view that fits the index;
* `Index.Agrees` -- a row that stays shows what it showed, or it is told to have changed;
* `Index.alike_of_agrees` -- where no row comes or goes and nothing is told, the same is shown;
* `Index.Tells`, `Tells.trans` -- a move that tells of all it changes, and moves one after another;
* `tells_detached`, `tells_merged`, `tells_refreshSummary` and others -- the moves do.
-/

namespace MediaIndex

/-- What is shown in the columns that are left after an event. -/
def Event.cutColumns (display : List String) : Event → List String
  | .ends (.removeColumns s) => s.cut display
  | _ => display

namespace Index

variable {ix ix₁ ix₂ ix' : Index} {v : View} {events more : List Event}

/-! ## 1. Rows and views -/

/-- The nodes of the rows, by name. -/
def refs (ix : Index) : List NodeRef :=
  (ix.summary.toList.map fun _ => .summary) ++ ix.store.rows.map .group

/-- The view of one who reads all rows and columns. -/
def view (ix : Index) : View where
  rows := ix.rowNodes.map fun node => some node.ref
  columns := ix.layout.columns

/-- The view has as many rows as the index, its columns, and at each row it has read the node of it. -/
structure Fits (ix : Index) (v : View) : Prop where
  length_rows : v.rows.length = ix.rowCount
  columns_eq : v.columns = ix.layout.columns
  nodeAtRow : ∀ i ref, v.rows[i]? = some (some ref) →
    ∃ node, ix.nodeAtRow i = some node ∧ node.ref = ref

theorem length_summary : (ix.summary.toList.map fun _ => NodeRef.summary).length = ix.rowOffset := by
  unfold rowOffset
  cases ix.summary with
  | none => rfl
  | some summary => rfl

theorem length_refs : ix.refs.length = ix.rowCount := by
  rw [refs, List.length_append, length_summary, List.length_map, rowCount]

theorem group_mem_refs {key : GroupKey} : NodeRef.group key ∈ ix.refs ↔ key ∈ ix.store.rows := by
  simp [refs]

theorem summary_mem_refs : NodeRef.summary ∈ ix.refs ↔ ix.summary.isSome = true := by
  cases h : ix.summary with
  | none => simp [refs, h]
  | some summary => simp [refs, h]

theorem getElem?_nodes_of_mem (hs : ix.store.Sound) {key : GroupKey} (hk : key ∈ ix.store.rows) :
    ∃ node, ix.store.nodes[key]? = some node ∧ node.key = key := by
  have hm := Std.ExtTreeMap.mem_iff_isSome_getElem?.mp (hs.mem_rows.mp hk)
  obtain ⟨node, hn⟩ := Option.isSome_iff_exists.mp hm
  exact ⟨node, hn, hs.keyed hn⟩

theorem getElem?_nodes_of_not_mem {s : Store} (hs : s.Sound) {key : GroupKey} (hk : key ∉ s.rows) :
    s.nodes[key]? = none := by
  refine Option.eq_none_iff_forall_ne_some.mpr fun node hn => hk ?_
  exact hs.mem_rows.mpr (Std.ExtTreeMap.mem_iff_isSome_getElem?.mpr (by rw [hn]; rfl))

/-- **The nodes in row order have the keys of the rows.** -/
theorem map_key_nodes (hs : ix.store.Sound) : ix.nodes.map (·.key) = ix.store.rows := by
  have hkey : ∀ key ∈ ix.store.rows, (ix.store.nodes[key]?).map (·.key) = some key := by
    intro key hk
    obtain ⟨node, hn, rfl⟩ := getElem?_nodes_of_mem hs hk
    rw [hn]
    rfl
  rw [nodes, Store.nodesInOrder, List.map_filterMap, List.filterMap_congr hkey, List.filterMap_some]

/-- **Reading all rows gives their nodes.** -/
theorem map_ref_rowNodes (hs : ix.store.Sound) : ix.rowNodes.map RowNode.ref = ix.refs := by
  rw [refs, ← map_key_nodes hs, rowNodes, List.map_append, List.map_map, List.map_map, List.map_map]
  rfl

theorem rows_view (hs : ix.store.Sound) : ix.view.rows = ix.refs.map some := by
  rw [← map_ref_rowNodes hs, List.map_map]
  rfl

/-- Reading one row gives its node. -/
theorem ref_nodeAtRow (hs : ix.store.Sound) (i : Nat) :
    (ix.nodeAtRow i).map RowNode.ref = ix.refs[i]? := by
  have hlen : (ix.summary.toList.map fun _ => NodeRef.summary).length = ix.rowOffset := length_summary
  unfold nodeAtRow refs
  by_cases hi : i < ix.rowOffset
  · rw [if_pos hi, List.getElem?_append_left (by omega)]
    unfold rowOffset at hi
    cases hsum : ix.summary with
    | none => simp [hsum] at hi
    | some summary =>
      have hz : i = 0 := by simpa [hsum] using hi
      subst hz
      rfl
  · rw [if_neg hi, List.getElem?_append_right (by omega), hlen, List.getElem?_map]
    cases hk : ix.store.rows[i - ix.rowOffset]? with
    | none => rfl
    | some key =>
      obtain ⟨node, hn, hkey⟩ := getElem?_nodes_of_mem hs (List.mem_of_getElem? hk)
      show ((ix.store.nodes[key]? >>= fun node => pure (RowNode.group node)).map RowNode.ref) =
        some (.group key)
      rw [hn, ← hkey]
      rfl

theorem fits_iff (hs : ix.store.Sound) :
    ix.Fits v ↔ Stands v.rows ix.refs ∧ v.columns = ix.layout.columns := by
  have hnode (i : Nat) (ref : NodeRef) :
      (∃ node, ix.nodeAtRow i = some node ∧ node.ref = ref) ↔ ix.refs[i]? = some ref := by
    rw [← ref_nodeAtRow hs, Option.map_eq_some_iff]
  rw [stands_iff, length_refs]
  constructor
  · intro h
    exact ⟨⟨h.length_rows, fun i ref hi => (hnode i ref).mp (h.nodeAtRow i ref hi)⟩, h.columns_eq⟩
  · intro h
    exact ⟨h.1.1, h.2, fun i ref hi => (hnode i ref).mpr (h.1.2 i ref hi)⟩

theorem stands_view (hs : ix.store.Sound) : Stands ix.view.rows ix.refs := by
  rw [rows_view hs]
  exact stands_map_some ix.refs

/-! ## 2. Rows that stay -/

/-- The row stays: it shows what it showed, but for the columns that are told to be removed, and where
    the summary or the members of a group have changed, it is told to have changed. -/
def Agrees (ix ix' : Index) (events : List Event) : NodeRef → Prop
  | .summary => ix'.summary = ix.summary ∨ .changed .summary [.display] ∈ events
  | .group key => ∃ node node', ix.store.nodes[key]? = some node ∧ ix'.store.nodes[key]? = some node' ∧
      node'.display = events.foldl Event.cutColumns node.display ∧
      (node'.members = node.members ∨ .changed (.group key) [.members] ∈ events)

theorem Agrees.trans {ref : NodeRef} (h : ix.Agrees ix₁ events ref) (h' : ix₁.Agrees ix₂ more ref) :
    ix.Agrees ix₂ (events ++ more) ref := by
  cases ref with
  | summary =>
    rcases h' with h' | h'
    · rcases h with h | h
      · exact Or.inl (h'.trans h)
      · exact Or.inr (List.mem_append_left _ h)
    · exact Or.inr (List.mem_append_right _ h')
  | group key =>
    obtain ⟨node, mid, hn, hm, hd, hc⟩ := h
    obtain ⟨mid', node', hm', hn', hd', hc'⟩ := h'
    rw [hm] at hm'
    cases hm'
    refine ⟨node, node', hn, hn', ?_, ?_⟩
    · rw [List.foldl_append, ← hd, hd']
    · rcases hc' with hc' | hc'
      · rcases hc with hc | hc
        · exact Or.inl (hc'.trans hc)
        · exact Or.inr (List.mem_append_left _ hc)
      · exact Or.inr (List.mem_append_right _ hc')

/-- The two indexes show the same. -/
structure Alike (ix ix' : Index) : Prop where
  rows : ix'.store.rows = ix.store.rows
  nodes : ix'.store.nodes = ix.store.nodes
  columns : ix'.layout.columns = ix.layout.columns
  summary : ix'.summary = ix.summary

theorem Alike.trans (h : ix.Alike ix₁) (h' : ix₁.Alike ix₂) : ix.Alike ix₂ :=
  ⟨h'.rows.trans h.rows, h'.nodes.trans h.nodes, h'.columns.trans h.columns, h'.summary.trans h.summary⟩

theorem Alike.refs_eq (h : ix.Alike ix') : ix'.refs = ix.refs := by rw [refs, h.rows, h.summary, refs]

/-- A group of which nothing is told has the node it had. -/
theorem Agrees.getElem?_nodes_eq (hs : ix.store.Sound) (hs' : ix'.store.Sound) {key : GroupKey}
    (h : ix.Agrees ix' [] (.group key)) : ix'.store.nodes[key]? = ix.store.nodes[key]? := by
  obtain ⟨node, node', hn, hn', hdisplay, hc⟩ := h
  have hmembers := hc.resolve_right List.not_mem_nil
  have hkey : node'.key = node.key := (hs'.keyed hn').trans (hs.keyed hn).symm
  rw [hn', hn]
  cases node
  cases node'
  cases hkey
  cases hdisplay
  cases hmembers
  rfl

/-- **Where no row comes or goes and nothing is told of any, the same is shown.** -/
theorem alike_of_agrees (hs : ix.store.Sound) (hs' : ix'.store.Sound)
    (hrows : ix'.store.rows = ix.store.rows) (hcolumns : ix'.layout.columns = ix.layout.columns)
    (hsummary : ix'.summary = ix.summary)
    (ha : ∀ key ∈ ix.store.rows, ix.Agrees ix' [] (.group key)) : ix.Alike ix' := by
  refine ⟨hrows, Std.ExtTreeMap.ext_getElem? fun key => ?_, hcolumns, hsummary⟩
  by_cases hk : key ∈ ix.store.rows
  · exact (ha key hk).getElem?_nodes_eq hs hs'
  · rw [getElem?_nodes_of_not_mem hs hk, getElem?_nodes_of_not_mem hs' (hrows ▸ hk)]

/-- A display stays while only nodes change in place. -/
theorem foldl_cutColumns_map_changed {α : Type} (l : List α) (node : α → NodeRef)
    (aspects : List Aspect) (display : List String) :
    (l.map fun a => Event.changed (node a) aspects).foldl Event.cutColumns display = display := by
  induction l with
  | nil => rfl
  | cons a l ih => exact ih

/-! ## 3. Moves that tell of all they change -/

/-- Every observer is handed the events, after those it had been handed. -/
def Hears (ix ix' : Index) (events : List Event) : Prop :=
  ∀ (k : Nat) (inbox : List Event), ix.notifier.inboxes[k]? = some inbox →
    ix'.notifier.inboxes[k]? = some (inbox ++ events)

theorem Hears.trans (h : ix.Hears ix₁ events) (h' : ix₁.Hears ix₂ more) :
    ix.Hears ix₂ (events ++ more) := by
  intro k inbox hi
  rw [← List.append_assoc]
  exact h' k _ (h k inbox hi)

/-- Every observer hears the events; a view that follows them ends up with the rows and columns after
    the move, and what stays in it agrees; only nodes that are there are told to have changed. -/
structure Tells (ix ix' : Index) (events : List Event) : Prop where
  heard : ix.Hears ix' events
  followed : ∀ v fresh : View, Stands v.rows ix.refs → v.columns = ix.layout.columns →
    ∃ v', v.followAll fresh events = some v' ∧ Stands v'.rows ix'.refs ∧
      v'.columns = ix'.layout.columns ∧
        ∀ ref, some ref ∈ v'.rows → some ref ∈ v.rows ∧ ix.Agrees ix' events ref
  present : ∀ ref aspects, .changed ref aspects ∈ events → ref ∈ ix'.refs
  silent : events = [] → ix.Alike ix'

/-- **Moves one after another tell of all they change**, if the later one leaves the rows it finds. -/
theorem Tells.trans (h : ix.Tells ix₁ events) (h' : ix₁.Tells ix₂ more)
    (hk : ∀ ref ∈ ix₁.refs, ref ∈ ix₂.refs) : ix.Tells ix₂ (events ++ more) where
  heard := h.heard.trans h'.heard
  followed v fresh hv hc := by
    obtain ⟨v₁, hf₁, hs₁, hc₁, ha₁⟩ := h.followed v fresh hv hc
    obtain ⟨v₂, hf₂, hs₂, hc₂, ha₂⟩ := h'.followed v₁ fresh hs₁ hc₁
    refine ⟨v₂, ?_, hs₂, hc₂, fun ref hm => ?_⟩
    · rw [View.followAll_append, hf₁, Option.bind_some, hf₂]
    · obtain ⟨hm₁, hagree₂⟩ := ha₂ ref hm
      obtain ⟨hm₀, hagree₁⟩ := ha₁ ref hm₁
      exact ⟨hm₀, hagree₁.trans hagree₂⟩
  present ref aspects hm := by
    rcases List.mem_append.mp hm with hm | hm
    · exact hk ref (h.present ref aspects hm)
    · exact h'.present ref aspects hm
  silent he := by
    obtain ⟨he, he'⟩ := List.append_eq_nil_iff.mp he
    exact (h.silent he).trans (h'.silent he')

theorem hears_of_deliver (h : ix'.notifier = ix.notifier.deliver events) : ix.Hears ix' events := by
  intro k inbox hi
  rw [h]
  show (ix.notifier.inboxes.map (· ++ events))[k]? = _
  rw [List.getElem?_map, hi]
  rfl

theorem hears_nil (h : ix'.notifier = ix.notifier) : ix.Hears ix' [] :=
  hears_of_deliver (h.trans Notifier.deliver_nil.symm)

theorem hears_of_tell (hq : ix.notifier.current = none) (h : ix'.notifier = ix.notifier.tell events) :
    ix.Hears ix' events := hears_of_deliver (h.trans (Notifier.tell_of_quiet hq))

/-- A group that is left as it is agrees with itself. -/
theorem agrees_group (hs : ix.store.Sound) (h : ix'.store.nodes = ix.store.nodes) {key : GroupKey}
    (hm : .group key ∈ ix.refs) (hd : ∀ display, events.foldl Event.cutColumns display = display) :
    ix.Agrees ix' events (.group key) := by
  obtain ⟨node, hn, -⟩ := getElem?_nodes_of_mem hs (group_mem_refs.mp hm)
  exact ⟨node, node, hn, h ▸ hn, (hd _).symm, Or.inl rfl⟩

/-- **A move that changes nothing that is shown tells of all it changes** by events that tell of nodes
    changed in place or of batches only. -/
theorem tells_of_alike (hs : ix.store.Sound) (h : ix.Alike ix')
    (hh : ix.Hears ix' events)
    (hf : ∀ v fresh : View, v.followAll fresh events = some v)
    (hd : ∀ display, events.foldl Event.cutColumns display = display)
    (hp : ∀ ref aspects, .changed ref aspects ∈ events → ref ∈ ix.refs) : ix.Tells ix' events where
  heard := hh
  followed v fresh hv hc := by
    refine ⟨v, hf v fresh, h.refs_eq ▸ hv, hc.trans h.columns.symm, fun ref hm => ⟨hm, ?_⟩⟩
    cases ref with
    | summary => exact Or.inl h.summary
    | group key => exact agrees_group hs h.nodes (hv.mem hm) hd
  present ref aspects hm := h.refs_eq ▸ hp ref aspects hm
  silent _ := h

/-- What is told from an index that shows the same is told from the index itself. -/
theorem Alike.tells (h : ix.Alike ix₁) (hn : ix₁.notifier = ix.notifier) (ht : ix₁.Tells ix₂ events) :
    ix.Tells ix₂ events where
  heard k inbox hi := ht.heard k inbox (hn ▸ hi)
  followed v fresh hv hc := by
    obtain ⟨v', hf, hs, hc', ha⟩ := ht.followed v fresh (h.refs_eq ▸ hv) (hc.trans h.columns.symm)
    refine ⟨v', hf, hs, hc', fun ref hm => ⟨(ha ref hm).1, ?_⟩⟩
    have hagree := (ha ref hm).2
    cases ref with
    | summary =>
      unfold Agrees at hagree ⊢
      rw [← h.summary]
      exact hagree
    | group key =>
      unfold Agrees at hagree ⊢
      rw [← h.nodes]
      exact hagree
  present := ht.present
  silent he := h.trans (ht.silent he)

theorem tells_nil (hs : ix.store.Sound) (h : ix.Alike ix') (hh : ix.Hears ix' []) : ix.Tells ix' [] :=
  tells_of_alike hs h hh (fun _ _ => rfl) (fun _ => rfl) fun _ _ hm => absurd hm List.not_mem_nil

/-! ## 4. Items taken out -/

theorem forall_of_positionsFrom_eq_nil {gone : GroupKey → Bool} {i : Nat} {keys : List GroupKey}
    (h : Store.positionsFrom gone i keys = []) : ∀ key ∈ keys, gone key = false := by
  induction keys generalizing i with
  | nil => exact fun key hk => absurd hk List.not_mem_nil
  | cons first keys ih =>
    rw [Store.positionsFrom, List.append_eq_nil_iff] at h
    intro key hk
    rcases List.mem_cons.mp hk with rfl | hk
    · refine eq_false_of_ne_true fun hg => ?_
      rw [if_pos hg] at h
      exact absurd h.2 (List.cons_ne_nil _ _)
    · exact ih h.1 key hk

theorem not_changed_mem_pairs {ref : NodeRef} {aspects : List Aspect} (bs : List Bracket) :
    .changed ref aspects ∉ bs.flatMap Bracket.pair := by
  intro hm
  obtain ⟨b, -, hb⟩ := List.mem_flatMap.mp hm
  simp [Bracket.pair] at hb

/-- A node that is told to have changed its members is one of those listed. -/
theorem mem_of_changed_mem {ref : NodeRef} {aspects : List Aspect} {bs : List Bracket}
    {keys : List GroupKey} (hm : .changed ref aspects ∈ bs.flatMap Bracket.pair ++
      keys.map fun key => Event.changed (.group key) [.members]) : ∃ key ∈ keys, ref = .group key := by
  rcases List.mem_append.mp hm with hm | hm
  · exact absurd hm (not_changed_mem_pairs bs)
  · obtain ⟨key, hk, he⟩ := List.mem_map.mp hm
    cases he
    exact ⟨key, hk, rfl⟩

/-- Displays stay while rows come and go and members change. -/
theorem foldl_cutColumns_rows (bs : List Bracket) (keys : List GroupKey) (display : List String)
    (hb : ∀ b ∈ bs, ∀ columns, b ≠ .removeColumns columns) :
    (bs.flatMap Bracket.pair ++ keys.map fun key => Event.changed (.group key) [.members]).foldl
      Event.cutColumns display = display := by
  have hbs : (bs.flatMap Bracket.pair).foldl Event.cutColumns display = display := by
    induction bs with
    | nil => rfl
    | cons b bs ih =>
      have hcut : Event.cutColumns display (.ends b) = display := by
        cases b with
        | removeColumns columns => exact absurd rfl (hb _ List.mem_cons_self columns)
        | _ => rfl
      rw [List.flatMap_cons, List.foldl_append]
      show (bs.flatMap Bracket.pair).foldl Event.cutColumns (Event.cutColumns display (.ends b)) =
        display
      rw [hcut]
      exact ih fun other hm => hb other (List.mem_cons_of_mem _ hm)
  rw [List.foldl_append, hbs, foldl_cutColumns_map_changed keys NodeRef.group [.members]]

/-- What becomes of a node from which items are taken and which stays. -/
theorem agrees_detached (hs : ix.store.Sound) {ids : List ItemId} {key : GroupKey}
    (hk : key ∈ (ix.detached ids).store.rows) :
    ix.Agrees (ix.detached ids) ((ix.store.detach ids).events ix.rowOffset) (.group key) := by
  obtain ⟨node', hn', -⟩ := getElem?_nodes_of_mem (hs.detach ids) hk
  obtain ⟨node, hn, hw, -⟩ := (Store.getElem?_nodes_detach hs).mp hn'
  refine ⟨node, node', hn, hn', ?_, ?_⟩
  · have hcut := foldl_cutColumns_rows ((ix.store.detach ids).positions.map fun i =>
      Bracket.remove (.single (ix.rowOffset + i))) (ix.store.detach ids).shrunk node.display (by simp)
    rw [Store.Detached.events, hcut, ← hw]
    rfl
  · by_cases hl : ∃ id ∈ ids, ix.store.Links key id
    · refine Or.inr (List.mem_append_right _ (List.mem_map_of_mem ?_))
      exact (Store.mem_shrunk_detach hs).mpr ⟨(hs.detach ids).mem_rows.mp hk, hl⟩
    · have hsame : node.without ids = node := by
        refine GroupNode.without_eq_self fun id hid hm => hl ⟨id, hid, ?_⟩
        exact ⟨node, hn, hm⟩
      rw [← hw, hsame]
      exact Or.inl rfl

/-- Taking items out of which nothing is told changes nothing that is shown. -/
theorem alike_detached (hs : ix.store.Sound) {ids : List ItemId}
    (he : (ix.store.detach ids).events ix.rowOffset = []) : ix.Alike (ix.detached ids) := by
  have hp : (ix.store.detach ids).positions = [] := by
    have hpairs := (List.append_eq_nil_iff.mp he).1
    cases hpos : (ix.store.detach ids).positions with
    | nil => rfl
    | cons i positions =>
      rw [hpos] at hpairs
      exact absurd hpairs (List.cons_ne_nil _ _)
  rw [Store.positions_detach hs] at hp
  have hrows : (ix.detached ids).store.rows = ix.store.rows := by
    show (ix.store.detach ids).store.rows = ix.store.rows
    rw [Store.rows_detach hs, List.filter_eq_self]
    intro key hm
    simpa using forall_of_positionsFrom_eq_nil hp key hm
  refine alike_of_agrees hs (hs.detach ids) hrows rfl rfl fun key hk => ?_
  have hagree := agrees_detached hs (hrows ▸ hk)
  rw [he] at hagree
  exact hagree

/-- **Taking items out tells of all it changes.** -/
theorem tells_detached (hs : ix.store.Sound) (hq : ix.notifier.current = none) (ids : List ItemId) :
    ix.Tells (ix.detached ids) ((ix.store.detach ids).events ix.rowOffset) where
  heard := hears_of_tell hq rfl
  followed v fresh hv hc := by
    obtain ⟨front, slots, hrows, hfront, hslots⟩ := hv.split
    have hlen : front.length = ix.rowOffset + 0 := by
      rw [hfront.length_eq, length_summary, Nat.add_zero]
    obtain ⟨slots', hf, hs', hsub⟩ := View.follow_removals fresh v.columns hslots hlen
    rw [← hrows, ← Store.positions_detach hs] at hf
    have hfilter : (fun key => !!(ix.store.detach ids).store.nodes.contains key) =
        (ix.store.detach ids).store.nodes.contains := funext fun key => Bool.not_not _
    rw [hfilter, ← Store.rows_detach hs] at hs'
    refine ⟨⟨front ++ slots', v.columns⟩, ?_, hfront.append hs', hc, fun ref hm => ⟨?_, ?_⟩⟩
    · rw [Store.Detached.events, View.followAll_append, hf, Option.bind_some,
        View.followAll_map_changed _ NodeRef.group]
    · rw [hrows]
      exact ((List.Sublist.refl front).append hsub).subset hm
    · cases ref with
      | summary => exact Or.inl rfl
      | group key =>
        have hstands : Stands (front ++ slots') (ix.detached ids).refs := hfront.append hs'
        exact agrees_detached hs (group_mem_refs.mp (hstands.mem hm))
  present ref aspects hm := by
    obtain ⟨key, hk, rfl⟩ := mem_of_changed_mem hm
    refine group_mem_refs.mpr ((hs.detach ids).mem_rows.mpr ?_)
    exact ((Store.mem_shrunk_detach hs).mp hk).1
  silent he := alike_detached hs he

/-! ## 5. A batch taken in -/

/-- The bracket that tells of the new rows of a batch, if there are any. -/
def insertion (ix : Index) (batch : Batch) : List Bracket :=
  let created := (ix.store.merge ix.layout.visible batch).created
  if created = 0 then []
  else [.insert ⟨ix.rowOffset + ix.store.rows.length,
    ix.rowOffset + ix.store.rows.length + created - 1⟩]

theorem events_merge (ix : Index) (batch : Batch) :
    (ix.store.merge ix.layout.visible batch).events (ix.rowOffset + ix.store.rows.length) =
      (ix.insertion batch).flatMap Bracket.pair ++
        (ix.store.merge ix.layout.visible batch).grown.map fun key =>
          .changed (.group key) [.members] := by
  unfold Store.Merged.events insertion
  dsimp only
  split <;> rfl

theorem eq_insert_of_mem_insertion {batch : Batch} {b : Bracket} (hb : b ∈ ix.insertion batch) :
    ∃ rows, b = .insert rows := by
  unfold insertion at hb
  dsimp only at hb
  split at hb
  · exact absurd hb List.not_mem_nil
  · exact ⟨_, List.mem_singleton.mp hb⟩

theorem refs_merged (hs : ix.store.Sound) (batch : Batch) : (ix.merged batch).refs =
    ix.refs ++ ((ix.store.freshGroups batch).map (·.1)).map .group := by
  show _ ++ (ix.store.merge ix.layout.visible batch).store.rows.map NodeRef.group = _
  rw [Store.rows_merge hs, List.map_append, refs, List.append_assoc]
  rfl

/-- A node that was there before a batch is still there, and shows what it showed. -/
theorem agrees_merged (hs : ix.store.Sound) {batch : Batch} (hb : batch.Sound) {key : GroupKey}
    (hk : key ∈ ix.store.rows) : ix.Agrees (ix.merged batch)
      ((ix.store.merge ix.layout.visible batch).events (ix.rowOffset + ix.store.rows.length)) (.group key) := by
  obtain ⟨node, hn, -⟩ := getElem?_nodes_of_mem hs hk
  have hsound := hs.merge hb ix.layout.visible
  have hk' : key ∈ (ix.merged batch).store.rows := by
    rw [← group_mem_refs, refs_merged hs]
    exact List.mem_append_left _ (group_mem_refs.mpr hk)
  obtain ⟨node', hn', -⟩ := getElem?_nodes_of_mem hsound hk'
  rw [events_merge]
  refine ⟨node, node', hn, hn', ?_, ?_⟩
  · have hnone : ∀ b ∈ ix.insertion batch, ∀ columns, b ≠ .removeColumns columns := by
      intro b hm columns he
      obtain ⟨rows, rfl⟩ := eq_insert_of_mem_insertion hm
      cases he
    rw [foldl_cutColumns_rows _ _ _ hnone]
    rcases Store.display_merge hs hn' with ⟨old, ho, hd⟩ | ⟨group, hfresh, -⟩
    · rw [hn] at ho
      cases ho
      exact hd
    · exact absurd (hs.mem_rows.mp hk) hfresh
  · by_cases hg : ∃ id, batch.Puts key id ∧ ¬ ix.store.Links key id
    · refine Or.inr (List.mem_append_right _ (List.mem_map_of_mem ?_))
      exact (Store.mem_grown_merge hs).mpr ⟨hs.mem_rows.mp hk, hg⟩
    · refine Or.inl (Std.ExtTreeSet.ext_mem fun id => ?_)
      rw [← Store.links_iff_mem hn', ← Store.links_iff_mem hn]
      show (ix.store.merge ix.layout.visible batch).store.Links key id ↔ _
      rw [Store.links_merge hs]
      refine ⟨fun h => ?_, Or.inl⟩
      rcases h with h | h
      · exact h
      · exact Classical.byContradiction fun hn => hg ⟨id, h, hn⟩

/-- The rows that a batch brings, as one who has not read them has them. -/
def unread (ix : Index) (batch : Batch) : List (Option NodeRef) :=
  List.replicate (ix.store.merge ix.layout.visible batch).created none

/-- A view that follows what is told of the new rows has them at its end. -/
theorem followAll_insertion (ix : Index) (batch : Batch) (fresh : View)
    (hlen : v.rows.length = ix.rowOffset + ix.store.rows.length) :
    v.followAll fresh ((ix.insertion batch).flatMap Bracket.pair) =
      some { v with rows := v.rows ++ ix.unread batch } := by
  unfold insertion unread
  dsimp only
  split
  · rename_i hz
    rw [hz, List.replicate_zero, List.append_nil]
    rfl
  · rename_i hz
    rw [List.flatMap_singleton, ← hlen]
    exact View.follow_insertion fresh hz

/-- The new rows stand at the end. -/
theorem stands_unread (hs : ix.store.Sound) (batch : Batch) {slots : List (Option NodeRef)}
    (h : Stands slots ix.refs) : Stands (slots ++ ix.unread batch) (ix.merged batch).refs := by
  rw [refs_merged hs]
  refine h.append ?_
  have hfresh := stands_replicate (((ix.store.freshGroups batch).map (·.1)).map .group)
  rw [List.length_map, List.length_map, ← Store.created_merge hs] at hfresh
  exact hfresh

/-- A row that has been read is none of the new ones. -/
theorem mem_of_mem_append_unread {batch : Batch} {slots : List (Option NodeRef)} {ref : NodeRef}
    (hm : some ref ∈ slots ++ ix.unread batch) : some ref ∈ slots := by
  rcases List.mem_append.mp hm with hm | hm
  · exact hm
  · cases List.eq_of_mem_replicate hm

/-- A batch of which nothing is told changes nothing that is shown. -/
theorem alike_merged (hs : ix.store.Sound) {batch : Batch} (hb : batch.Sound)
    (he : (ix.store.merge ix.layout.visible batch).events (ix.rowOffset + ix.store.rows.length) = []) :
    ix.Alike (ix.merged batch) := by
  have hfresh : ix.store.freshGroups batch = [] := by
    rw [← List.length_eq_zero_iff, ← Store.created_merge hs]
    refine Classical.byContradiction fun hz => ?_
    rw [events_merge, insertion, if_neg hz] at he
    cases he
  have hrows : (ix.merged batch).store.rows = ix.store.rows := by
    show (ix.store.merge ix.layout.visible batch).store.rows = _
    rw [Store.rows_merge hs, hfresh]
    exact List.append_nil _
  refine alike_of_agrees hs (hs.merge hb ix.layout.visible) hrows rfl rfl fun key hk => ?_
  have hagree := agrees_merged hs hb hk
  rw [he] at hagree
  exact hagree

/-- **Taking in a batch tells of all it changes.** -/
theorem tells_merged (hs : ix.store.Sound) (hq : ix.notifier.current = none) {batch : Batch}
    (hb : batch.Sound) : ix.Tells (ix.merged batch)
      ((ix.store.merge ix.layout.visible batch).events (ix.rowOffset + ix.store.rows.length)) where
  heard := hears_of_tell hq rfl
  followed v fresh hv hc := by
    have hlen : v.rows.length = ix.rowOffset + ix.store.rows.length := by
      rw [hv.length_eq, length_refs, rowCount]
    refine ⟨{ v with rows := v.rows ++ ix.unread batch }, ?_, stands_unread hs batch hv, hc, ?_⟩
    · rw [events_merge, View.followAll_append, followAll_insertion ix batch fresh hlen,
        Option.bind_some, View.followAll_map_changed _ NodeRef.group]
    · intro ref hm
      have hold := mem_of_mem_append_unread hm
      refine ⟨hold, ?_⟩
      cases ref with
      | summary => exact Or.inl rfl
      | group key => exact agrees_merged hs hb (group_mem_refs.mp (hv.mem hold))
  present ref aspects hm := by
    rw [events_merge] at hm
    obtain ⟨key, hk, rfl⟩ := mem_of_changed_mem hm
    rw [refs_merged hs]
    refine List.mem_append_left _ (group_mem_refs.mpr (hs.mem_rows.mpr ?_))
    exact ((Store.mem_grown_merge hs).mp hk).1
  silent he := alike_merged hs hb he

/-! ## 6. The summary and the columns -/

/-- The summary is there exactly when it is to be shown. -/
def Headed (ix : Index) : Prop := ix.summary.isSome = ix.showSummary

/-- What is told when the summary is brought up to date. -/
def summaryEvents (ix : Index) : List Event :=
  if ix.showSummary then
    if ix.summary = some ix.currentSummary then [] else [.changed .summary [.display]]
  else []

/-- Bringing the summary up to date leaves the rows. -/
theorem refs_refreshSummary (hh : ix.Headed) : ix.refreshSummary.refs = ix.refs := by
  unfold refreshSummary
  split
  · rename_i hshow
    split
    · rfl
    · have hsome : ix.summary.isSome = true := hh.trans hshow
      obtain ⟨summary, hsum⟩ := Option.isSome_iff_exists.mp hsome
      unfold refs
      rw [hsum]
      rfl
  · rfl

/-- **Bringing the summary up to date tells of all it changes.** -/
theorem tells_refreshSummary (hs : ix.store.Sound) (hq : ix.notifier.current = none) (hh : ix.Headed) :
    ix.Tells ix.refreshSummary ix.summaryEvents := by
  have hrefs := refs_refreshSummary hh
  unfold refreshSummary at hrefs ⊢
  unfold summaryEvents
  split
  · rename_i hshow
    rw [if_pos hshow] at hrefs
    split
    · exact tells_nil hs ⟨rfl, rfl, rfl, rfl⟩ (hears_nil rfl)
    · rename_i hne
      rw [if_neg hne] at hrefs
      refine ⟨hears_of_tell hq rfl, fun v fresh hv hc => ⟨v, rfl, ?_, hc, fun ref hm => ⟨hm, ?_⟩⟩,
        ?_, ?_⟩
      · rw [hrefs]
        exact hv
      · cases ref with
        | summary => exact Or.inr (List.mem_singleton_self _)
        | group key => exact agrees_group hs rfl (hv.mem hm) fun _ => rfl
      · intro ref aspects hm
        cases List.mem_singleton.mp hm
        rw [hrefs]
        exact summary_mem_refs.mpr (hh.trans hshow)
      · intro he
        cases he
  · exact tells_nil hs ⟨rfl, rfl, rfl, rfl⟩ (hears_nil rfl)

/-- **Hiding a column tells of all it changes.** -/
theorem tells_narrowed (hs : ix.store.Sound) (hq : ix.notifier.current = none) {i : Nat}
    {column : Column} (hi : ix.layout.columns[i]? = some column) :
    ix.Tells (ix.narrowed i column) (Bracket.removeColumns (.single i)).pair where
  heard := hears_of_tell hq rfl
  followed v fresh hv hc := by
    obtain ⟨hlt, -⟩ := List.getElem?_eq_some_iff.mp hi
    have hadmits : v.admits fresh (.removeColumns (.single i)) = true := by
      simp [View.admits, Span.single, hc, hlt]
    refine ⟨_, View.followAll_pair hadmits, hv, ?_, fun ref hm => ⟨hm, ?_⟩⟩
    · show (Span.single i).cut v.columns = ix.layout.columns.eraseIdx i
      rw [Span.cut_single, hc]
    · cases ref with
      | summary => exact Or.inl rfl
      | group key =>
        obtain ⟨node, hn, -⟩ := getElem?_nodes_of_mem hs (group_mem_refs.mp (hv.mem hm))
        refine ⟨node, node.hideColumn i, hn, ?_, ?_, Or.inl rfl⟩
        · show (ix.store.hideColumn i).nodes[key]? = _
          rw [Store.getElem?_nodes_hideColumn, hn]
          rfl
        · show node.display.eraseIdx i = (Span.single i).cut node.display
          rw [Span.cut_single]
  present ref aspects hm := by simp [Bracket.pair] at hm
  silent he := by cases he

end Index

end MediaIndex
