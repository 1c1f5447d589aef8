import MediaIndex.Proofs.Browser.Rows
import MediaIndex.Proofs.Representation

/-!
# Filters narrow a query

A query keeps some nodes in the order of their rows. One more filter leaves some of these. A bound looks at
the members of a node alone, whereas the first column filter has the matcher tried on one column instead of
all: what it accepts there it accepts somewhere, since every node shows a value in every visible column.

* `FirstNamed`, `findIdx?_eq_some_iff` -- the column that a column filter is about;
* `matches_withFilter_bound`, `matches_withFilter_column`, `matches_withFilter_later` -- what one more filter
  asks of a node;
* `matches_of_withFilter` -- a node that meets it was kept without it;
* `Index.Narrows`, `filters_narrow` -- what queries keep, after every run.
-/

namespace MediaIndex

/-! ## 1. The column of a filter -/

/-- The column at the place is the first one with the field, the case of ASCII letters ignored. -/
structure FirstNamed (columns : List Column) (field : String) (i : Nat) : Prop where
  named : ∃ c, columns[i]? = some c ∧ equalIgnoringAsciiCase c.field field = true
  first : ∀ j < i, ∀ c, columns[j]? = some c → equalIgnoringAsciiCase c.field field = false

variable {columns : List Column} {field : String} {i : Nat}

theorem FirstNamed.lt_length (h : FirstNamed columns field i) : i < columns.length := by
  obtain ⟨c, hc, -⟩ := h.named
  exact (List.getElem?_eq_some_iff.mp hc).1

theorem findIdx?_eq_some_iff :
    columns.findIdx? (equalIgnoringAsciiCase ·.field field) = some i ↔ FirstNamed columns field i := by
  rw [List.findIdx?_eq_some_iff_getElem]
  constructor
  · intro h
    obtain ⟨hi, hnamed, hfirst⟩ := h
    refine ⟨⟨columns[i], List.getElem?_eq_getElem hi, hnamed⟩, fun j hj c hc => ?_⟩
    obtain ⟨-, rfl⟩ := List.getElem?_eq_some_iff.mp hc
    exact Bool.eq_false_iff.mpr (hfirst j hj)
  · intro h
    obtain ⟨c, hc, hnamed⟩ := h.named
    obtain ⟨hi, rfl⟩ := List.getElem?_eq_some_iff.mp hc
    exact ⟨hi, hnamed, fun j hj => Bool.eq_false_iff.mp (h.first j hj _ (List.getElem?_eq_getElem _))⟩

theorem findIdx?_eq_none_iff : columns.findIdx? (equalIgnoringAsciiCase ·.field field) = none ↔
    ∀ c ∈ columns, equalIgnoringAsciiCase c.field field = false := List.findIdx?_eq_none_iff

namespace NodeQuery

variable {q : NodeQuery} {f : NodeFilter} {node : GroupNode}

/-! ## 2. One more filter -/

theorem restriction_eq_none_iff : q.restriction = none ↔ ∀ field, .column field ∉ q.filters := by
  rw [restriction, List.findSome?_eq_none_iff]
  constructor
  · intro h field hm
    cases h _ hm
  · intro h f hm
    cases f with
    | column field => exact absurd hm (h field)
    | minMembers n => rfl
    | maxMembers n => rfl

theorem restriction_withFilter (q : NodeQuery) (f : NodeFilter) :
    (q.withFilter f).restriction = q.restriction.or f.field? := by
  simp [restriction, withFilter, List.findSome?_append]

theorem all_accepts_withFilter (q : NodeQuery) (f : NodeFilter) (node : GroupNode) :
    (q.withFilter f).filters.all (·.accepts node) = (q.filters.all (·.accepts node) && f.accepts node) := by
  simp [withFilter]

/-- The value that counts is the same while the column is. -/
theorem acceptsValue_withFilter (h : (q.withFilter f).restriction = q.restriction) :
    (q.withFilter f).acceptsValue node columns = q.acceptsValue node columns := by
  unfold acceptsValue
  rw [h]
  rfl

/-- A bound is met by the node alone. -/
theorem matches_withFilter_bound (hf : f.field? = none) :
    (q.withFilter f).matches node columns = (q.matches node columns && f.accepts node) := by
  have hr : (q.withFilter f).restriction = q.restriction := by
    rw [restriction_withFilter, hf, Option.or_none]
  rw [«matches», «matches», all_accepts_withFilter, acceptsValue_withFilter hr, Bool.and_right_comm]

/-- Of the column filters the first one counts. -/
theorem matches_withFilter_later (hq : ∃ earlier, .column earlier ∈ q.filters) (field : String) :
    (q.withFilter (.column field)).matches node columns = q.matches node columns := by
  obtain ⟨earlier, hm⟩ := hq
  have hsome : q.restriction ≠ none := fun h => restriction_eq_none_iff.mp h earlier hm
  obtain ⟨first, hfirst⟩ := Option.ne_none_iff_exists'.mp hsome
  have hr : (q.withFilter (.column field)).restriction = q.restriction := by
    rw [restriction_withFilter, hfirst, Option.some_or]
  rw [«matches», «matches», all_accepts_withFilter, acceptsValue_withFilter hr]
  exact congrArg (· && _) (Bool.and_true _)

/-- The first column filter has the matcher tried on the first column of that field, if there is one. -/
theorem matches_withFilter_column (hq : ∀ earlier, .column earlier ∉ q.filters) (field : String) :
    (q.withFilter (.column field)).matches node columns = (q.filters.all (·.accepts node) &&
      (columns.findIdx? (equalIgnoringAsciiCase ·.field field)).any (q.matcher.accepts <| node.column ·)) := by
  have hr : (q.withFilter (.column field)).restriction = some field := by
    rw [restriction_withFilter, restriction_eq_none_iff.mpr hq]
    rfl
  have hall : (q.withFilter (.column field)).filters.all (·.accepts node) = q.filters.all (·.accepts node) := by
    rw [all_accepts_withFilter]
    exact Bool.and_true _
  rw [«matches», hall, acceptsValue, hr]
  cases h : columns.findIdx? (equalIgnoringAsciiCase ·.field field) <;> simp only [h] <;> rfl

/-- Without a column filter the matcher is tried on every column that is shown. -/
theorem acceptsValue_of_column (hq : ∀ earlier, .column earlier ∉ q.filters) (hi : i < node.display.length)
    (ha : q.matcher.accepts (node.column i) = true) : q.acceptsValue node columns = true := by
  unfold acceptsValue
  rw [restriction_eq_none_iff.mpr hq]
  exact List.any_eq_true.mpr ⟨i, List.mem_range.mpr (by omega), ha⟩

/-- **A node that meets one more filter was kept without it**, when it shows a value in every column. -/
theorem matches_of_withFilter (hd : node.display.length = columns.length)
    (h : (q.withFilter f).matches node columns = true) : q.matches node columns = true := by
  cases f with
  | minMembers n =>
    rw [matches_withFilter_bound rfl] at h
    exact (Bool.and_eq_true_iff.mp h).1
  | maxMembers n =>
    rw [matches_withFilter_bound rfl] at h
    exact (Bool.and_eq_true_iff.mp h).1
  | column field =>
    by_cases hq : ∃ earlier, .column earlier ∈ q.filters
    · rwa [matches_withFilter_later hq] at h
    · have hq := not_exists.mp hq
      rw [matches_withFilter_column hq] at h
      obtain ⟨hall, hany⟩ := Bool.and_eq_true_iff.mp h
      obtain ⟨i, hi, ha⟩ := (Option.any_eq_true _ _).mp hany
      have hlt := (findIdx?_eq_some_iff.mp hi).lt_length
      rw [«matches», hall, acceptsValue_of_column hq (hd ▸ hlt) ha]
      rfl

/-- The empty text is found in every value. -/
theorem accepts_of_acceptsAll {m : Matcher} (h : m.acceptsAll = true) (value : String) :
    m.accepts value = true := by
  cases m with
  | substring lowered =>
    have hnil : lowered.toList = [] := by simpa [Matcher.acceptsAll] using h
    show occursIn lowered.toList (lowercase value).toList = true
    rw [hnil]
    cases (lowercase value).toList <;> rfl
  | exact lowered => cases h
  | pattern r => cases h

theorem matches_of_keepsAll (h : q.keepsAll = true) : q.matches node columns = true := by
  obtain ⟨hm, hf⟩ := Bool.and_eq_true_iff.mp h
  have hnil := List.isEmpty_iff.mp hf
  have hr : q.restriction = none := by
    rw [restriction, hnil]
    rfl
  rw [«matches», acceptsValue, hnil, hr]
  exact List.any_eq_true.mpr ⟨0, List.mem_range.mpr (by omega), accepts_of_acceptsAll hm _⟩

end NodeQuery

namespace Index

/-! ## 3. Queries to an index -/

/-- What a query keeps of an index, and with one more filter. -/
structure Narrows (ix : Index) (q : NodeQuery) : Prop where
  /-- Nodes are kept in the order of their rows. -/
  kept : (ix.filter q).Sublist ix.nodes ∧ ix.nodes.map (·.key) = ix.store.rows
  all : q.keepsAll = true → ix.filter q = ix.nodes
  fewer : ∀ f, (ix.filter (q.withFilter f)).Sublist (ix.filter q)
  atLeast : ∀ n, ix.filter (q.withFilter (.minMembers n)) =
    (ix.filter q).filter fun node => n ≤ node.members.size
  atMost : ∀ n, ix.filter (q.withFilter (.maxMembers n)) =
    (ix.filter q).filter fun node => node.members.size ≤ n
  /-- A node shows its own value in a column, unless that is empty. -/
  shown : ∀ node ∈ ix.nodes, ∀ i < ix.layout.columns.length, ∃ value, node.display[i]? = some value ∧
    node.column i = if value = "" then "?" else value
  /-- The first column filter keeps the nodes with an accepted value in the first column of that field. -/
  firstColumn : (∀ earlier, .column earlier ∉ q.filters) → ∀ field i,
    FirstNamed ix.layout.columns field i → ix.filter (q.withFilter (.column field)) =
      ix.nodes.filter fun node => q.filters.all (·.accepts node) && q.matcher.accepts (node.column i)
  /-- It keeps none when there is no such column. -/
  noColumn : (∀ earlier, .column earlier ∉ q.filters) → ∀ field,
    (∀ c ∈ ix.layout.columns, equalIgnoringAsciiCase c.field field = false) →
      ix.filter (q.withFilter (.column field)) = []
  /-- A later one changes nothing. -/
  laterColumn : (∃ earlier, .column earlier ∈ q.filters) → ∀ field,
    ix.filter (q.withFilter (.column field)) = ix.filter q

variable {ix : Index}

theorem Consistent.length_display_of_mem (h : ix.Consistent) {node : GroupNode} (hm : node ∈ ix.nodes) :
    node.display.length = ix.layout.columns.length := by
  obtain ⟨key, -, hn⟩ := List.mem_filterMap.mp hm
  exact h.length_display key node hn

theorem Consistent.column_eq (h : ix.Consistent) {node : GroupNode} (hm : node ∈ ix.nodes) {i : Nat}
    (hi : i < ix.layout.columns.length) : ∃ value, node.display[i]? = some value ∧
      node.column i = if value = "" then "?" else value := by
  have hlt : i < node.display.length := h.length_display_of_mem hm ▸ hi
  refine ⟨node.display[i], List.getElem?_eq_getElem hlt, ?_⟩
  simp only [GroupNode.column, List.getElem?_eq_getElem hlt, String.isEmpty_iff, GroupNode.placeholder]

theorem Consistent.narrows (h : ix.Consistent) (hs : ix.store.Sound) (q : NodeQuery) : ix.Narrows q where
  kept := ⟨List.filter_sublist, map_key_nodes hs⟩
  all hq := List.filter_eq_self.mpr fun _ _ => NodeQuery.matches_of_keepsAll hq
  fewer f := by
    have hsub : ix.filter (q.withFilter f) =
        (ix.filter q).filter fun node => (q.withFilter f).matches node ix.layout.columns := by
      rw [filter, filter, List.filter_filter]
      refine List.filter_congr fun node hm => ?_
      have hd := h.length_display_of_mem hm
      exact Bool.eq_iff_iff.mpr ⟨fun ha => Bool.and_eq_true_iff.mpr ⟨ha, NodeQuery.matches_of_withFilter hd ha⟩,
        fun ha => (Bool.and_eq_true_iff.mp ha).1⟩
    rw [hsub]
    exact List.filter_sublist
  atLeast n := by
    rw [filter, filter, List.filter_filter]
    refine List.filter_congr fun node _ => ?_
    rw [NodeQuery.matches_withFilter_bound rfl, Bool.and_comm]
    rfl
  atMost n := by
    rw [filter, filter, List.filter_filter]
    refine List.filter_congr fun node _ => ?_
    rw [NodeQuery.matches_withFilter_bound rfl, Bool.and_comm]
    rfl
  shown _ hm _ hi := h.column_eq hm hi
  firstColumn hq field i hi := by
    refine List.filter_congr fun node _ => ?_
    rw [NodeQuery.matches_withFilter_column hq, findIdx?_eq_some_iff.mpr hi, Option.any_some]
  noColumn hq field hn := by
    refine List.filter_eq_nil_iff.mpr fun node _ => ?_
    rw [NodeQuery.matches_withFilter_column hq, findIdx?_eq_none_iff.mpr hn, Option.any_none, Bool.and_false]
    exact Bool.false_ne_true
  laterColumn hq field := List.filter_congr fun _ _ => NodeQuery.matches_withFilter_later hq field

/-- **Filters narrow a query**, after every run and for every query. -/
theorem filters_narrow (extractor : Extractor) (options : IndexOptions) (steps : List Step) :
    ∃ ix, (ofOptions extractor options).run steps = .ok ix ∧ ∀ q, ix.Narrows q := by
  have ho := orderly_ofOptions extractor options
  have ha := (arranged_ofOptions extractor options).foldl_after ho steps
  have hs := (ho.foldl_after steps).store
  exact ⟨_, run_eq ho.quiet steps, (ha.consistent hs).narrows hs⟩

end Index

end MediaIndex
