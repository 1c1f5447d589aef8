import MediaIndex.Toml.Table

/-!
# What a written document comes to

A document that is written section by section adds to the table it has begun last, and never goes back. So
each section comes to one table with the entries of its lines, in their order.

* `setEntry_last`, `lookup_last` -- the entry that was put in last;
* `Reaches`, `reaches_table`, `reaches_element` -- the table that a path leads to;
* `run_assigns` -- the assignments of a section fill its table;
* `run_section`, `run_elements` -- **what a section comes to**, and a list of tables with one header each.
-/

namespace MediaIndex.Toml

variable {key sub : String} {v old : Value} {origin : Origin} {entries others inner inner' new : Entries}
  {path : List String} {byDots : Bool} {elements : List Value}
  {change : Origin → Entries → Option Entries}

/-! ## 1. The entry that was put in last -/

theorem lookup_last (h : entries.lookup key = none) : (entries ++ [(key, v)]).lookup key = some v := by
  simp [List.lookup_append, h]

theorem setEntry_new (h : entries.lookup key = none) : setEntry key v entries = entries ++ [(key, v)] := by
  induction entries with
  | nil => rfl
  | cons e rest ih =>
    obtain ⟨hne, hrest⟩ := List.forall_mem_cons.mp (List.lookup_eq_none_iff.mp h)
    have hne : ¬ e.1 = key := fun he => by simp [he] at hne
    rw [setEntry, if_neg hne, ih (List.lookup_eq_none_iff.mpr hrest), List.cons_append]

theorem setEntry_last (h : entries.lookup key = none) :
    setEntry key v (entries ++ [(key, old)]) = entries ++ [(key, v)] := by
  induction entries with
  | nil => simp [setEntry]
  | cons e rest ih =>
    obtain ⟨hne, hrest⟩ := List.forall_mem_cons.mp (List.lookup_eq_none_iff.mp h)
    have hne : ¬ e.1 = key := fun he => by simp [he] at hne
    rw [List.cons_append, setEntry, if_neg hne, ih (List.lookup_eq_none_iff.mpr hrest), List.cons_append]

theorem changeLast_append {α : Type} {f : α → Option α} {as : List α} {a b : α} (h : f a = some b) :
    changeLast f (as ++ [a]) = some (as ++ [b]) := by
  induction as with
  | nil => simp [changeLast, h]
  | cons a' as ih =>
    cases as with
    | nil => simp [changeLast, h]
    | cons a'' as => simp [changeLast] at ih ⊢; simp [ih]

/-! ## 2. The table that a path leads to -/

theorem alter_table (h : entries.lookup key = none) (ho : isOpen byDots .header = true)
    (e : alter byDots change path .header inner = some inner') :
    alter byDots change (key :: path) origin (entries ++ [(key, .table .header inner)]) =
      some (entries ++ [(key, .table .header inner')]) := by
  rw [alter, lookup_last h]
  dsimp only
  rw [if_pos ho, e]
  exact congrArg some (setEntry_last h)

theorem alter_element (h : entries.lookup key = none)
    (e : alter byDots change path .header inner = some inner') :
    alter byDots change (key :: path) origin
        (entries ++ [(key, .tables (elements ++ [.table .header inner]))]) =
      some (entries ++ [(key, .tables (elements ++ [.table .header inner']))]) := by
  rw [alter, lookup_last h]
  dsimp only
  rw [changeLast_append (b := .table .header inner') (by simp [e])]
  exact congrArg some (setEntry_last h)

/-- A path leads to a table, which stands in the document as `put` says: what changes the table changes the
    document. -/
def Reaches (path : List String) (put : Entries → Entries) : Prop :=
  ∀ ⦃change inner inner'⦄, change .header inner = some inner' →
    alter false change path .header (put inner) = some (put inner')

theorem reaches_table (h : entries.lookup key = none) :
    Reaches [key] fun inner => entries ++ [(key, .table .header inner)] :=
  fun _ _ _ e => alter_table h rfl e

/-- The last table of a list that is the last entry of the last table. -/
theorem reaches_element (h : entries.lookup key = none) (hsub : others.lookup sub = none) :
    Reaches [key, sub] fun inner =>
      entries ++ [(key, .table .header (others ++ [(sub, .tables (elements ++ [.table .header inner]))]))] :=
  fun _ _ _ e => alter_table h rfl (alter_element hsub e)

/-! ## 3. Assignments -/

/-- The assignments that give a table its entries. -/
def assigns (entries : Entries) : List Statement := entries.map fun (key, v) => .assign [key] v

theorem assign_new (h : inner.lookup key = none) :
    assign [key] v .header inner = some (inner ++ [(key, v)]) := by
  simp [assign, alter, define, h]

/-- **Assignments of different keys fill a table.** -/
theorem run_assigns {put : Entries → Entries} (h : Reaches path put)
    (hkeys : ((inner ++ new).map (·.1)).Nodup) :
    (assigns new).foldlM Progress.step ⟨put inner, path⟩ = some ⟨put (inner ++ new), path⟩ := by
  induction new generalizing inner with
  | nil =>
    rw [List.append_nil]
    rfl
  | cons e new ih =>
    obtain ⟨key, v⟩ := e
    have hnone : inner.lookup key = none := by
      refine List.lookup_eq_none_iff.mpr fun e he => bne_iff_ne.mpr fun hkey => ?_
      rw [List.map_append, List.nodup_append] at hkeys
      exact hkeys.2.2 _ (List.mem_map_of_mem he) _ List.mem_cons_self hkey.symm
    have hstep : Progress.step ⟨put inner, path⟩ (.assign [key] v) =
        some ⟨put (inner ++ [(key, v)]), path⟩ := by
      rw [Progress.step, h (assign_new hnone)]
      rfl
    rw [List.append_cons] at hkeys ⊢
    exact Option.bind_eq_some_iff.mpr ⟨_, hstep, ih hkeys⟩

/-! ## 4. Sections -/

/-- **A section comes to one table**, which holds what its lines give it. -/
theorem run_section (h : entries.lookup key = none) (hkeys : (new.map (·.1)).Nodup) :
    (Statement.header [key] :: assigns new).foldlM Progress.step ⟨entries, path⟩ =
      some ⟨entries ++ [(key, .table .header new)], [key]⟩ := by
  have hopen : Progress.step ⟨entries, path⟩ (.header [key]) =
      some ⟨entries ++ [(key, .table .header [])], [key]⟩ := by
    simp [Progress.step, openAt, alter, openTable, h, setEntry_new h]
  exact Option.bind_eq_some_iff.mpr ⟨_, hopen, run_assigns (reaches_table h) hkeys⟩

/-- The entry for tables with one header each; there is none before the first one. -/
def listed (sub : String) (elements : List Value) : Entries :=
  if elements.isEmpty then [] else [(sub, .tables elements)]

theorem listed_append (sub : String) (elements : List Value) (v : Value) :
    listed sub (elements ++ [v]) = [(sub, .tables (elements ++ [v]))] := by
  simp [listed]

theorem openElement_listed (hsub : others.lookup sub = none) :
    openElement sub (others ++ listed sub elements) =
      some (others ++ listed sub (elements ++ [.table .header []])) := by
  rw [listed_append]
  cases elements with
  | nil => simp [listed, openElement, hsub, setEntry_new hsub]
  | cons v elements =>
    have hlisted : listed sub (v :: elements) = [(sub, .tables (v :: elements))] := rfl
    rw [hlisted, openElement, lookup_last hsub]
    exact congrArg some (setEntry_last hsub)

theorem run_element (h : entries.lookup key = none) (hsub : others.lookup sub = none)
    (hkeys : (new.map (·.1)).Nodup) :
    (Statement.element [key, sub] :: assigns new).foldlM Progress.step
      ⟨entries ++ [(key, .table .header (others ++ listed sub elements))], path⟩ =
    some ⟨entries ++ [(key, .table .header (others ++ listed sub (elements ++ [.table .header new])))],
      [key, sub]⟩ := by
  have hopen : Progress.step ⟨entries ++ [(key, .table .header (others ++ listed sub elements))], path⟩
      (.element [key, sub]) =
      some ⟨entries ++ [(key, .table .header (others ++ listed sub (elements ++ [.table .header []])))],
        [key, sub]⟩ :=
    Option.map_eq_some_iff.mpr ⟨_, reaches_table h (openElement_listed hsub), rfl⟩
  rw [listed_append] at hopen ⊢
  exact Option.bind_eq_some_iff.mpr ⟨_, hopen, run_assigns (reaches_element h hsub) hkeys⟩

/-- **Sections of doubled brackets come to a list of tables**, by induction on the sections. -/
theorem run_elements (elements : List Value) (path : List String) (h : entries.lookup key = none)
    (hsub : others.lookup sub = none) {news : List Entries} (hkeys : ∀ new ∈ news, (new.map (·.1)).Nodup) :
    ∃ path', (news.flatMap fun new => .element [key, sub] :: assigns new).foldlM Progress.step
        ⟨entries ++ [(key, .table .header (others ++ listed sub elements))], path⟩ =
      some ⟨entries ++ [(key, .table .header
        (others ++ listed sub (elements ++ news.map (Value.table .header))))], path'⟩ := by
  induction news generalizing elements path with
  | nil => exact ⟨path, by rw [List.map_nil, List.append_nil]; rfl⟩
  | cons new news ih =>
    obtain ⟨hnew, hnews⟩ := List.forall_mem_cons.mp hkeys
    obtain ⟨path', hrun⟩ := ih (elements ++ [.table .header new]) [key, sub] hnews
    refine ⟨path', ?_⟩
    rw [List.flatMap_cons, List.foldlM_append, run_element h hsub hnew]
    rw [List.append_assoc] at hrun
    exact hrun

end MediaIndex.Toml
