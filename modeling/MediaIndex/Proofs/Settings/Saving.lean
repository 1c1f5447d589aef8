import MediaIndex.Proofs.Settings.ColumnLists
import MediaIndex.Proofs.Toml.Bounds
import MediaIndex.Proofs.Toml.Lines
import MediaIndex.Proofs.Toml.Tables
import MediaIndex.Settings.Written

/-!
# Settings that are saved and loaded

Settings are written as a document with every part in it, so nothing is left to the defaults when it is
loaded. What a document can hold is what loading gives: columns that name a field, and a threshold that is
a TOML integer.

* `Settings.said`, `statements_write` -- the statements that the written text reads as;
* `Settings.tables`, `entriesOf_said` -- the tables that they make;
* `ofEntries_tables` -- the settings that the tables give;
* `Storable`, `Storable.load_write` -- **what a document can hold is loaded as it was saved**;
* `storable_of_load`, `Storable.withColumns` -- what loading gives can be held, with other columns too;
* `saved_settings_are_loaded` -- all this for saving what was loaded.
-/

namespace MediaIndex.Settings

open Toml (Statement Value Entries Says Progress assigns)

variable {s : Settings} {c : Column} {columns : List Column}

/-! ## 1. The statements of the written text -/

/-- What the document holds in general. -/
def general (s : Settings) : Entries := [("log_level", .text s.logLevel)]

/-- What it holds of the grouping, apart from columns that have tables of their own. -/
def grouping (s : Settings) : Entries :=
  (if s.columns.isEmpty then [("columns", .array [])] else []) ++
    [("show_summary", .boolean s.showSummary), ("multi_value_separator", .text s.separator)]

/-- What it holds of a column. -/
def columnEntries (c : Column) : Entries := [("field", .text c.field), ("name", .text c.name)]

/-- What it holds about speed. -/
def performance (s : Settings) : Entries :=
  [("parallel_threshold", .integer s.parallelThreshold), ("coalesce_updates", .boolean s.coalesceUpdates)]

/-- What the section of a column says. -/
def columnSaid (c : Column) : List Statement := .element ["grouping", "columns"] :: assigns (columnEntries c)

/-- What the sections say, one after another. -/
def said (s : Settings) : List (List Statement) :=
  [.header ["general"] :: assigns s.general, .header ["grouping"] :: assigns s.grouping] ++
  s.columns.map columnSaid ++ [.header ["performance"] :: assigns s.performance]

/-- A line with a statement. -/
def LineSays (line : String) (st : Statement) : Prop := Says line.toList (some st)

theorem toList_assignment (key value : String) :
    (assignment key value).toList = key.toList ++ ' ' :: '=' :: ' ' :: value.toList := by
  simp [assignment]

theorem lineSays_assign {key value : String} {v : Value} (hk : Toml.isBareKey key = true)
    (hv : v.Written value.toList) : LineSays (assignment key value) (.assign [key] v) := by
  rw [LineSays, toList_assignment]
  exact Toml.says_assign hk hv

theorem lineSays_text {key : String} (hk : Toml.isBareKey key = true) (text : String) :
    LineSays (textLine key text) (.assign [key] (.text text)) :=
  lineSays_assign hk (Toml.written_text text)

theorem lineSays_flag {key : String} (hk : Toml.isBareKey key = true) (flag : Bool) :
    LineSays (flagLine key flag) (.assign [key] (.boolean flag)) :=
  lineSays_assign hk (Toml.written_boolean flag)

theorem lineSays_header {key : String} (hk : Toml.isBareKey key = true) {line : String}
    (hline : line.toList = '[' :: (key.toList ++ [']'])) : LineSays line (.header [key]) := by
  have htext : line.toList = '[' :: (Toml.keyText key [] ++ [']']) := by rw [hline, Toml.keyText]; simp
  rw [LineSays, htext]
  exact Toml.says_header (Toml.isBarePath_of_isBareKey hk)

theorem lineSays_columns : LineSays "[[grouping.columns]]" (.element ["grouping", "columns"]) := by
  show Says ('[' :: '[' :: (Toml.keyText "grouping" ["columns"] ++ [']', ']'])) _
  exact Toml.says_element ⟨by decide, by decide⟩

/-- **Each section says what it is to say.** -/
theorem sections_said (h : Toml.Numeral.inRange s.parallelThreshold = true) :
    List.Forall₂ (List.Forall₂ LineSays) s.sections s.said := by
  have hgeneral : List.Forall₂ LineSays ["[general]", textLine "log_level" s.logLevel]
      (.header ["general"] :: assigns s.general) :=
    .cons (lineSays_header (by decide) rfl) (.cons (lineSays_text (by decide) _) .nil)
  have hflags : List.Forall₂ LineSays
      [flagLine "show_summary" s.showSummary, textLine "multi_value_separator" s.separator]
      [.assign ["show_summary"] (.boolean s.showSummary),
        .assign ["multi_value_separator"] (.text s.separator)] :=
    .cons (lineSays_flag (by decide) _) (.cons (lineSays_text (by decide) _) .nil)
  have hgrouping : List.Forall₂ LineSays
      (["[grouping]"] ++ (if s.columns.isEmpty then [assignment "columns" "[]"] else []) ++
        [flagLine "show_summary" s.showSummary, textLine "multi_value_separator" s.separator])
      (.header ["grouping"] :: assigns s.grouping) := by
    refine .cons (lineSays_header (by decide) rfl) ?_
    rw [grouping]
    split
    next => exact .cons (lineSays_assign (by decide) Toml.written_empty) hflags
    next => exact hflags
  have hcolumn (c : Column) : List.Forall₂ LineSays (columnSection c) (columnSaid c) :=
    .cons lineSays_columns (.cons (lineSays_text (by decide) _) (.cons (lineSays_text (by decide) _) .nil))
  have hcolumns : List.Forall₂ (List.Forall₂ LineSays) (s.columns.map columnSection)
      (s.columns.map columnSaid) := by
    refine List.forall₂_map_left_iff.mpr (List.forall₂_map_right_iff.mpr ?_)
    exact List.forall₂_same.mpr fun c _ => hcolumn c
  have hperformance : List.Forall₂ LineSays
      ["[performance]", assignment "parallel_threshold" (toString s.parallelThreshold),
        flagLine "coalesce_updates" s.coalesceUpdates]
      (.header ["performance"] :: assigns s.performance) :=
    .cons (lineSays_header (by decide) rfl)
      (.cons (lineSays_assign (by decide) (Toml.written_count h)) (.cons (lineSays_flag (by decide) _) .nil))
  have hfront := List.rel_append (.cons hgeneral (.cons hgrouping .nil)) hcolumns
  exact List.rel_append hfront (.cons hperformance .nil)

theorem toList_join_lines (lines : List String) :
    (String.join (lines.map (· ++ "\n"))).toList = Toml.documentOf (lines.map String.toList) := by
  simp [String.toList_join, Toml.documentOf, List.flatMap_map]

/-- Sections with an empty line between two are a document that says what the sections say. -/
theorem exists_lines {sections : List (List String)} {said : List (List Statement)}
    (h : List.Forall₂ (List.Forall₂ LineSays) sections said) :
    ∃ lines lineSaid, List.Forall₂ Says lines lineSaid ∧ lineSaid.filterMap id = said.flatten ∧
      ("\n".intercalate (sections.map fun lines => String.join (lines.map (· ++ "\n")))).toList =
        Toml.documentOf lines := by
  induction h with
  | nil => exact ⟨[], [], .nil, rfl, by rw [List.map_nil, String.intercalate_nil]; rfl⟩
  | @cons first firstSaid sections said hfirst h ih =>
    have hlines : List.Forall₂ Says (first.map String.toList) (firstSaid.map some) :=
      List.forall₂_map_left_iff.mpr (List.forall₂_map_right_iff.mpr hfirst)
    obtain ⟨lines, lineSaid, hsays, hsaid, htext⟩ := ih
    cases h with
    | nil =>
      refine ⟨_, _, hlines, by simp, ?_⟩
      rw [List.map_cons, List.map_nil, String.intercalate_singleton, toList_join_lines]
    | @cons second _ sections _ _ _ =>
      refine ⟨first.map String.toList ++ [] :: lines, firstSaid.map some ++ none :: lineSaid,
        List.rel_append hlines (.cons Toml.says_nil hsays), ?_, ?_⟩
      · simp [← hsaid]
      · rw [List.map_cons, List.map_cons] at *
        rw [String.intercalate_cons_cons, String.toList_append, String.toList_append, htext, toList_join_lines]
        simp [Toml.documentOf]

theorem exists_write_eq (s : Settings) : ∃ more, s.write.toList = '[' :: more := by
  obtain ⟨second, rest, e⟩ : ∃ second rest,
      s.sections.map (fun lines => String.join (lines.map (· ++ "\n"))) =
        String.join (["[general]", textLine "log_level" s.logLevel].map (· ++ "\n")) :: second :: rest :=
    ⟨_, _, rfl⟩
  rw [write, e, String.intercalate_cons_cons, String.toList_append, String.toList_append, toList_join_lines]
  exact ⟨_, rfl⟩

/-- **The written text reads as what the sections say.** -/
theorem statements_write (h : Toml.Numeral.inRange s.parallelThreshold = true) :
    Toml.statements s.write.toList = some s.said.flatten := by
  obtain ⟨lines, lineSaid, hsays, hsaid, htext⟩ := exists_lines (sections_said h)
  rw [← write] at htext
  have hmark : Reader.char '\ufeff' (Toml.documentOf lines) = none := by
    obtain ⟨more, e⟩ := exists_write_eq s
    rw [← htext, e]
    rfl
  rw [htext, Toml.statements_of_says hsays hmark, hsaid]

/-! ## 2. The tables that the statements make -/

/-- The tables of the columns. -/
def columnTables (s : Settings) : Entries :=
  Toml.listed "columns" (s.columns.map fun c => .table .header (columnEntries c))

/-- The tables of the written text. -/
def tables (s : Settings) : Entries :=
  [("general", .table .header s.general), ("grouping", .table .header (s.grouping ++ s.columnTables)),
   ("performance", .table .header s.performance)]

/-- The keys of a table are different. -/
theorem nodup_grouping (s : Settings) : (s.grouping.map (·.1)).Nodup := by
  unfold grouping
  split <;> simp

theorem lookup_grouping (h : s.columns ≠ []) : s.grouping.lookup "columns" = none := by
  simp [grouping, h]

/-- The columns come to a list of tables in the grouping; without any, the grouping stays as it is. -/
theorem run_columns (s : Settings) (entries : Entries) (path : List String)
    (h : entries.lookup "grouping" = none) :
    ∃ path', (s.columns.flatMap columnSaid).foldlM Toml.Progress.step
        ⟨entries ++ [("grouping", .table .header s.grouping)], path⟩ =
      some ⟨entries ++ [("grouping", .table .header (s.grouping ++ s.columnTables))], path'⟩ := by
  by_cases hcolumns : s.columns = []
  · refine ⟨path, ?_⟩
    rw [columnTables, hcolumns, List.map_nil, Toml.listed, List.isEmpty_nil, if_pos rfl, List.append_nil]
    rfl
  · have hkeys : ∀ new ∈ s.columns.map columnEntries, (new.map (·.1)).Nodup := by
      intro new hnew
      obtain ⟨c, -, rfl⟩ := List.mem_map.mp hnew
      simp [columnEntries]
    have hrun := Toml.run_elements [] path h (lookup_grouping hcolumns) hkeys
    rw [List.flatMap_map, List.map_map, List.nil_append, Toml.listed, List.isEmpty_nil, if_pos rfl,
      List.append_nil] at hrun
    exact hrun

/-- **The written text comes to these tables.** -/
theorem entriesOf_said (s : Settings) : Toml.entriesOf s.said.flatten = some s.tables := by
  have hflat : s.said.flatten = (.header ["general"] :: assigns s.general) ++
      ((.header ["grouping"] :: assigns s.grouping) ++
        (s.columns.flatMap columnSaid ++ (.header ["performance"] :: assigns s.performance))) := by
    simp [said, List.flatMap_def]
  have hgeneral : (Statement.header ["general"] :: assigns s.general).foldlM Toml.Progress.step ⟨[], []⟩ =
      some ⟨[("general", .table .header s.general)], ["general"]⟩ :=
    Toml.run_section rfl (by simp [general])
  have hgrouping : (Statement.header ["grouping"] :: assigns s.grouping).foldlM Toml.Progress.step
        ⟨[("general", .table .header s.general)], ["general"]⟩ =
      some ⟨[("general", .table .header s.general)] ++ [("grouping", .table .header s.grouping)],
        ["grouping"]⟩ :=
    Toml.run_section rfl (nodup_grouping s)
  obtain ⟨path, hcolumns⟩ := run_columns s [("general", .table .header s.general)] ["grouping"] rfl
  have hperformance : (Statement.header ["performance"] :: assigns s.performance).foldlM Toml.Progress.step
        ⟨[("general", .table .header s.general)] ++
          [("grouping", .table .header (s.grouping ++ s.columnTables))], path⟩ =
      some ⟨s.tables, ["performance"]⟩ :=
    Toml.run_section rfl (by simp [performance])
  rw [Toml.entriesOf, hflat]
  simp only [List.foldlM_append, hgeneral, hgrouping, hcolumns, hperformance, Option.bind_eq_bind,
    Option.bind_some]
  rfl

/-! ## 3. The settings that the tables give -/

theorem column?_columnEntries (hc : c.isUnclassified = false) :
    Value.column? (.table .header (columnEntries c)) = some c := by
  cases c with
  | unclassified => cases hc
  | ofField field name => rfl

theorem columns?_tables (h : ∀ c ∈ columns, c.isUnclassified = false) :
    Value.columns? (.tables (columns.map fun c => .table .header (columnEntries c))) = some columns := by
  show (columns.map fun c => Value.table .header (columnEntries c)).mapM Value.column? = some columns
  induction columns with
  | nil => rfl
  | cons c columns ih =>
    obtain ⟨hc, hcolumns⟩ := List.forall_mem_cons.mp h
    simp [column?_columnEntries hc, ih hcolumns]

theorem exists_columns (h : ∀ c ∈ s.columns, c.isUnclassified = false) :
    ∃ v, (s.grouping ++ s.columnTables).lookup "columns" = some v ∧ v.columns? = some s.columns := by
  by_cases hcolumns : s.columns = []
  · refine ⟨.array [], ?_, ?_⟩
    · simp [grouping, hcolumns]
    · rw [hcolumns]
      rfl
  · refine ⟨_, ?_, columns?_tables h⟩
    have hlisted : s.columnTables =
        [("columns", .tables (s.columns.map fun c => .table .header (columnEntries c)))] := by
      simp [columnTables, Toml.listed, hcolumns]
    rw [hlisted, Toml.lookup_last (lookup_grouping hcolumns)]

theorem partOr_of_lookup {α : Type} {origin : Toml.Origin} {entries : Entries} {name : String} {v : Value}
    {read : Value → Option α} {a : α} (place : Nat) (otherwise : α) (h : entries.lookup name = some v)
    (hread : read v = some a) : (Value.table origin entries).partOr name place read otherwise = some a := by
  simp [Value.partOr, Value.part?, h, hread]

/-- **The tables of written settings give the settings back.** -/
theorem ofEntries_tables (h : ∀ c ∈ s.columns, c.isUnclassified = false) : ofEntries s.tables = some s := by
  obtain ⟨v, hv, hcolumns⟩ := exists_columns h
  have hshow : (s.grouping ++ s.columnTables).lookup "show_summary" = some (.boolean s.showSummary) := by
    simp only [grouping]
    split <;> rfl
  have hseparator : (s.grouping ++ s.columnTables).lookup "multi_value_separator" =
      some (.text s.separator) := by
    simp only [grouping]
    split <;> rfl
  have hcount : (Value.integer s.parallelThreshold).count? = some s.parallelThreshold := by
    simp [Value.count?]
  unfold ofEntries
  dsimp only
  refine Option.bind_eq_some_iff.mpr ⟨_, partOr_of_lookup 0 _ rfl rfl, ?_⟩
  refine Option.bind_eq_some_iff.mpr ⟨_, partOr_of_lookup 0 _ hv hcolumns, ?_⟩
  refine Option.bind_eq_some_iff.mpr ⟨_, partOr_of_lookup 1 _ hshow rfl, ?_⟩
  refine Option.bind_eq_some_iff.mpr ⟨_, partOr_of_lookup 2 _ hseparator rfl, ?_⟩
  refine Option.bind_eq_some_iff.mpr ⟨_, partOr_of_lookup 0 _ rfl hcount, ?_⟩
  exact Option.bind_eq_some_iff.mpr ⟨_, partOr_of_lookup 1 _ rfl rfl, rfl⟩

/-! ## 4. What a document can hold -/

/-- A document can hold the settings: its columns all name a field, and the threshold is a TOML integer. -/
structure Storable (s : Settings) : Prop where
  columns : ∀ c ∈ s.columns, c.isUnclassified = false ∧ c.namesField = true
  threshold : Toml.Numeral.inRange s.parallelThreshold = true

theorem Storable.save_eq (h : s.Storable) : s.save = .ok s.write := if_pos h.threshold

/-- **What a document can hold is loaded as it was saved.** -/
theorem Storable.load_write (h : s.Storable) : load (some s.write) = .ok s := by
  have hcolumns : ∀ c ∈ s.columns, c.isUnclassified = false := fun c hc => (h.columns c hc).1
  have hparse : (Toml.parse s.write).bind ofEntries = some s := by
    rw [Toml.parse, statements_write h.threshold, Option.bind_some, entriesOf_said, Option.bind_some,
      ofEntries_tables hcolumns]
  have hvalid : s.columns.mapM Column.validate = .ok s.columns :=
    mapM_eq_ok_iff.mpr (List.forall₂_same.mpr fun c hc =>
      Column.validate_eq_ok_iff.mpr ⟨(h.columns c hc).2, rfl⟩)
  rw [load, parse, hparse]
  dsimp only
  rw [hvalid]

/-! ## 5. What loading gives -/

theorem eq_or_of_partOr {α : Type} {v : Value} {name : String} {place : Nat} {read : Value → Option α}
    {otherwise a : α} (e : v.partOr name place read otherwise = some a) :
    a = otherwise ∨ ∃ part, v.part? name place = some (some part) ∧ read part = some a := by
  obtain ⟨part, hpart, e⟩ := Option.bind_eq_some_iff.mp e
  cases part with
  | none => exact .inl (Option.some.inj e).symm
  | some part => exact .inr ⟨part, hpart, e⟩

theorem fits_part {v part : Value} {name : String} {place : Nat} (h : v.Fits)
    (e : v.part? name place = some (some part)) : part.Fits := by
  cases h with
  | array h => exact h part (List.mem_of_getElem? (Option.some.inj e))
  | table h => exact Entries.Fits.of_lookup h (Option.some.inj e)
  | tables h => exact h part (List.mem_of_getElem? (Option.some.inj e))
  | _ => cases e

/-- A number that counts something is the integer it was written as. -/
theorem inRange_of_count {v : Value} {n : Nat} (h : v.Fits) (e : v.count? = some n) :
    Toml.Numeral.inRange n = true := by
  cases h with
  | @integer m h =>
    replace e : (if 0 ≤ m then some m.toNat else none) = some n := e
    split at e
    next hm =>
      cases e
      rw [Int.toNat_of_nonneg hm]
      exact h
    next => cases e
  | _ => cases e

theorem isUnclassified_of_column {v : Value} (e : v.column? = some c) : c.isUnclassified = false := by
  obtain ⟨field, -, e⟩ := Option.bind_eq_some_iff.mp e
  obtain ⟨name, -, e⟩ := Option.bind_eq_some_iff.mp e
  cases e
  rfl

theorem forall_mapM {α β : Type} {f : α → Option β} {P : β → Prop} {as : List α} {bs : List β}
    (h : ∀ a b, f a = some b → P b) (e : as.mapM f = some bs) : ∀ b ∈ bs, P b := by
  induction as generalizing bs with
  | nil =>
    cases e
    exact List.forall_mem_nil P
  | cons a as ih =>
    rw [List.mapM_cons] at e
    obtain ⟨b, hb, e⟩ := Option.bind_eq_some_iff.mp e
    obtain ⟨more, hmore, e⟩ := Option.bind_eq_some_iff.mp e
    cases e
    exact List.forall_mem_cons.mpr ⟨h a b hb, ih hmore⟩

theorem isUnclassified_of_columns {v : Value} (e : v.columns? = some columns) :
    ∀ c ∈ columns, c.isUnclassified = false := by
  obtain ⟨elements, -, e⟩ := Option.bind_eq_some_iff.mp e
  exact forall_mapM (fun _ _ => isUnclassified_of_column) e

theorem inRange_default : Toml.Numeral.inRange Grouper.defaultThreshold = true := by
  decide +kernel

/-- The settings of a document whose integers have 64 bits. -/
theorem of_ofEntries {entries : Entries} (h : entries.Fits) (e : ofEntries entries = some s) :
    (∀ c ∈ s.columns, c.isUnclassified = false) ∧ Toml.Numeral.inRange s.parallelThreshold = true := by
  have hsection (name : String) : ((entries.lookup name).getD (.table .header [])).Fits := by
    cases hlookup : entries.lookup name with
    | none => exact .table Toml.Entries.fits_nil
    | some v => exact h.of_lookup hlookup
  unfold ofEntries at e
  dsimp only at e
  obtain ⟨logLevel, -, e⟩ := Option.bind_eq_some_iff.mp e
  obtain ⟨columns, hcolumns, e⟩ := Option.bind_eq_some_iff.mp e
  obtain ⟨showSummary, -, e⟩ := Option.bind_eq_some_iff.mp e
  obtain ⟨separator, -, e⟩ := Option.bind_eq_some_iff.mp e
  obtain ⟨threshold, hthreshold, e⟩ := Option.bind_eq_some_iff.mp e
  obtain ⟨coalesce, -, e⟩ := Option.bind_eq_some_iff.mp e
  cases e
  constructor
  · rcases eq_or_of_partOr hcolumns with rfl | ⟨part, -, hpart⟩
    · exact List.forall_mem_singleton.mpr rfl
    · exact isUnclassified_of_columns hpart
  · rcases eq_or_of_partOr hthreshold with rfl | ⟨part, hfits, hpart⟩
    · exact inRange_default
    · exact inRange_of_count (fits_part (hsection _) hfits) hpart

theorem storable_default : Storable {} where
  columns := List.forall_mem_singleton.mpr ⟨rfl, by decide⟩
  threshold := inRange_default

/-- What a text gives can be stored. -/
theorem storable_of_parse {text : String} (h : parse text = .ok s) : s.Storable := by
  unfold parse at h
  split at h
  next => cases h
  next found hfound =>
    split at h
    next hvalid =>
      cases h
      obtain ⟨entries, hentries, hs⟩ := Option.bind_eq_some_iff.mp hfound
      obtain ⟨hcolumns, hthreshold⟩ := of_ofEntries (Toml.fits_of_parse hentries) hs
      refine ⟨fun c hc => ⟨hcolumns c hc, ?_⟩, hthreshold⟩
      obtain ⟨c', -, hc'⟩ := exists_of_mem_left (mapM_eq_ok_iff.mp hvalid) hc
      exact (Column.validate_eq_ok_iff.mp hc').1
    next => cases h

/-- **What was loaded can be stored.** -/
theorem storable_of_load {file : Option String} (h : load file = .ok s) : s.Storable := by
  cases file with
  | none =>
    cases h
    exact storable_default
  | some text => exact storable_of_parse h

/-- **Any columns that were read from a list can be stored in place of others.** -/
theorem Storable.withColumns (hs : s.Storable) {written : String} (h : Column.parseList written = .ok columns) :
    Storable { s with columns } where
  columns c hc := by
    rw [Column.parseList_eq] at h
    obtain ⟨entry, -, hentry⟩ := exists_of_mem_right (mapM_eq_ok_iff.mp h) hc
    obtain ⟨hnames, rfl⟩ := Column.validate_eq_ok_iff.mp hentry
    exact ⟨Column.isUnclassified_ofChars entry, hnames⟩
  threshold := hs.threshold

/-! ## 6. Saving what was loaded -/

theorem Storable.survives (h : s.Storable) : ∃ text, s.save = .ok text ∧ load (some text) = .ok s :=
  ⟨s.write, h.save_eq, h.load_write⟩

/-- **Settings that were loaded survive saving and loading**, as they are and with any list of columns in
    place of theirs: they are saved, what is saved is loaded, and every part comes back as it was. -/
theorem saved_settings_are_loaded {file : Option String} (h : load file = .ok s) :
    (∃ text, s.save = .ok text ∧ load (some text) = .ok s) ∧
    ∀ written columns, Column.parseList written = .ok columns →
      ∃ text, save { s with columns } = .ok text ∧ load (some text) = .ok { s with columns } := by
  have hs : s.Storable := storable_of_load h
  refine ⟨hs.survives, fun written columns hwritten => ?_⟩
  exact (hs.withColumns hwritten).survives

/-- A text with quotes of both kinds, backslashes, line breaks and controls in its strings, and with the
    greatest threshold there is. -/
def hardText : String :=
  "[general]\nlog_level = \"\\\\ \\\"\\\"\\\" '''\\u0000\\u007F\"\n" ++
  "[grouping]\nmulti_value_separator = \"\"\"\n\n\"\"\\\"\"\"\\r\n\"\"\"\n" ++
  "[[grouping.columns]]\nfield = 'C:\\dir'\nname = '''\nIt''s \"one\"\n'''\n" ++
  "[performance]\nparallel_threshold = 9223372036854775807\n"

/-- What the text gives. -/
def hardSettings : Settings where
  logLevel := "\\ \"\"\" '''\x00\x7f"
  columns := [.ofField "C:\\dir" "It''s \"one\"\n"]
  separator := "\n\"\"\"\"\"\r\n"
  parallelThreshold := 9223372036854775807

theorem saved_settings_are_loaded_hard :
    load (some hardText) = .ok hardSettings ∧ Column.parseList "" = .ok [] ∧
    (∃ text, hardSettings.save = .ok text ∧ load (some text) = .ok hardSettings) ∧
    ∃ text, save { hardSettings with columns := [] } = .ok text ∧
      load (some text) = .ok { hardSettings with columns := [] } := by
  have hload : load (some hardText) = .ok hardSettings := by decide +kernel
  have hempty : Column.parseList "" = .ok [] := by decide +kernel
  obtain ⟨hsame, hother⟩ := saved_settings_are_loaded hload
  exact ⟨hload, hempty, hsame, hother "" [] hempty⟩

end MediaIndex.Settings
