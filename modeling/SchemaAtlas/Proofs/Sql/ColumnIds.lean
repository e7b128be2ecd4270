import SchemaAtlas.Proofs.Sql.WellFormed

/-! # Ids of the columns of a script

Relationships refer to a column by its id, which is made of its name. So the columns of a table
have different ids when and only when the clauses of its body declare different names. Any clause
counts that does not start like a key, an index or a constraint: a second check is a second column
of the same name.
-/
namespace SchemaAtlas.Sql
open Schema (Table Column columnId columnId_right_injective)

/-- The name that a clause gives to a column, if it declares one at all. -/
def columnName? (part : List Char) : Option String :=
  let text := Text.strip part
  let (word, rest) := Text.firstWord (Text.strip text)
  if text.isEmpty || isIndexClause text || isPrimaryKeyClause text || isConstraintClause text then
    none
  else if word.isEmpty || rest.isEmpty then none
  else some (.ofList (bareName word))

/-- The names of the columns that the clauses of a table body declare. -/
def columnNames (body : List Char) : List String :=
  (splitAt ',' body).filterMap columnName?

/-- The name and the body of the table that a statement defines. -/
def tableBody? (statement : List Char) : Option (String × List Char) :=
  match sections? statement with
  | some (name, .ok (body, _)) => some (name, body)
  | _ => none

/-- The body of the last statement of a script that defines a table of a name. -/
def lastBody? (sql : List Char) (name : String) : Option (List Char) :=
  (((statements sql).filterMap tableBody?).reverse.find? fun b => b.1 = name).map Prod.snd

def TableDef.columnNames (d : TableDef) : List String :=
  d.columns.map ColumnDef.name

theorem column?_map_name (text : List Char) :
    (column? text).map ColumnDef.name =
      if (Text.firstWord (Text.strip text)).1.isEmpty ||
          (Text.firstWord (Text.strip text)).2.isEmpty then none
      else some (.ofList (bareName (Text.firstWord (Text.strip text)).1)) := by
  unfold column?
  dsimp only
  split <;> rfl

theorem clause_map_name (part : List Char) :
    (clause part).column?.map ColumnDef.name = columnName? part := by
  have hname := column?_map_name (Text.strip part)
  unfold clause columnName?
  dsimp only
  by_cases hblank : (Text.strip part).isEmpty = true
  · simp [hblank, Clause.column?]
  by_cases hindex : isIndexClause (Text.strip part) = true
  · simp [hblank, hindex, Clause.column?]
  by_cases hkey : isPrimaryKeyClause (Text.strip part) = true
  · simp [hblank, hindex, hkey, Clause.column?]
  by_cases hconstraint : isConstraintClause (Text.strip part) = true
  · cases Text.search reference? (Text.strip part) <;>
      simp [hblank, hindex, hkey, hconstraint, Clause.column?]
  · rw [if_neg hblank, if_neg hindex, if_neg hkey, if_neg hconstraint,
      if_neg (by simp [hblank, hindex, hkey, hconstraint]), ← hname]
    cases column? (Text.strip part) <;> rfl

theorem TableDef.columnNames_ofClauses (name : String) (body options : List Char) :
    (ofClauses name ((splitAt ',' body).map clause) options).columnNames =
      Sql.columnNames body := by
  have hkeys (primary foreign : List String) :
      ColumnDef.name ∘ ColumnDef.withKeys primary foreign = ColumnDef.name := rfl
  rw [columnNames, ofClauses, List.map_map, hkeys, List.filterMap_map, List.map_filterMap]
  exact List.filterMap_congr fun part _ => clause_map_name part

/-- A statement defines a table with the columns that its body names. -/
theorem tableStatement_map (statement : List Char) :
    (tableStatement statement).1.map (fun d => (d.name, d.columnNames)) =
      (tableBody? statement).map fun b => (b.1, columnNames b.2) := by
  unfold tableStatement tableBody?
  cases hs : sections? statement with
  | none => rfl
  | some found =>
    obtain ⟨name, content⟩ := found
    cases content with
    | error note => rfl
    | ok content =>
      change some (name, _) = some (name, _)
      rw [TableDef.columnNames_ofClauses]

theorem definitions_map (sql : List Char) :
    (definitions sql).map (fun d => (d.name, d.columnNames)) =
      ((statements sql).filterMap tableBody?).map fun b => (b.1, columnNames b.2) := by
  rw [definitions, List.map_filterMap, List.map_filterMap]
  exact List.filterMap_congr fun s _ => tableStatement_map s

/-- Looking for the last definition of a name is looking for the last body of that name. -/
theorem lastNamed?_map_columnNames (sql : List Char) (name : String) :
    (lastNamed? (definitions sql) name).map TableDef.columnNames =
      (lastBody? sql name).map columnNames := by
  have hfind := congrArg (fun ps => (ps.reverse.find? fun p => p.1 = name).map Prod.snd)
    (definitions_map sql)
  simpa [← List.map_reverse, List.find?_map, Function.comp_def, lastNamed?, lastBody?] using hfind

theorem columnIds_toTable (d : TableDef) :
    d.toTable.columns.map Column.id = d.columnNames.map fun n => .str (columnId d.name n) := by
  simp [TableDef.toTable, TableDef.columnNames, ColumnDef.toColumn, Function.comp_def]

/-- Inferring relationships keeps the label of a table and the ids of its columns. -/
theorem exists_of_mem_inferred {tables : List Table} {t : Table}
    (h : t ∈ (Schema.inferred tables).tables) :
    ∃ u ∈ tables, t.label = u.label ∧ t.columns.map Column.id = u.columns.map Column.id := by
  obtain ⟨u, hu, rfl⟩ := List.mem_map.mp h
  exact ⟨u, hu, rfl, by simp [Table.flagForeign, Function.comp_def]⟩

theorem lastNamed?_of_mem_inForce {ds : List TableDef} {d : TableDef} (h : d ∈ inForce ds) :
    lastNamed? ds d.name = some d := by
  obtain ⟨name, _, hd⟩ := List.mem_filterMap.mp h
  rw [name_of_lastNamed? hd]
  exact hd

theorem exists_mem_inForce {sql : String} {t : Table} (h : t ∈ (parse sql).tables) :
    ∃ d ∈ inForce (definitions sql.toList), t.label = .str d.name ∧
      t.columns.map Column.id = d.columnNames.map fun n => .str (columnId d.name n) := by
  by_cases hkeys : lastingKeys (definitions sql.toList) = []
  · rw [parse_of_keys_eq_nil hkeys] at h
    obtain ⟨u, hu, hlabel, hids⟩ := exists_of_mem_inferred h
    obtain ⟨d, hd, rfl⟩ := List.mem_map.mp hu
    exact ⟨d, hd, hlabel, hids.trans (columnIds_toTable d)⟩
  · rw [parse_of_keys_ne_nil hkeys] at h
    dsimp only at h
    obtain ⟨d, hd, rfl⟩ := List.mem_map.mp h
    exact ⟨d, hd, rfl, columnIds_toTable d⟩

/-- The columns of a table are those that its last definition names, and their ids are as
different as these names. -/
theorem columnIds_parse {sql : String} {t : Table} (h : t ∈ (parse sql).tables) :
    ∃ name body, t.label = .str name ∧ lastBody? sql.toList name = some body ∧
      t.columns.map Column.id = (columnNames body).map (fun n => .str (columnId name n)) ∧
      ((t.columns.map Column.id).Nodup ↔ (columnNames body).Nodup) := by
  obtain ⟨d, hd, hlabel, hids⟩ := exists_mem_inForce h
  have hlast := lastNamed?_map_columnNames sql.toList d.name
  rw [lastNamed?_of_mem_inForce hd, Option.map_some] at hlast
  obtain ⟨body, hbody, hnames⟩ := Option.map_eq_some_iff.mp hlast.symm
  have hinj : Function.Injective fun n => Value.str (columnId d.name n) := by
    intro a b hab
    exact columnId_right_injective d.name (Value.str.inj hab)
  refine ⟨d.name, body, hlabel, hbody, ?_, ?_⟩
  · rw [hids, hnames]
  · rw [hids, ← hnames, List.nodup_map_iff hinj]

theorem columnIds_parse_people :
    ∃ t ∈ (parse "CREATE TABLE people (id INT, name TEXT, CHECK (id > 0))").tables,
      ∃ name body, t.label = .str name ∧
        lastBody? "CREATE TABLE people (id INT, name TEXT, CHECK (id > 0))".toList name =
          some body ∧
        t.columns.map Column.id = (columnNames body).map (fun n => .str (columnId name n)) ∧
        ((t.columns.map Column.id).Nodup ↔ (columnNames body).Nodup) := by
  have hne : (parse "CREATE TABLE people (id INT, name TEXT, CHECK (id > 0))").tables ≠ [] := by
    rw [← List.isEmpty_eq_false_iff]
    decide +kernel
  have hmem := List.head_mem hne
  exact ⟨_, hmem, columnIds_parse hmem⟩

/-- Two checks of a table are two columns with one id. -/
theorem columnIds_parse_checks :
    ¬ ∀ t ∈ (parse "CREATE TABLE t (a INT, CHECK (a > 0), CHECK (a < 9));").tables,
      (t.columns.map Column.id).Nodup := by
  intro h
  have hids : (parse "CREATE TABLE t (a INT, CHECK (a > 0), CHECK (a < 9));").tables.map
      (fun t => t.columns.map Column.id) = [[.str "t-a", .str "t-CHECK", .str "t-CHECK"]] := by
    decide +kernel
  have hmem := List.mem_singleton_self [Value.str "t-a", .str "t-CHECK", .str "t-CHECK"]
  rw [← hids] at hmem
  obtain ⟨t, ht, heq⟩ := List.mem_map.mp hmem
  have hnodup := h t ht
  rw [heq] at hnodup
  simp at hnodup

end SchemaAtlas.Sql
