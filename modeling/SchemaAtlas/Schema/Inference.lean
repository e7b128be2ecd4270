import SchemaAtlas.Schema.Graph

/-! # Inferring relationships

Relationships guessed from column names: a primary key column of a table is linked to every
other table with a column that is named after the first one. Such columns are flagged as
foreign keys. Every match gives an edge, so two tables may be linked more than once.
-/
namespace SchemaAtlas.Schema

/-- The names by which columns refer to a table; a label that is not a text gives none. -/
def Table.referringNames (t : Table) : List Value :=
  match t.label with
  | .str label => (Schema.referringNames label).map .str
  | _ => []

def Table.referenceTo? (target source : Table) : Option Column :=
  target.columns.find? fun c => source.referringNames.contains c.name

/-- A primary key column of a table, and the column of another that refers to it. -/
structure Link where
  source : Table
  primary : Column
  target : Table
  foreign : Column

def link? (source : Table) (primary : Column) (target : Table) : Option Link :=
  if target.key = source.key then none
  else (target.referenceTo? source).map (⟨source, primary, target, ·⟩)

/-- All links between tables, by table, key and other table. -/
def links (tables : List Table) : List Link :=
  tables.flatMap fun source =>
    source.primaryKeys.flatMap fun primary => tables.filterMap (link? source primary)

def Link.relationship (l : Link) : Relationship where
  id := .str ("auto-e-" ++ l.primary.id.text ++ "-" ++ l.foreign.id.text)
  source := l.source.id
  target := l.target.id
  sourceHandle := .str (sourceHandle l.primary.id.text)
  targetHandle := .str (targetHandle l.foreign.id.text)
  kind := .inferred

def Table.flagForeign (ids : List Value) (t : Table) : Table :=
  { t with columns := t.columns.map fun c =>
      { c with isForeign := c.isForeign || ids.contains c.id.key } }

def inferred (tables : List Table) : Graph :=
  let found := links tables
  ⟨tables.map (Table.flagForeign (found.map fun l => l.foreign.id.key)),
    found.map Link.relationship⟩

/-- The first column name or id that stops the search for a column that refers to a table. -/
def searchFault? (names : List Value) : List Column → Option Fault
  | [] => none
  | c :: rest =>
    if !c.name.isScalar then some .unsuitable
    else if names.contains c.name then if c.id.isScalar then none else some .unsuitable
    else searchFault? names rest

/-- The first thing in some tables that stops the links of a table from being found. -/
def linkFault? (tables : List Table) (source : Table) : Option Fault :=
  match source.label with
  | .str _ => (source.primaryKeys.flatMap fun _ => tables).findSome? fun target =>
      if target.key = source.key then none
      else searchFault? source.referringNames target.columns
  | _ => some .notText

def inferenceFault? (tables : List Table) : Option Fault :=
  (tables.findSome? (linkFault? tables)).or <|
    (tables.flatMap Table.columns).findSome? fun c =>
      if c.isForeign || c.id.isScalar then none else some .unsuitable

def infer (tables : List Table) : Except Fault Graph :=
  match inferenceFault? tables with
  | some fault => .error fault
  | none => .ok (inferred tables)

end SchemaAtlas.Schema
