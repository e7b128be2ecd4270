import SchemaAtlas.Fault
import SchemaAtlas.Value.Display
import SchemaAtlas.Value.Key
import SchemaAtlas.Schema.Names

/-! # Schema graphs

Tables and the relationships between them. Ids, labels and positions are kept as documents
give them, so a graph that has been loaded is saved without loss.
-/
namespace SchemaAtlas.Schema

structure Position where
  x : Value
  y : Value
  deriving DecidableEq

def Position.origin : Position := ⟨.float 0, .float 0⟩

/-- A column. Whether it is nullable and its color may be left open by null. -/
structure Column where
  id : Value
  name : Value
  type : Value
  isPrimary : Bool := false
  isForeign : Bool := false
  comment : Value := .str ""
  nullable : Value := .null
  color : Value := .null
  deriving DecidableEq

structure Table where
  id : Value
  label : Value
  columns : List Column := []
  comment : Value := .str ""
  isExpanded : Bool := true
  headerColor : Value := .null
  dimmed : Bool := false
  position : Position := .origin
  deriving DecidableEq

inductive Kind where
  | explicit
  | inferred
  | manual
  deriving DecidableEq, Repr

/-- A directed edge between two tables. For a foreign key it leads from the table that is
referred to, to the table that holds the key. -/
structure Relationship where
  id : Value
  source : Value
  target : Value
  sourceHandle : Value
  targetHandle : Value
  label : Value := .str ""
  kind : Kind := .explicit
  deriving DecidableEq

structure Graph where
  tables : List Table := []
  relationships : List Relationship := []
  deriving DecidableEq

def Kind.all : List Kind := [.explicit, .inferred, .manual]

def Kind.name : Kind → String
  | .explicit => "explicit"
  | .inferred => "inferred"
  | .manual => "manual"

def Kind.ofName? (name : String) : Option Kind :=
  Kind.all.find? fun k => k.name = name

structure Style where
  stroke : String
  strokeWidth : Option Nat := none
  dashes : Option String := none
  deriving DecidableEq, Repr

/-- Inferred relationships are dashed, all others drawn through. -/
def Kind.style : Kind → Style
  | .explicit | .manual => { stroke := "#94a3b8", strokeWidth := some 2 }
  | .inferred => { stroke := "#64748b", dashes := some "5,5" }

def Table.key (t : Table) : Value := t.id.key

/-- The columns that are part of the primary key, in the order of declaration. -/
def Table.primaryKeys (t : Table) : List Column :=
  t.columns.filter Column.isPrimary

/-- What a script shows of a table besides comments: its label, and the names and types of its
columns. -/
def Table.shown (t : Table) : List Value :=
  t.label :: t.columns.flatMap fun c => [c.name, c.type]

def Table.column? (t : Table) (name : Value) : Option Column :=
  t.columns.find? fun c => c.name.key = name.key

def Graph.tableKeys (g : Graph) : List Value :=
  g.tables.map Table.key

def Graph.table? (g : Graph) (id : Value) : Option Table :=
  g.tables.find? fun t => t.key = id.key

def Graph.checkIds (g : Graph) : Except Fault Unit :=
  if g.tables.all fun t => t.id.isScalar then .ok () else .error .unsuitable

@[simp] theorem Kind.ofName?_name (k : Kind) : Kind.ofName? k.name = some k := by
  cases k <;> decide

end SchemaAtlas.Schema
