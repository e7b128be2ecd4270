import SchemaAtlas.Command.Console
import SchemaAtlas.Command.Host
import SchemaAtlas.Json.Printer
import SchemaAtlas.Samples
import SchemaAtlas.Sql.Writer
import SchemaAtlas.Terminal.Box

/-! # What commands write

A graph in one of three formats: as a document, as a script, or as boxed tables of its columns
and relationships.
-/
namespace SchemaAtlas.Command
open Schema (Graph)
open Terminal (Box)

def keyCell (c : Schema.Column) : String :=
  "/".intercalate <|
    (if c.isPrimary then ["PK"] else []) ++ (if c.isForeign then ["FK"] else [])

/-- The rows of a table; only the first names it. -/
def tableRows (t : Schema.Table) : List (List String) :=
  t.columns.zipIdx.map fun (c, i) =>
    [if i = 0 then t.label.text else "", c.name.text, c.type.text, keyCell c, c.comment.text]

def tablesBox (g : Graph) : Box where
  title := "Tables"
  headers := ["Table", "Column", "Type", "Key", "Comment"]
  rows := g.tables.flatMap tableRows

def relationshipsBox (g : Graph) : Box where
  title := "Relationships"
  headers := ["From", "To", "Kind", "Label"]
  rows := g.relationships.map fun r =>
    [r.sourceHandle.text, r.targetHandle.text, r.kind.name, r.label.text]

def samplesBox : Box where
  title := "Sample Schemas"
  headers := ["Id", "Name", "Description"]
  rows := Sample.catalogue.map fun s => [s.id, s.name, s.description]

def emitBox (b : Box) : Task Unit := do
  emit (← orStop ((b.text terminalWidth).mapError .badMarkup))

def emitDocument (host : Host) (document : Value) : Task Unit :=
  if document.depth ≤ host.writable then emit (Json.pretty document)
  else throw (.fault .nestedTooDeep)

/-- The script of some tables, unless a value in it nests too deeply. -/
def scriptOf (host : Host) (tables : List Schema.Table) : Except Fault String := do
  let script ← Sql.write tables
  if tables.all fun t => t.shown.all fun v => v.depth ≤ host.showable then return script
  else throw .nestedTooDeep

/-- Writes a graph in a format; nothing for a format that does not exist. -/
def emitGraph (host : Host) (g : Graph) (name format : String) : Task Unit :=
  match format with
  | "json" => emitDocument host (g.toDocument (.str name))
  | "sql" => do emit (← orStop (scriptOf host g.tables))
  | "table" => do
    emitBox (tablesBox g)
    if g.relationships.isEmpty then emit "No relationships found.\n"
    else emitBox (relationshipsBox g)
  | _ => pure ()

end SchemaAtlas.Command
