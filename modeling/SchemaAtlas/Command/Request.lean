import SchemaAtlas.Command.Input
import SchemaAtlas.Command.Output
import SchemaAtlas.Layout.Placement

/-! # Commands

Importing scripts, samples and databases as laid out diagrams, writing the script of a diagram,
and laying a diagram out anew.
-/
namespace SchemaAtlas.Command
open Schema (Graph)
open Layout (Settings)

def importScript (sql : String) (s : Settings Value) : Task Graph := do
  let g := Sql.parse sql
  if g.tables.isEmpty then refuse "Import failed: no CREATE TABLE statements found"
  inform s!"Parsed {g.tables.length} tables and {g.relationships.length} relationships"
  orStop (Layout.layout g s)

inductive Request where
  | parse (file format : String) (options : Options)
  | generate (file : String)
  | layout (file : String) (options : Options)
  | samples (sample : Option String) (format : String)
  | sqlite (file format : String) (options : Options)

def parse (host : Host) (files : Files) (p : Path) (format : String) (options : Options) :
    Task Unit := do
  let content ← openFile files p scriptSuffixes
  inform ("Source script: " ++ p.text)
  inform ("Output format: " ++ format)
  let sql ← orStop content.text
  let g ← importScript sql (← options.settings host files)
  emitGraph host g p.stem format
  succeed "Import completed successfully"

def generate (host : Host) (files : Files) (p : Path) : Task Unit := do
  let g ← readDiagram host files p
  inform ("Source diagram: " ++ p.text)
  emit (← orStop (scriptOf host g.tables))
  succeed "SQL generation completed successfully"

def relayout (host : Host) (files : Files) (p : Path) (options : Options) : Task Unit := do
  let g ← readDiagram host files p
  let s ← options.settings host files
  inform ("Direction: " ++ s.direction.name)
  let g ← orStop (Layout.layout g s)
  emitDocument host (g.toDocument (.str p.stem))
  succeed "Layout completed successfully"

def samples (host : Host) (sample : Option String) (format : String) : Task Unit :=
  match sample with
  | none => emitBox samplesBox
  | some id => match Sample.find? (.str id) with
    | none => refuse (Fault.unknownSample id).message
    | some s => do
      let g ← importScript s.sql .usual
      emitGraph host g s.id format

def tableQuery : String :=
  "SELECT sql FROM sqlite_master WHERE type = 'table' AND name NOT LIKE 'sqlite_%' " ++
  "AND sql IS NOT NULL ORDER BY rowid"

def databaseReport (host : Host) (e : Sql.DatabaseError) : Except Fault String :=
  let query := "\n[SQL: " ++ tableQuery ++ "]"
  let database (message : String) : Except Fault String :=
    .ok ("(sqlite3.DatabaseError) " ++ message ++ query ++ host.background "4xp6")
  let operational (message query : String) : Except Fault String :=
    .ok ("(sqlite3.OperationalError) " ++ message ++ query ++ host.background "e3q8")
  match e with
  | .notADatabase => database "file is not a database"
  | .malformed => database "database disk image is malformed"
  | .badEntry name reason =>
    let more := if reason = .mismatch then "" else " - " ++ reason.message
    database ("malformed database schema (" ++ name ++ ")" ++ more)
  | .unsupportedFormat => operational "unsupported file format" query
  | .undecodable shown => operational shown ""
  | .unspeakable e => .error (.notUtf8 e)
  | .cannotOpen => operational "unable to open database file" ""

def SourceError.report (host : Host) : SourceError → Except Fault String
  | .fault f => .error f
  | .noPlace (.unspeakable e) => .error (.notUtf8 e)
  | .noPlace (.unknownExtension name) => .ok (LocationError.unknownExtension name).message
  | .noPlace e => .ok ("(sqlite3.OperationalError) " ++ e.message ++ host.background "e3q8")
  | .database e => databaseReport host e

def sqlite (host : Host) (files : Files) (p : Path) (format : String) (options : Options) :
    Task Unit := do
  let _ ← openFile files p databaseSuffixes
  inform ("Source database: " ++ p.text)
  match files.entries host p with
  | .error e => refuse ("Failed to read database: " ++ (← orStop (e.report host)))
  | .ok entries =>
    let g ← importScript (Sql.databaseScript entries) (← options.settings host files)
    emitGraph host g p.stem format
    succeed "Import completed successfully"

def Request.task (host : Host) (files : Files) : Request → Task Unit
  | .parse file format options => Command.parse host files (.ofName file) format options
  | .generate file => Command.generate host files (.ofName file)
  | .layout file options => relayout host files (.ofName file) options
  | .samples sample format => Command.samples host sample format
  | .sqlite file format options => Command.sqlite host files (.ofName file) format options

structure Outcome where
  output : String
  messages : String
  stop : Option Stop

def Request.run (host : Host) (files : Files) (r : Request) : Outcome :=
  let (result, console) := (r.task host files).run.run ⟨[], []⟩
  { output := String.join console.output
    messages := String.join console.messages
    stop := match result with
      | .ok _ => none
      | .error s => some s }

end SchemaAtlas.Command
