import SchemaAtlas.Sql.Database
import SchemaAtlas.Sql.DatabaseFile.Records
import SchemaAtlas.Sql.Definition.Statement

/-! # The list of contents of a database file

Every entry has to be right before any is used: an entry with a definition has to match it, one
without belongs to the index of a table, and everything has its root on a page that exists.
-/
namespace SchemaAtlas.Sql.DatabaseFile

open Definition

abbrev Reading := Except DefinitionError

structure Row where
  type : Field
  name : Field
  table : Field
  root : Field
  sql : Field

def rowOf (p : Pages) (r : Payload) : Except DatabaseError Row := do
  match ← columns p r 5 with
  | [type, name, table, root, sql] => return ⟨type, name, table, root, sql⟩
  | _ => throw .malformed

/-- The number of a page, as a text writes it; numbers have 32 bits. -/
def pageNumber? (s : List Char) : Option Nat :=
  let n := s.foldl (fun n c => 10 * n + (c.toNat - '0'.toNat)) 0
  if s.isEmpty || !s.all Char.isDigit || 0x100000000 < n then none else some (n % 0x100000000)

/-- Notes the root of an index that a table has of itself. No two indexes of a table have the
same. -/
def rootIndex (k : Catalogue) (name : List Char) (root : Nat) : Reading Catalogue := do
  let isIt (index : Index) : Bool := sameName name index.name
  let change (t : Table) : Reading Table := do
    if !t.indexes.any isIt then return t
    if t.indexes.any fun index => !isIt index && index.root = root then throw .badRoot
    let rooted (index : Index) : Index := if isIt index then { index with root } else index
    return { t with indexes := t.indexes.map rooted }
  return { k with tables := ← k.tables.mapM change }

/-- What is known after an entry. Only what is written can be checked in a file that is only
read. -/
def checkRow (p : Pages) (isReadOnly : Bool) (k : Catalogue) (r : Row) : Reading Catalogue := do
  let text := Field.shown? p.encoding
  match text r.root with
  | none => throw .mismatch
  | some root =>
    let page? := (pageNumber? root).filter (· ≤ p.count)
    let sql := (text r.sql).getD []
    if sameName (sql.take 2) ['c', 'r'] then
      match page? with
      | none => throw .badRoot
      | some root =>
        let listing : Listing := ⟨text r.type, text r.name, text r.table, root⟩
        Context.read ⟨k, listing, isReadOnly⟩ sql
    else match text r.name with
      | none => throw .mismatch
      | some name =>
        if !sql.isEmpty then throw .mismatch
        if !k.hasIndex name then throw .orphanIndex
        match page?.filter (2 ≤ ·) with
        | none => throw .badRoot
        | some root => rootIndex k name root

def Field.utf8Error? (e : Encoding) : Field → Option Text.Utf8Error
  | .text bytes | .blob bytes =>
    if e = .utf8 then
      match Text.decodeUtf8 bytes with
      | .ok _ => none
      | .error e => some e
    else none
  | _ => none

def Row.fault (e : Encoding) (r : Row) (reason : DefinitionError) : DatabaseError :=
  let name := (Field.shown? e r.name).getD ['?']
  let told : DatabaseError := .badEntry (.ofList name) reason
  if (name ++ reason.message.toList).contains '\ufffd' then
    ((Field.utf8Error? e r.name).orElse fun _ => Field.utf8Error? e r.sql).elim told .unspeakable
  else told

/-- The entries in some records. The first that is wrong is the one told about. -/
def checkedRows (p : Pages) (isReadOnly : Bool) (k : Catalogue) (result : Except DatabaseError Unit) :
    List Payload → Except DatabaseError (List Row)
  | [] => result.map fun _ => []
  | payload :: rest => do
    let r ← rowOf p payload
    match checkRow p isReadOnly k r with
    | .ok k => return r :: (← checkedRows p isReadOnly k result rest)
    | .error reason => throw (r.fault p.encoding reason)

def shownSize : Nat := 198

def undecodable (bytes : List UInt8) : DatabaseError :=
  let said := "Could not decode to UTF-8 column 'sql' with text '".toUTF8.toList ++
    bytes.takeWhile (· ≠ 0) ++ [39]
  .undecodable (.ofList ((said.take shownSize).map fun b =>
    if b < 128 then Char.ofNat b.toNat else '\ufffd'))

def Row.definition? (e : Encoding) (r : Row) : Except DatabaseError (Option String) :=
  match r.sql with
  | .text bytes => match decode? e bytes with
    | some s => .ok (some (.ofList s))
    | none => .error (undecodable bytes)
  | _ => .ok none

def Row.isTable (e : Encoding) (r : Row) : Bool :=
  match r.type, Field.shown? e r.name with
  | .text bytes, some name =>
    decode? e bytes = some "table".toList && !isLike reservedPattern name
  | _, _ => false

def Row.entry (e : Encoding) (r : Row) : Except DatabaseError Entry := do
  return ⟨"table", .ofList ((Field.shown? e r.name).getD []), ← r.definition? e⟩

def entries (file : List UInt8) (isReadOnly : Bool) : Except DatabaseError (List Entry) := do
  match ← pages? file with
  | none => return []
  | some p =>
    let (result, found) := payloads p
    let rows ← checkedRows p (isReadOnly || p.isReadOnly) .initial result found
    (rows.filter (Row.isTable p.encoding)).mapM (Row.entry p.encoding)

end SchemaAtlas.Sql.DatabaseFile
