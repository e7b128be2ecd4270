import SchemaAtlas.Sql.DatabaseFile.Catalogue
import SchemaAtlas.Sql.DatabaseFile.Leaf

/-! # Making a database file

A database file is made by one definition after another. Each adds rows to the list of contents,
which begins on the first page; what is defined has its root on a page of its own. A table stands
in the list from the beginning of its definition on, and is filled in at the end, after the
indexes that it has of itself.
-/
namespace SchemaAtlas.Sql.DatabaseFile

open Definition

def varintBytes (n : Nat) : List UInt8 :=
  let rec higher : (bound n : Nat) → List UInt8 → List UInt8
    | 0, _, bytes => bytes
    | bound + 1, n, bytes =>
      if n = 0 then bytes else higher bound (n / 128) (.ofNat (128 + n % 128) :: bytes)
  higher 8 (n / 128) [.ofNat (n % 128)]

def numberBytes (size n : Nat) : List UInt8 :=
  (List.range size).reverse.map fun k => .ofNat (n / Nat.pow 256 k % 256)

def storedNumber (n : Nat) : Nat × List UInt8 :=
  if n ≤ 1 then (8 + n, [])
  else
    let size := if n < 0x80 then 1 else if n < 0x8000 then 2 else 3
    (size, numberBytes size n)

def storedText (s : String) : Nat × List UInt8 :=
  let bytes := s.toUTF8.toList
  (2 * bytes.length + 13, bytes)

def recordBytes (columns : List (Nat × List UInt8)) : List UInt8 :=
  let types := columns.flatMap fun c => varintBytes c.1
  let size := types.length + if types.length < 127 then 1 else 2
  varintBytes size ++ types ++ columns.flatMap (·.2)

structure NewRow where
  type : String
  name : String
  table : String
  root : Nat
  sql : Option String

def NewRow.record (r : NewRow) : List UInt8 :=
  recordBytes [storedText r.type, storedText r.name, storedText r.table, storedNumber r.root,
    (r.sql.map storedText).getD (0, [])]

def blankRecord : List UInt8 := [6, 0, 0, 0, 0, 0]

/-- A file that is being made: what has been defined, how many pages and rows there are, and the
first page, as long as it holds all of the rows. -/
structure Making where
  known : Catalogue
  pages : Nat
  rows : Nat
  leaf? : Option Leaf

namespace Making

def initial : Making := ⟨.initial, 1, 0, some .empty⟩

/-- How many pages hold the rest of a record of which some bytes lie in its cell. -/
def overflowPages (size near : Nat) : Nat :=
  (size - near + (pageSize - 5)) / (pageSize - 4)

def cell (m : Making) (row : Nat) (record : List UInt8) : List UInt8 × Nat :=
  let near := localSize pageSize record.length
  let more := overflowPages record.length near
  let rest := if more = 0 then [] else numberBytes 4 (m.pages + 1)
  (varintBytes record.length ++ varintBytes row ++ record.take near ++ rest, more)

def addRow (m : Making) (record : List UInt8) : Making :=
  let (bytes, more) := m.cell (m.rows + 1) record
  let leaf? := m.leaf?.bind (·.insert? m.rows bytes)
  { m with pages := m.pages + more, rows := m.rows + 1, leaf? }

def fillRow (m : Making) (row : Nat) (record : List UInt8) : Making :=
  let (bytes, more) := m.cell row record
  { m with pages := m.pages + more, leaf? := m.leaf?.bind (·.replace? (row - 1) bytes) }

def addRoot (m : Making) : Making :=
  { m with pages := m.pages + 1 }

def define (m : Making) (r : NewRow) : Making :=
  let listing : Listing := ⟨some r.type.toList, some r.name.toList, some r.table.toList, r.root⟩
  let known := (Context.read ⟨m.known, listing, false⟩ (r.sql.getD "").toList).toOption
  { m with known := known.getD m.known }

def addOwnIndex (t : Table) (m : Making) (index : Index) : Making :=
  let m := m.addRoot
  m.addRow (NewRow.record ⟨"index", .ofList index.name, .ofList t.name, m.pages, none⟩)

def ownIndexes (t : Table) : List Index :=
  t.indexes.filter fun index => t.hasRowNumber || !index.isPrimary

def addTable (m : Making) (e : Entry) : Making :=
  let row := m.rows + 1
  let root := if e.type = "table" then m.pages + 1 else 0
  let m := m.define ⟨e.type, e.name, e.name, root, e.sql⟩
  let table? := m.known.table? e.name.toList
  let isStored := e.type = "table" && table?.all (·.kind = .table)
  let m := (if isStored then m.addRoot else m).addRow blankRecord
  let m := match table? with
    | some t => (ownIndexes t).foldl (Making.addOwnIndex t) m
    | none => m
  m.fillRow row (NewRow.record ⟨e.type, e.name, e.name, if isStored then root else 0, e.sql⟩)

def addOther (m : Making) (e : Entry) : Making :=
  let owner := String.ofList ((e.sql.bind fun s => Context.ownerOf? s.toList).getD [])
  let m := if e.type = "index" then m.addRoot else m
  let r : NewRow := ⟨e.type, e.name, owner, if e.type = "index" then m.pages else 0, e.sql⟩
  (m.define r).addRow r.record

def add (m : Making) (e : Entry) : Making :=
  if e.type = "table" || e.type = "view" then m.addTable e else m.addOther e

end Making

def version : Nat := 3040001

def headerBytes (definitions pages : Nat) : List UInt8 :=
  let number := numberBytes 4
  magic ++ numberBytes 2 pageSize ++ [1, 1, 0] ++ fractions ++ number definitions ++
    number pages ++ number 0 ++ number 0 ++ number definitions ++ number latestFormat ++
    number 0 ++ number 0 ++ number 1 ++ List.replicate 32 0 ++ number definitions ++ number version

/-- The beginning of a first page from which the list of contents has been moved to two others. -/
def branchBytes : List UInt8 :=
  5 :: numberBytes 2 0 ++ numberBytes 2 1 ++ numberBytes 2 (pageSize - 5)

/-- The first page of a file that has been made by some definitions; nothing without any. -/
def firstPage (entries : List Entry) : List UInt8 :=
  if entries.isEmpty then []
  else
    let m := entries.foldl Making.add .initial
    headerBytes entries.length m.pages ++ (m.leaf?.map Leaf.bytes).getD branchBytes

end SchemaAtlas.Sql.DatabaseFile
