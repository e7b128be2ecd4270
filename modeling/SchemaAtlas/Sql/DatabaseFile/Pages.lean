import SchemaAtlas.Sql.DatabaseFile.Error

/-! # Pages of a database file

The header of a database file and its pages. The header gives the size of a page, how many bytes
at its end are kept free, how many pages there are and how texts are encoded. A file that ends
early is read as if zeros followed.
-/
namespace SchemaAtlas.Sql

inductive Encoding where
  | utf8
  | utf16Little
  | utf16Big
  deriving DecidableEq, Repr

namespace DatabaseFile

structure Pages where
  bytes : Array UInt8
  size : Nat
  /-- The bytes of a page that can hold content. -/
  usable : Nat
  count : Nat
  encoding : Encoding
  /-- Whether the file is of a format that can only be read. -/
  isReadOnly : Bool

def byteAt (bytes : Array UInt8) (i : Nat) : Nat :=
  (bytes.getD i 0).toNat

def numberAt (bytes : Array UInt8) (i size : Nat) : Nat :=
  (List.range size).foldl (fun n k => 256 * n + byteAt bytes (i + k)) 0

def slice (bytes : Array UInt8) (i size : Nat) : List UInt8 :=
  (List.range size).map fun k => bytes.getD (i + k) 0

def magic : List UInt8 :=
  "SQLite format 3\x00".toUTF8.toList

def fractions : List UInt8 := [64, 32, 32]

def pageSizes : List Nat := [512, 1024, 2048, 4096, 8192, 16384, 32768, 65536]

def leastUsable : Nat := 480

def latestFormat : Nat := 4

def encodingOf (bytes : Array UInt8) : Encoding :=
  match numberAt bytes 56 4 % 4 with
  | 2 => .utf16Little
  | 3 => .utf16Big
  | _ => .utf8

/-- How many pages the header counts; zero if it does not say so. -/
def headerCount (bytes : Array UInt8) : Nat :=
  if numberAt bytes 24 4 = numberAt bytes 92 4 then numberAt bytes 28 4 else 0

def Pages.ofBytes (bytes : Array UInt8) : Except DatabaseError Pages := do
  let size := 256 * byteAt bytes 16 + 65536 * byteAt bytes 17
  let usable := size - byteAt bytes 20
  if slice bytes 0 magic.length ≠ magic || 2 < byteAt bytes 19 ||
      slice bytes 21 fractions.length ≠ fractions || !pageSizes.contains size then
    throw .notADatabase
  let inFile := (bytes.size + size - 1) / size
  let counted := headerCount bytes
  if inFile < counted then throw .malformed
  if usable < leastUsable then throw .notADatabase
  if latestFormat < numberAt bytes 44 4 % 256 then throw .unsupportedFormat
  let count := if counted = 0 then inFile else counted
  return ⟨bytes, size, usable, count, encodingOf bytes, 2 < byteAt bytes 18⟩

/-- The pages of a file; nothing if it is empty. A single byte counts as nothing. -/
def pages? (file : List UInt8) : Except DatabaseError (Option Pages) :=
  if file.length ≤ 1 then .ok none else (Pages.ofBytes file.toArray).map some

def Pages.start (p : Pages) (page : Nat) : Nat :=
  (page - 1) * p.size

def Pages.has (p : Pages) (page : Nat) : Bool :=
  0 < page && page ≤ p.count

end DatabaseFile

end SchemaAtlas.Sql
