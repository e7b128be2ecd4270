import SchemaAtlas.Sql.DatabaseFile.Tree

/-! # Records of a database file

A record has a header with the types of its columns, and then their contents. Columns past the
end of the header are null.
-/
namespace SchemaAtlas.Sql

inductive Field where
  | null
  | int (n : Int)
  | real
  | text (bytes : List UInt8)
  | blob (bytes : List UInt8)
  deriving DecidableEq, Repr

namespace DatabaseFile

def columnSize (type : Nat) : Nat :=
  if 12 ≤ type then (type - 12) / 2
  else if type = 5 then 6
  else if type = 6 ∨ type = 7 then 8
  else if type ≤ 4 then type
  else 0

def signedNumber (bytes : List UInt8) : Int :=
  let n : Nat := bytes.foldl (fun n b => 256 * n + b.toNat) 0
  if bytes.head?.any (127 < ·) then (n : Int) - Nat.pow 256 bytes.length else n

def fieldOf (type : Nat) (bytes : List UInt8) : Field :=
  if 12 ≤ type then (if type % 2 = 1 then .text bytes else .blob bytes)
  else if type = 7 then .real
  else if type = 8 then .int 0
  else if type = 9 then .int 1
  else if 0 < type ∧ type ≤ 6 then .int (signedNumber bytes)
  else .null

/-- Reads some columns: `i` is the place in the header, which ends at `stop`, and `start` the place
of the content. The header and the contents have to end with the record. -/
def columnsFrom (p : Pages) (r : Payload) (header : Array UInt8) (stop : Nat) :
    (count i start : Nat) → Except DatabaseError (List Field)
  | 0, _, _ => .ok []
  | count + 1, i, start =>
    if stop ≤ i then .ok (List.replicate (count + 1) .null)
    else do
      let (type, i) := varintAt header i
      let size := columnSize (min type 0xffffffff)
      let after := start + size
      if stop ≤ i && (stop < i || after ≠ r.size) || r.size < after then throw .malformed
      let bytes ← if size = 0 then pure [] else r.read p after
      return fieldOf type (bytes.drop start) :: (← columnsFrom p r header stop count i after)

/-- The first columns of a record, which has to begin on its page. A header has to hold the type
of one column at least, unless it says that there is no header at all. -/
def columns (p : Pages) (r : Payload) (count : Nat) : Except DatabaseError (List Field) := do
  if p.size ≤ r.offset then throw .malformed
  let first := slice p.bytes (p.start r.page + r.offset) 9
  let (stop, i) := varintAt first.toArray 0
  if stop = 0 then return List.replicate count .null
  if r.near p < stop && r.size < stop || stop ≤ i && stop ≤ r.near p then throw .malformed
  columnsFrom p r (← r.read p stop).toArray stop count i stop

/-- The code units that bytes write, two bytes each; an odd last byte is dropped. -/
def units (high low : UInt8 → UInt8 → UInt8) : List UInt8 → List Nat
  | a :: b :: rest => (256 * (high a b).toNat + (low a b).toNat) :: units high low rest
  | _ => []

/-- The characters that code units write. Any unit of the surrogate range is taken together
with the next; nothing if there is none. -/
def ofUnits : List Nat → Option (List Char)
  | [] => some []
  | u :: rest =>
    if u < 0xd800 ∨ 0xe000 ≤ u then (ofUnits rest).map (Char.ofNat u :: ·)
    else match rest with
      | v :: rest =>
        let n := v % 0x400 + u % 0x40 * 0x400 + (u % 0x400 / 0x40 + 1) * 0x10000
        (ofUnits rest).map (Char.ofNat n :: ·)
      | [] => none

def decode? (e : Encoding) (bytes : List UInt8) : Option (List Char) :=
  match e with
  | .utf8 => (Text.decodeUtf8 bytes).toOption
  | .utf16Little => ofUnits (units (fun _ b => b) (fun a _ => a) bytes)
  | .utf16Big => ofUnits (units (fun a _ => a) (fun _ b => b) bytes)

/-- The text that bytes write, with a replacement for every byte that is no text. -/
def shownBytes (e : Encoding) (bytes : List UInt8) : List Char :=
  (decode? e bytes).getD <| bytes.map fun b => if b < 128 then Char.ofNat b.toNat else '\ufffd'

def Field.shown? (e : Encoding) : Field → Option (List Char)
  | .null => none
  | .int n => some (toString n).toList
  | .real => some "0.0".toList
  | .text bytes | .blob bytes => some ((shownBytes e bytes).takeWhile (· ≠ '\x00'))

end DatabaseFile

end SchemaAtlas.Sql
