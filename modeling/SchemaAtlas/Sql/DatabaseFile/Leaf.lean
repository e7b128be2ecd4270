/-! # How a page is filled

The first page of a database file, as long as it is a leaf. Cells are laid at its end, the
places of the cells after its header. Where a cell has been taken away a slot stays free, which
another cell can take; a remainder of less than four bytes is lost until all cells are gathered.
-/
namespace SchemaAtlas.Sql.DatabaseFile

def pageSize : Nat := 4096

def leafStart : Nat := 100

structure Cell where
  start : Nat
  bytes : List UInt8

def Cell.stop (c : Cell) : Nat := c.start + c.bytes.length

structure Slot where
  start : Nat
  size : Nat

def Slot.stop (s : Slot) : Nat := s.start + s.size

/-- A leaf: its cells in order, where the lowest of them may begin, the slots between them in the
order of their places, and how many bytes are lost. -/
structure Leaf where
  cells : List Cell
  top : Nat
  free : List Slot
  lost : Nat

namespace Leaf

def empty : Leaf := ⟨[], pageSize, [], 0⟩

def gap (l : Leaf) : Nat := leafStart + 8 + 2 * l.cells.length

def room (l : Leaf) : Nat :=
  l.top - l.gap + l.lost + (l.free.map Slot.size).foldl (· + ·) 0

def leastSlot : Nat := 4

/-- How many bytes may be lost before no slot is taken that leaves a remainder. -/
def mostLost : Nat := 57

/-- Cuts some bytes from the end of the first slot that has them: where they begin, the slots that
are left, and how many bytes are lost. -/
def takeSlot (size lost : Nat) : List Slot → Option (Nat × List Slot × Nat)
  | [] => none
  | s :: rest =>
    if pageSize < s.start + size then none
    else if s.size < size then
      (takeSlot size lost rest).map fun (start, left, lost) => (start, s :: left, lost)
    else if s.size - size < leastSlot then
      if mostLost < lost then none else some (s.start, rest, lost + (s.size - size))
    else some (s.stop - size, { s with size := s.size - size } :: rest, lost)

def closed (l : Leaf) (first : Slot) (second? : Option Slot) : Leaf :=
  let after := (second?.map Slot.size).getD 0
  let move (c : Cell) : Cell :=
    if c.start < first.start then { c with start := c.start + first.size + after }
    else if second?.any (c.start < ·.start) then { c with start := c.start + after }
    else c
  { l with cells := l.cells.map move, top := l.top + first.size + after, free := [] }

/-- Cells one below the other, from a place downwards, and where the last begins. -/
def laid (top : Nat) : List Cell → List Cell × Nat
  | [] => ([], top)
  | c :: rest =>
    let start := top - c.bytes.length
    let (cells, last) := laid start rest
    ({ c with start } :: cells, last)

def repacked (l : Leaf) : Leaf :=
  let (cells, top) := laid pageSize l.cells
  ⟨cells, top, [], 0⟩

/-- The leaf without slots. One or two of them are closed if no more than some bytes are lost
besides. -/
def gathered (l : Leaf) (mostLost : Nat) : Leaf :=
  if mostLost < l.lost then l.repacked
  else match l.free with
    | [first] => l.closed first none
    | [first, second] => l.closed first (some second)
    | _ => l.repacked

/-- A place for some bytes and for that of their cell, for which there has to be room. -/
def allocated (l : Leaf) (size : Nat) : Leaf × Nat :=
  match if l.gap + 2 ≤ l.top then takeSlot size l.lost l.free else none with
  | some (start, free, lost) => ({ l with free, lost }, start)
  | none =>
    let l := if l.top < l.gap + 2 + size then l.gathered (min 4 (l.room - (2 + size))) else l
    ({ l with top := l.top - size }, l.top - size)

def insert? (l : Leaf) (i : Nat) (bytes : List UInt8) : Option Leaf :=
  if l.room < bytes.length + 2 then none
  else
    let (l, start) := l.allocated bytes.length
    some { l with cells := l.cells.take i ++ ⟨start, bytes⟩ :: l.cells.drop i }

/-- The leaf with a stretch of it made free. Slots that come close to it become one with it. -/
def released (l : Leaf) (s : Slot) : Leaf :=
  let before := l.free.takeWhile (·.start < s.start)
  let after := l.free.dropWhile (·.start < s.start)
  let (stop, lost, after) := match after with
    | next :: more =>
      if next.start < s.stop + leastSlot then (next.stop, l.lost - (next.start - s.stop), more)
      else (s.stop, l.lost, after)
    | [] => (s.stop, l.lost, after)
  let (start, lost, before) := match before.getLast? with
    | some last =>
      if s.start < last.stop + leastSlot then
        (last.start, lost - (s.start - last.stop), before.dropLast)
      else (s.start, lost, before)
    | none => (s.start, lost, before)
  if start ≤ l.top then { l with top := stop, free := after, lost }
  else { l with free := before ++ ⟨start, stop - start⟩ :: after, lost }

def dropped (l : Leaf) (i : Nat) : Leaf :=
  match l.cells[i]? with
  | none => l
  | some c =>
    match l.cells.eraseIdx i with
    | [] => empty
    | cells => { l.released ⟨c.start, c.bytes.length⟩ with cells }

def replace? (l : Leaf) (i : Nat) (bytes : List UInt8) : Option Leaf :=
  if l.cells[i]?.any (·.bytes.length = bytes.length) then
    some { l with cells := l.cells.modify i fun c => { c with bytes } }
  else (l.dropped i).insert? i bytes

def twoBytes (n : Nat) : List UInt8 := [.ofNat (n / 256), .ofNat (n % 256)]

/-- The slots as they are written: each with the place of the next one and its size. -/
def slotCells : List Slot → List Cell
  | [] => []
  | s :: rest =>
    let next := (rest.head?.map Slot.start).getD 0
    ⟨s.start, twoBytes next ++ twoBytes s.size⟩ :: slotCells rest

def laidOut (start : Nat) : List Cell → List UInt8
  | [] => List.replicate (pageSize - start) 0
  | c :: rest => List.replicate (c.start - start) 0 ++ c.bytes ++ laidOut c.stop rest

def bytes (l : Leaf) : List UInt8 :=
  let firstSlot := (l.free.head?.map Slot.start).getD 0
  let header := 13 :: twoBytes firstSlot ++ twoBytes l.cells.length ++ twoBytes l.top ++
    [.ofNat l.lost]
  let content := (l.cells ++ slotCells l.free).mergeSort fun c d => c.start ≤ d.start
  header ++ l.cells.flatMap (fun c => twoBytes c.start) ++ laidOut l.gap content

end Leaf

end SchemaAtlas.Sql.DatabaseFile
