import SchemaAtlas.Sql.DatabaseFile.Pages

/-! # The tree of a database file

The list of contents lies in a search tree of pages that begins on the first page. The cells of
a leaf hold records; one too long for its page goes on through a chain of overflow pages.
-/
namespace SchemaAtlas.Sql.DatabaseFile

/-- A number of variable length: seven bits a byte as long as the highest bit is set, and all
bits of a ninth; and the place after it. -/
def varint (bytes : Array UInt8) (i : Nat) : (more : Nat) → (n : Nat) → Nat × Nat
  | 0, n => (256 * n + byteAt bytes i, i + 1)
  | more + 1, n =>
    let b := byteAt bytes i
    if b < 128 then (128 * n + b, i + 1) else varint bytes (i + 1) more (128 * n + (b - 128))

def varintAt (bytes : Array UInt8) (i : Nat) : Nat × Nat :=
  varint bytes i 8 0

/-- A record where it lies: its page, where it begins on it, its size, and how much of it lies
on the page itself. -/
structure Payload where
  page : Nat
  offset : Nat
  size : Nat
  here : Nat

/-- How many bytes of a record of some size lie in its cell, on a page that can hold `usable`
bytes. -/
def localSize (usable size : Nat) : Nat :=
  if size ≤ usable - 35 then size
  else
    let least := (usable - 12) * 32 / 255 - 23
    let most := least + (size - least) % (usable - 4)
    if most ≤ usable - 35 then most else least

def payloadAt (p : Pages) (page offset : Nat) : Payload :=
  let start := p.start page
  let (size, i) := varintAt p.bytes (start + offset)
  let (_, i) := varintAt p.bytes i
  let size := size % 0x100000000
  ⟨page, i - start, size, localSize p.usable size⟩

def overflow (p : Pages) : (bound : Nat) → (page size : Nat) → Except DatabaseError (List UInt8)
  | 0, _, _ => .error .malformed
  | bound + 1, page, size => do
    if size = 0 then return []
    if !p.has page then throw .malformed
    let start := p.start page
    let now := min size (p.usable - 4)
    return slice p.bytes (start + 4) now ++
      (← overflow p bound (numberAt p.bytes start 4) (size - now))

def Payload.near (p : Pages) (r : Payload) : Nat :=
  min r.here (p.size - r.offset)

def Payload.read (p : Pages) (r : Payload) (size : Nat) : Except DatabaseError (List UInt8) := do
  let start := p.start r.page + r.offset
  if size ≤ r.near p then return slice p.bytes start size
  if p.size * p.count < size || p.usable < r.offset + r.here then throw .malformed
  let first := slice p.bytes start (min size r.here)
  return first ++ (← overflow p (size + 1) (numberAt p.bytes (start + r.here) 4) (size - r.here))

/-- A page of the tree: whether it is a leaf, its cells, and the last of its children. -/
structure Node where
  isLeaf : Bool
  cells : List Nat
  lastChild : Nat

def node (p : Pages) (page : Nat) : Except DatabaseError Node := do
  if !p.has page then throw .malformed
  let start := p.start page
  let header := if page = 1 then start + 100 else start
  let kind := byteAt p.bytes header
  let count := numberAt p.bytes (header + 3) 2
  if kind ≠ 5 && kind ≠ 13 || (p.size - 8) / 6 < count then throw .malformed
  let first := header + if kind = 5 then 12 else 8
  let cells := (List.range count).map fun k => numberAt p.bytes (first + 2 * k) 2 % p.size
  return ⟨kind = 13, cells, numberAt p.bytes (header + 8) 4⟩

/-- How many pages may lie between the root and a leaf, both counted. -/
def maxDepth : Nat := 20

/-- What to do with the pages below one; the last is told apart. -/
def collect (below : Nat → Except DatabaseError Unit × List Payload) :
    List Nat → Except DatabaseError Unit × List Payload
  | [] => (.ok (), [])
  | page :: rest =>
    match below page with
    | (.error e, found) => (.error e, found)
    | (.ok (), found) =>
      let (result, more) := collect below rest
      (result, found ++ more)

/-- The records of the tree below a page in order, as far as it can be walked, and whether that
is all of it. Only the root may be empty. -/
def walk (p : Pages) : (depth : Nat) → (isRoot : Bool) → (page : Nat) →
    Except DatabaseError Unit × List Payload
  | 0, _, _ => (.error .malformed, [])
  | depth + 1, isRoot, page =>
    match node p page with
    | .error e => (.error e, [])
    | .ok n =>
      if n.cells.isEmpty && !isRoot then (.error .malformed, [])
      else if n.isLeaf then (.ok (), n.cells.map (payloadAt p page))
      else
        let child (offset : Nat) := numberAt p.bytes (p.start page + offset) 4
        collect (walk p depth false) (n.cells.map child ++ [n.lastChild])

/-- The records of the list of contents, as far as they can be found. -/
def payloads (p : Pages) : Except DatabaseError Unit × List Payload :=
  walk p maxDepth true 1

end SchemaAtlas.Sql.DatabaseFile
