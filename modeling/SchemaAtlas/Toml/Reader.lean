import SchemaAtlas.Toml.Scalar

/-! # Reading settings files

A reader of TOML documents. Tables are built along dotted keys; marks on keys remember
which of them are closed: a table that has been declared may not be declared again, and
what an inline table or an array holds may not be changed from outside.
-/
namespace SchemaAtlas.Toml
open Text (Cursor)

/-- Why a key is closed: it has been declared, or it is part of an inline value. -/
inductive MarkKind where
  | declared
  | frozen
  deriving DecidableEq, Repr

/-- A mark on a key. Frozen keys close everything below them as well. -/
structure Mark where
  key : List String
  kind : MarkKind

abbrev Marks := List Mark

namespace Marks

/-- Whether a key carries a mark, its own or one that reaches down to it. -/
def has (marks : Marks) (key : List String) (kind : MarkKind) : Bool :=
  marks.any fun m =>
    m.kind = kind && !key.isEmpty && (m.key = key || (kind = .frozen && m.key.isPrefixOf key))

def free (marks : Marks) (key : List String) : Marks :=
  marks.filter fun m => !key.isPrefixOf m.key

end Marks

/-- Changes the table at a dotted key, making the tables that are missing on the way.
Through arrays the way goes on in their last item. Nothing if a value is in the way. -/
def changeTable (throughLists : Bool)
    (change : List (String × Value) → Option (List (String × Value))) :
    List String → List (String × Value) → Option (List (String × Value))
  | [], fields => change fields
  | k :: rest, fields =>
    match Value.field? k fields with
    | none => do
      return Value.setField k (.object (← changeTable throughLists change rest [])) fields
    | some (.object inner) => do
      return Value.setField k (.object (← changeTable throughLists change rest inner)) fields
    | some (.list items) =>
      if throughLists then
        match items.getLast? with
        | some (.object inner) => do
          let last ← changeTable throughLists change rest inner
          return Value.setField k (.list (items.dropLast ++ [.object last])) fields
        | _ => none
      else none
    | some _ => none

def addField (name : String) (v : Value) (fields : List (String × Value)) :
    Option (List (String × Value)) :=
  match Value.field? name fields with
  | some _ => none
  | none => some (Value.setField name v fields)

def appendTable (name : String) (fields : List (String × Value)) :
    Option (List (String × Value)) :=
  match Value.field? name fields with
  | some (.list items) => some (Value.setField name (.list (items ++ [.object []])) fields)
  | some _ => none
  | none => some (Value.setField name (.list [.object []]) fields)

def isComposite : Value → Bool
  | .list _ | .object _ => true
  | _ => false

def skipArraySpace : Nat → Cursor → Attempt Cursor
  | 0, c => .ok c
  | fuel + 1, c => do
    let after ← skipComment (c.skipWhile isSpaceOrNewline)
    if after.offset = c.offset then return after else skipArraySpace fuel after

mutual

/-- The value ahead, in which only so much may be opened: an array counts two, an inline table
three. -/
def value : Nat → (room : Nat) → Cursor → Attempt (Value × Cursor)
  | 0, _, c => .error (.invalidValue, c.offset)
  | fuel + 1, room, c =>
    match c.next? with
    | some '"' => do
      let (s, after) ← if c.at? "\"\"\"" then multilineString '"' c else basicString c
      return (.str s, after)
    | some '\'' => do
      let (s, after) ← if c.at? "'''" then multilineString '\'' c else literalString c
      return (.str s, after)
    | some '[' => do
      if room < 2 then throw (.tooDeep, c.offset)
      let c ← skipArraySpace (c.rest.length + 1) (c.skip 1)
      if c.next? = some ']' then return (.list [], c.skip 1) else items fuel (room - 2) [] c
    | some '\x7b' =>
      if room < 3 then .error (.tooDeep, c.offset)
      else
        let c := skipSpace (c.skip 1)
        if c.next? = some '\x7d' then .ok (.object [], c.skip 1)
        else fields fuel (room - 3) [] [] c
    | _ =>
      if c.at? "true" then .ok (.bool true, c.skip 4)
      else if c.at? "false" then .ok (.bool false, c.skip 5)
      else momentOrNumber c

def items : Nat → (room : Nat) → List Value → Cursor → Attempt (Value × Cursor)
  | 0, _, _, c => .error (.unclosedArray, c.offset)
  | fuel + 1, room, read, c => do
    let (v, after) ← value fuel room c
    let c ← skipArraySpace (after.rest.length + 1) after
    let read := v :: read
    match c.next? with
    | some ']' => return (.list read.reverse, c.skip 1)
    | some ',' =>
      let c ← skipArraySpace (c.rest.length + 1) (c.skip 1)
      if c.next? = some ']' then return (.list read.reverse, c.skip 1) else items fuel room read c
    | _ => throw (.unclosedArray, c.offset)

def fields : Nat → (room : Nat) → Marks → List (String × Value) → Cursor →
    Attempt (Value × Cursor)
  | 0, _, _, _, c => .error (.unclosedTable, c.offset)
  | fuel + 1, room, marks, read, c => do
    let (key, v, after) ← pair fuel room c
    if marks.has key .frozen then throw (.immutable key, after.offset)
    let name := key.getLastD ""
    let parents := key.dropLast
    if (changeTable false some parents read).isNone then throw (.overwrite, after.offset)
    match changeTable false (addField name v) parents read with
    | none => throw (.duplicateKey name, after.offset)
    | some read =>
      let c := skipSpace after
      match c.next? with
      | some '\x7d' => return (.object read, c.skip 1)
      | some ',' =>
        let marks := if isComposite v then ⟨key, .frozen⟩ :: marks else marks
        fields fuel room marks read (skipSpace (c.skip 1))
      | _ => throw (.unclosedTable, c.offset)

def pair : Nat → (room : Nat) → Cursor → Attempt (List String × Value × Cursor)
  | 0, _, c => .error (.invalidKey, c.offset)
  | fuel + 1, room, c => do
    let (k, after) ← key c
    if after.next? ≠ some '=' then throw (.expectedEquals, after.offset)
    let (v, after) ← value fuel room (skipSpace (after.skip 1))
    return (k, v, after)

end

/-- A document while it is read: its fields, the marks, those that take effect at the
next header, and the key of the current table. -/
structure Draft where
  fields : List (String × Value) := []
  marks : Marks := []
  pending : Marks := []
  header : List String := []

def tableHeader (d : Draft) (c : Cursor) : Attempt (Draft × Cursor) := do
  let (k, c) ← key (skipSpace (c.skip 1))
  if d.marks.has k .declared || d.marks.has k .frozen then throw (.declaredTwice k, c.offset)
  match changeTable true some k d.fields with
  | none => throw (.overwrite, c.offset)
  | some fields =>
    if c.next? ≠ some ']' then throw (.unclosedHeader, c.offset)
    return (⟨fields, ⟨k, .declared⟩ :: d.marks, d.pending, k⟩, c.skip 1)

def arrayHeader (d : Draft) (c : Cursor) : Attempt (Draft × Cursor) := do
  let (k, c) ← key (skipSpace (c.skip 2))
  if d.marks.has k .frozen then throw (.immutable k, c.offset)
  match changeTable true (appendTable (k.getLastD "")) k.dropLast d.fields with
  | none => throw (.overwrite, c.offset)
  | some fields =>
    if !c.at? "]]" then throw (.unclosedArrayHeader, c.offset)
    return (⟨fields, ⟨k, .declared⟩ :: d.marks.free k, d.pending, k⟩, c.skip 2)

def checkWay (d : Draft) (offset : Nat) : List (List String) → Attempt Unit
  | [] => .ok ()
  | k :: rest =>
    if d.marks.has k .declared then .error (.redefined k, offset) else checkWay d offset rest

/-- Reads a key with its value, in which only so much may be opened, into the current table. -/
def assignment (room : Nat) (d : Draft) (c : Cursor) : Attempt (Draft × Cursor) := do
  let (key, v, after) ← pair (2 * c.rest.length + 2) room c
  let way := (List.range (key.length - 1)).map fun i => d.header ++ key.take (i + 1)
  checkWay d after.offset way
  let parents := d.header ++ key.dropLast
  if d.marks.has parents .frozen then throw (.immutable parents, after.offset)
  match changeTable true (addField (key.getLastD "") v) parents d.fields with
  | none => throw (.overwrite, after.offset)
  | some fields =>
    let marks := if isComposite v then ⟨d.header ++ key, .frozen⟩ :: d.marks else d.marks
    return (⟨fields, marks, d.pending ++ way.map (⟨·, .declared⟩), d.header⟩, after)

/-- The end of a statement: a comment may stand before the line end. -/
def lineEnd (c : Cursor) : Attempt (Option Cursor) := do
  let c ← skipComment c
  match c.next? with
  | none => return none
  | some '\n' => return some (c.skip 1)
  | some _ => throw (.expectedNewline, c.offset)

def statements (room : Nat) : Nat → Draft → Cursor → Attempt Draft
  | 0, d, _ => .ok d
  | fuel + 1, d, c => do
    let c := skipSpace c
    match c.next? with
    | none => return d
    | some '\n' => statements room fuel d (c.skip 1)
    | some first =>
      let (d, c) ←
        if isBareKey first || first = '"' || first = '\'' then do
          let (d, c) ← assignment room d c
          pure (d, skipSpace c)
        else if first = '[' then do
          let d := { d with marks := d.pending ++ d.marks, pending := [] }
          let (d, c) ← if c.at? "[[" then arrayHeader d c else tableHeader d c
          pure (d, skipSpace c)
        else if first = '#' then pure (d, c)
        else throw (.invalidStatement, c.offset)
      match ← lineEnd c with
      | none => return d
      | some c => statements room fuel d c

def joinLineEnds : List Char → List Char
  | '\r' :: '\n' :: rest => '\n' :: joinLineEnds rest
  | c :: rest => c :: joinLineEnds rest
  | [] => []

/-- Reads a TOML document: the fields of its top table. Only so much may be open around a value. -/
def read (room : Nat) (text : List Char) : Except SyntaxError (List (String × Value)) :=
  let text := joinLineEnds text
  match statements room (text.length + 1) ⟨[], [], [], []⟩ ⟨0, text⟩ with
  | .ok d => .ok d.fields
  | .error (problem, offset) =>
    .error ⟨problem, if offset < text.length then some (Text.place text offset) else none⟩

end SchemaAtlas.Toml
