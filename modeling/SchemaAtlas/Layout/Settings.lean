import SchemaAtlas.Toml.Reader
import SchemaAtlas.Value.Arithmetic
import SchemaAtlas.Schema.Document

/-! # Layout settings

The direction of a layout, the gaps it leaves and the sizes it assumes, as amounts of any
kind. Settings files give values, which are only looked at when they are used.
-/
namespace SchemaAtlas.Layout

inductive Direction where
  | leftToRight
  | rightToLeft
  | topToBottom
  | bottomToTop
  deriving DecidableEq, Repr

namespace Direction

def all : List Direction := [.leftToRight, .rightToLeft, .topToBottom, .bottomToTop]

def name : Direction → String
  | .leftToRight => "LR"
  | .rightToLeft => "RL"
  | .topToBottom => "TB"
  | .bottomToTop => "BT"

def isHorizontal : Direction → Bool
  | .leftToRight | .rightToLeft => true
  | .topToBottom | .bottomToTop => false

/-- Whether ranks lead against the direction of reading. -/
def isReversed : Direction → Bool
  | .rightToLeft | .bottomToTop => true
  | .leftToRight | .topToBottom => false

def ofValue (v : Value) : Except Fault Direction :=
  match all.find? fun d => v = .str d.name with
  | some d => .ok d
  | none => .error (if v.isWritable then .unknownDirection v.text else .tooManyDigits)

@[simp] theorem ofValue_name (d : Direction) : ofValue (.str d.name) = .ok d := by
  cases d <;> rfl

end Direction

structure Settings (α : Type) where
  direction : Direction
  /-- The gap between ranks. -/
  rankSep : α
  /-- The gap between tables of one rank. -/
  nodeSep : α
  nodeWidth : α
  headerHeight : α
  rowHeight : α
  /-- How many times layers are sorted. -/
  sweeps : α
  deriving DecidableEq

namespace Settings

def usual : Settings Value where
  direction := .leftToRight
  rankSep := .int 150
  nodeSep := .int 100
  nodeWidth := .int 240
  headerHeight := .int 40
  rowHeight := .int 36
  sweeps := .int 4

def names : List String :=
  ["direction", "rank_sep", "node_sep", "node_width", "header_height", "row_height", "sweeps"]

def ofFields (fields : List (String × Value)) : Except Fault (Settings Value) := do
  match fields.find? fun f => !names.contains f.1 with
  | some (name, _) => throw (.unknownSetting name)
  | none =>
    let setting (name : String) (default : Value) := (Value.field? name fields).getD default
    return {
      direction := ← Direction.ofValue (setting "direction" (.str usual.direction.name))
      rankSep := setting "rank_sep" usual.rankSep
      nodeSep := setting "node_sep" usual.nodeSep
      nodeWidth := setting "node_width" usual.nodeWidth
      headerHeight := setting "header_height" usual.headerHeight
      rowHeight := setting "row_height" usual.rowHeight
      sweeps := setting "sweeps" usual.sweeps }

def ofValue (v : Value) : Except Fault (Settings Value) :=
  match v with
  | .object fields => ofFields fields
  | _ => .error (.settingsNotATable v.kind)

/-- The settings in the `layout` table of a file with a name and some bytes, in which only so much
may be open around a value. Settings of the wrong shape are reported with the name of the file. -/
def ofFile (room : Nat) (name : String) (bytes : List UInt8) : Except Fault (Settings Value) := do
  let text ← (Text.decodeUtf8 bytes).mapError .notUtf8
  let document ← (Toml.read room text).mapError .notToml
  match ofValue ((Value.field? "layout" document).getD (.object [])) with
  | .ok settings => return settings
  | .error fault => match fault with
    | .unknownSetting _ | .settingsNotATable _ => throw (.invalidSettings name fault.message)
    | _ => throw fault

def withDirection (s : Settings α) (v : Value) : Except Fault (Settings α) := do
  return { s with direction := ← Direction.ofValue v }

def withDirection? (s : Settings α) : Option Value → Except Fault (Settings α)
  | some v => s.withDirection v
  | none => .ok s

end Settings

end SchemaAtlas.Layout
