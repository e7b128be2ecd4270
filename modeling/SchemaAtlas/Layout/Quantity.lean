import SchemaAtlas.Value.Arithmetic

/-! # Quantities

The arithmetic that a layout needs. On values each step may fail; a layout computed exactly
uses a type of numbers on which none does.
-/
namespace SchemaAtlas.Layout

class Quantity (α : Type) where
  /-- The position at which the first rank begins. -/
  origin : α
  /-- No length at all. -/
  zero : α
  add : α → α → Except Fault α
  sub : α → α → Except Fault α
  sum : List α → Except Fault α
  /-- A multiple by a count. -/
  times : α → Int → Except Fault α
  neg : α → Except Fault α
  half : α → Except Fault α
  less : α → α → Except Fault Bool
  /-- The number of repetitions that a quantity stands for. -/
  count : α → Except Fault Int

namespace Quantity

def countOf : Value → Except Fault Int
  | .int n => .ok n
  | .bool b => .ok (if b then 1 else 0)
  | _ => .error .unsuitable

instance : Quantity Value where
  origin := .float 0
  zero := .int 0
  add := Value.add
  sub := Value.sub
  sum := Value.sum
  times := Value.mulInt
  neg := Value.neg
  half := Value.half
  less := Value.less
  count := countOf

variable {α : Type} [Quantity α]

/-- The largest of some quantities, the first of several. -/
def largest (x : α) (xs : List α) : Except Fault α :=
  xs.foldlM (fun m x => do return if ← less m x then x else m) x

def smallest (x : α) (xs : List α) : Except Fault α :=
  xs.foldlM (fun m x => do return if ← less x m then x else m) x

end Quantity

end SchemaAtlas.Layout
