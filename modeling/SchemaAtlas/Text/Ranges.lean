/-! # Sets of code points given by their boundaries

A set of code points is an increasing list of boundaries: membership flips at
each of them, so `[48, 58]` holds the ten digits and nothing else.
-/
namespace SchemaAtlas.Text

/-- Whether `n` lies in the set whose membership is `inside` before the first boundary. -/
def crosses : List Nat → Bool → Nat → Bool
  | [], inside, _ => inside
  | b :: rest, inside, n => if n < b then inside else crosses rest (!inside) n

def inRanges (bounds : List Nat) (c : Char) : Bool :=
  crosses bounds false c.toNat

theorem crosses_of_lt {b n : Nat} (h : n < b) (rest : List Nat) (inside : Bool) :
    crosses (b :: rest) inside n = inside := by
  simp [crosses, h]

theorem crosses_of_le {b n : Nat} (h : b ≤ n) (rest : List Nat) (inside : Bool) :
    crosses (b :: rest) inside n = crosses rest (!inside) n := by
  simp [crosses, Nat.not_lt.mpr h]

end SchemaAtlas.Text
