import SchemaAtlas.Proofs.Layout.Exact
import Mathlib.Tactic.Ring

/-! # Boxes

Rectangles on the canvas, by the axes of a layout: along the primary axis they come one before
the other in the order of reading, along the secondary axis they begin and end somewhere.
-/
namespace SchemaAtlas.Layout

/-- A rectangle on the canvas. -/
structure Box where
  corner : Pair ℚ
  size : Pair ℚ

/-- A box comes before another in the order of reading, with a gap between them. -/
def Box.Precedes (d : Direction) (gap : ℚ) (a b : Box) : Prop :=
  match d with
  | .leftToRight => a.corner.x + a.size.x + gap ≤ b.corner.x
  | .rightToLeft => b.corner.x + b.size.x + gap ≤ a.corner.x
  | .topToBottom => a.corner.y + a.size.y + gap ≤ b.corner.y
  | .bottomToTop => b.corner.y + b.size.y + gap ≤ a.corner.y

/-- Where a box begins along the secondary axis. -/
def Box.crossStart (d : Direction) (b : Box) : ℚ :=
  if d.isHorizontal then b.corner.y else b.corner.x

/-- Where a box ends along the secondary axis. -/
def Box.crossEnd (d : Direction) (b : Box) : ℚ :=
  if d.isHorizontal then b.corner.y + b.size.y else b.corner.x + b.size.x

/-- Along the secondary axis, some boxes reach from one position exactly to another. -/
def Spans (d : Direction) (boxes : List Box) (start stop : ℚ) : Prop :=
  (∀ b ∈ boxes, start ≤ b.crossStart d ∧ b.crossEnd d ≤ stop) ∧
    (∃ b ∈ boxes, b.crossStart d = start) ∧ ∃ b ∈ boxes, b.crossEnd d = stop

/-- A point lies inside a box and not on its border. -/
def Box.Interior (b : Box) (p : Pair ℚ) : Prop :=
  (b.corner.x < p.x ∧ p.x < b.corner.x + b.size.x) ∧
    b.corner.y < p.y ∧ p.y < b.corner.y + b.size.y

theorem Box.Precedes.not_interior {d : Direction} {gap : ℚ} {a b : Box} (hgap : 0 ≤ gap)
    (h : a.Precedes d gap b) (p : Pair ℚ) : ¬ (a.Interior p ∧ b.Interior p) := by
  rintro ⟨⟨⟨hax, hax'⟩, hay, hay'⟩, ⟨hbx, hbx'⟩, hby, hby'⟩
  cases d <;> simp only [Precedes] at h <;> linarith

theorem Box.not_interior_of_cross {d : Direction} {gap : ℚ} {a b : Box} (hgap : 0 ≤ gap)
    (h : a.crossEnd d + gap ≤ b.crossStart d) (p : Pair ℚ) :
    ¬ (a.Interior p ∧ b.Interior p) := by
  rintro ⟨⟨⟨hax, hax'⟩, hay, hay'⟩, ⟨hbx, hbx'⟩, hby, hby'⟩
  cases d <;> simp [crossStart, crossEnd, Direction.isHorizontal] at h <;> linarith

/-- A box with a size and a centre along the axes, moved by some corner. -/
def boxAt (d : Direction) (least size centre : Pair ℚ) : Box :=
  ⟨⟨(exactCorner d size centre).x - least.x, (exactCorner d size centre).y - least.y⟩, size⟩

section
variable (d : Direction) (least : Pair ℚ)

theorem crossStart_boxAt (size centre : Pair ℚ) :
    (boxAt d least size centre).crossStart d =
      centre.y - (size.turn d.isHorizontal).y / 2 - (least.turn d.isHorizontal).y := by
  cases d <;> rfl

theorem crossEnd_boxAt (size centre : Pair ℚ) :
    (boxAt d least size centre).crossEnd d =
      centre.y + (size.turn d.isHorizontal).y / 2 - (least.turn d.isHorizontal).y := by
  cases d <;>
    simp only [boxAt, exactCorner, Box.crossEnd, Pair.turn, Direction.isHorizontal, if_true,
      Bool.false_eq_true, if_false] <;> ring

theorem precedes_boxAt {gap : ℚ} {a b c e : Pair ℚ}
    (h : c.x + (a.turn d.isHorizontal).x / 2 + gap ≤ e.x - (b.turn d.isHorizontal).x / 2) :
    (boxAt d least a c).Precedes d gap (boxAt d least b e) := by
  cases d <;>
    simp only [boxAt, exactCorner, Box.Precedes, Pair.turn, Direction.isHorizontal,
      Direction.isReversed, if_true, Bool.false_eq_true, if_false] at h ⊢ <;> linarith

end

end SchemaAtlas.Layout
