import SchemaAtlas.Proofs.Layout.Placement

/-! # Mirrored layouts

A layout is computed along its axes, and only then turned and reversed. So layouts in opposite
directions have the same centres along the axes. One is the mirror image of the other, although
sizes are taken off after the reversal and both are moved to the origin.
-/
namespace SchemaAtlas.Layout
open Schema (Graph Table)

def Settings.towards (s : Settings ℚ) (d : Direction) : Settings ℚ :=
  { s with direction := d }

def Box.right (b : Box) : ℚ :=
  b.corner.x + b.size.x

def Box.bottom (b : Box) : ℚ :=
  b.corner.y + b.size.y

/-- The mirror image of a box on a canvas of some width. -/
def Box.mirrorX (width : ℚ) (b : Box) : Box :=
  ⟨⟨width - b.right, b.corner.y⟩, b.size⟩

/-- The mirror image of a box on a canvas of some height. -/
def Box.mirrorY (height : ℚ) (b : Box) : Box :=
  ⟨⟨b.corner.x, height - b.bottom⟩, b.size⟩

/-- The boxes that laying a graph out gives its tables. -/
structure IsPlaced (s : Settings ℚ) (g : Graph) (box : Table → Box) : Prop where
  sizes : ∀ t ∈ g.tables, s.nodeSize t = .ok (box t).size
  corners : place s g = .ok (g.tables.map fun t => (box t).corner)

/-! Coordinates that begin at zero. -/

section Coordinates
variable {ι : Type} {S : Set ι} {f g : ι → ℚ} {k : ℚ}

theorem isGreatest_of_mirror (h : ∀ i ∈ S, g i = k - f i) (hleast : IsLeast (g '' S) 0) :
    IsGreatest (f '' S) k := by
  obtain ⟨⟨i, hi, hzero⟩, hlow⟩ := hleast
  refine ⟨⟨i, hi, ?_⟩, ?_⟩
  · have hgi := h i hi
    linarith
  · rintro _ ⟨j, hj, rfl⟩
    have hgj := h j hj
    have hnonneg : 0 ≤ g j := hlow ⟨j, hj, rfl⟩
    linarith

theorem eq_of_shift (h : ∀ i ∈ S, g i = f i + k) (hf : IsLeast (f '' S) 0)
    (hg : IsLeast (g '' S) 0) : ∀ i ∈ S, g i = f i := by
  obtain ⟨⟨i, hi, hzero⟩, hlow⟩ := hf
  obtain ⟨⟨j, hj, hzero'⟩, hlow'⟩ := hg
  have hgi := h i hi
  have hgj := h j hj
  have hnonneg : 0 ≤ f j := hlow ⟨j, hj, rfl⟩
  have hnonneg' : 0 ≤ g i := hlow' ⟨i, hi, rfl⟩
  have hk : k = 0 := by linarith
  intro m hm
  rw [h m hm, hk, add_zero]

end Coordinates

/-! The centres along the axes are the same in both directions of an axis. -/

section Directions
variable (s : Settings ℚ) (d : Direction) (size : Value → Pair ℚ)

theorem stacked_towards (line cursor : ℚ) (layer : List Value) :
    stacked (s.towards d) size line cursor layer = stacked s size line cursor layer := by
  induction layer generalizing cursor with
  | nil => rfl
  | cons u rest ih =>
    rw [stacked, stacked, ih]
    rfl

theorem bands_towards (start : ℚ) (layers : List (List Value)) :
    bands (s.towards d) size start layers = bands s size start layers := by
  induction layers generalizing start with
  | nil => rfl
  | cons layer rest ih =>
    have hnext : nextBand (s.towards d) size start layer = nextBand s size start layer := by
      cases layer <;> rfl
    rw [bands, bands, ih, hnext, band, band, stacked_towards]
    rfl

variable {d} {e : Direction} (h : d.isHorizontal = e.isHorizontal) (g : Graph)
include h

theorem centreOf_towards (u : Value) :
    centreOf (s.towards d) g u = centreOf (s.towards e) g u := by
  have hsize : axialSize (s.towards d) g = axialSize (s.towards e) g := by
    funext v
    exact congrArg (Pair.turn · (sizeOf s g v)) h
  have hlayers : exactLayers (s.towards d) g = exactLayers (s.towards e) g := rfl
  rw [centreOf, centreOf, exactCentres, exactCentres, hsize, hlayers, bands_towards, bands_towards]

theorem exists_boxAt : ∃ least, ∀ t, tableBox (s.towards d) g t =
    boxAt d least (s.exactSize t) (centreOf (s.towards e) g t.key) := by
  refine ⟨exactLeast (exactCorners (s.towards d) g), fun t => ?_⟩
  rw [← centreOf_towards s h]
  rfl

end Directions

/-! The corners in opposite directions, up to how both are moved. -/

theorem corner_rightToLeft (least least' size centre : Pair ℚ) :
    (boxAt .rightToLeft least' size centre).corner =
      ⟨-least.x - least'.x - (boxAt .leftToRight least size centre).right,
        (boxAt .leftToRight least size centre).corner.y + (least.y - least'.y)⟩ := by
  simp only [boxAt, exactCorner, Pair.turn, Direction.isHorizontal, Direction.isReversed,
    Box.right, if_true, Bool.false_eq_true, if_false]
  congr 1 <;> ring

theorem corner_bottomToTop (least least' size centre : Pair ℚ) :
    (boxAt .bottomToTop least' size centre).corner =
      ⟨(boxAt .topToBottom least size centre).corner.x + (least.x - least'.x),
        -least.y - least'.y - (boxAt .topToBottom least size centre).bottom⟩ := by
  simp only [boxAt, exactCorner, Pair.turn, Direction.isHorizontal, Direction.isReversed,
    Box.bottom, if_true, Bool.false_eq_true, if_false]
  congr 1 <;> ring

section Mirrored
variable (s : Settings ℚ) {g : Graph} (hd : g.tableKeys.Nodup)
  (hid : ∀ t ∈ g.tables, IsNodeId t.id) (hne : g.tables ≠ [])
include hd hid hne

theorem tableBox_rightToLeft : ∃ width,
    IsGreatest ((fun t => (tableBox (s.towards .leftToRight) g t).right) '' {t | t ∈ g.tables})
      width ∧
    ∀ t ∈ g.tables, tableBox (s.towards .rightToLeft) g t =
      (tableBox (s.towards .leftToRight) g t).mirrorX width := by
  obtain ⟨_, hy⟩ := isLeast_corner (s := s.towards .leftToRight) hid hd hne
  obtain ⟨hx', hy'⟩ := isLeast_corner (s := s.towards .rightToLeft) hid hd hne
  obtain ⟨least, hbox⟩ := exists_boxAt s (d := .leftToRight) rfl g
  obtain ⟨least', hbox'⟩ := exists_boxAt s (d := .rightToLeft) (e := .leftToRight) rfl g
  simp only [hbox, hbox'] at hy hx' hy' ⊢
  have hcorner := fun t => corner_rightToLeft least least' (s.exactSize t)
    (centreOf (s.towards .leftToRight) g t.key)
  refine ⟨_, isGreatest_of_mirror (fun t _ => congrArg Pair.x (hcorner t)) hx', fun t ht => ?_⟩
  have hsame := eq_of_shift (fun t _ => congrArg Pair.y (hcorner t)) hy hy' t ht
  have hcorner' := congrArg₂ Pair.mk (congrArg Pair.x (hcorner t)) hsame
  exact congrArg (Box.mk · (s.exactSize t)) hcorner'

theorem tableBox_bottomToTop : ∃ height,
    IsGreatest ((fun t => (tableBox (s.towards .topToBottom) g t).bottom) '' {t | t ∈ g.tables})
      height ∧
    ∀ t ∈ g.tables, tableBox (s.towards .bottomToTop) g t =
      (tableBox (s.towards .topToBottom) g t).mirrorY height := by
  obtain ⟨hx, _⟩ := isLeast_corner (s := s.towards .topToBottom) hid hd hne
  obtain ⟨hx', hy'⟩ := isLeast_corner (s := s.towards .bottomToTop) hid hd hne
  obtain ⟨least, hbox⟩ := exists_boxAt s (d := .topToBottom) rfl g
  obtain ⟨least', hbox'⟩ := exists_boxAt s (d := .bottomToTop) (e := .topToBottom) rfl g
  simp only [hbox, hbox'] at hx hx' hy' ⊢
  have hcorner := fun t => corner_bottomToTop least least' (s.exactSize t)
    (centreOf (s.towards .topToBottom) g t.key)
  refine ⟨_, isGreatest_of_mirror (fun t _ => congrArg Pair.y (hcorner t)) hy', fun t ht => ?_⟩
  have hsame := eq_of_shift (fun t _ => congrArg Pair.x (hcorner t)) hx hx' t ht
  have hcorner' := congrArg₂ Pair.mk hsame (congrArg Pair.y (hcorner t))
  exact congrArg (Box.mk · (s.exactSize t)) hcorner'

end Mirrored

/-- A layout against the direction of reading is the mirror image of the one along it, on the
canvas that this one takes. -/
theorem place_mirrored (s : Settings ℚ) (g : Graph) (hsweeps : s.sweeps.den = 1)
    (hne : g.tables ≠ []) (hd : g.tableKeys.Nodup) (hid : ∀ t ∈ g.tables, IsNodeId t.id) :
    (∃ lr rl width, IsPlaced (s.towards .leftToRight) g lr ∧
      IsPlaced (s.towards .rightToLeft) g rl ∧
      IsGreatest ((fun t => (lr t).right) '' {t | t ∈ g.tables}) width ∧
      ∀ t ∈ g.tables, rl t = (lr t).mirrorX width) ∧
    ∃ tb bt height, IsPlaced (s.towards .topToBottom) g tb ∧
      IsPlaced (s.towards .bottomToTop) g bt ∧
      IsGreatest ((fun t => (tb t).bottom) '' {t | t ∈ g.tables}) height ∧
      ∀ t ∈ g.tables, bt t = (tb t).mirrorY height := by
  have hplaced : ∀ d, IsPlaced (s.towards d) g (tableBox (s.towards d) g) :=
    fun _ => ⟨fun t _ => nodeSize_eq s t, place_eq_tableBox hid hd hsweeps⟩
  obtain ⟨width, hwidth, hmirrorX⟩ := tableBox_rightToLeft s hd hid hne
  obtain ⟨height, hheight, hmirrorY⟩ := tableBox_bottomToTop s hd hid hne
  exact ⟨⟨_, _, width, hplaced _, hplaced _, hwidth, hmirrorX⟩,
    _, _, height, hplaced _, hplaced _, hheight, hmirrorY⟩

theorem place_mirrored_ring :
    fractions.sweeps.den = 1 ∧ ring.tables ≠ [] ∧ ring.tableKeys.Nodup ∧
      (∀ t ∈ ring.tables, IsNodeId t.id) ∧
      ∃ lr rl width, IsPlaced (fractions.towards .leftToRight) ring lr ∧
        IsPlaced (fractions.towards .rightToLeft) ring rl ∧
        (lr (labelled "a")).right ≤ width ∧
        rl (labelled "a") = (lr (labelled "a")).mirrorX width := by
  have hsweeps : fractions.sweeps.den = 1 := rfl
  have hne : ring.tables ≠ [] := by decide
  have hd : ring.tableKeys.Nodup := by decide
  have ha : labelled "a" ∈ ring.tables := by decide
  obtain ⟨⟨lr, rl, width, hlr, hrl, hgreatest, hmirror⟩, _⟩ :=
    place_mirrored fractions ring hsweeps hne hd isNodeId_ring
  exact ⟨hsweeps, hne, hd, isNodeId_ring, lr, rl, width, hlr, hrl, hgreatest.2 ⟨_, ha, rfl⟩,
    hmirror _ ha⟩

example : place (fractions.towards .topToBottom) ring =
    .ok [⟨0, 0⟩, ⟨15 / 14, 17 / 6⟩, ⟨15 / 14, 17 / 3⟩, ⟨15 / 14, 17 / 2⟩, ⟨15 / 7, 0⟩] := by
  cbv

end SchemaAtlas.Layout
