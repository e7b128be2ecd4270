import Mathlib.Algebra.Group.Nat.Defs
import SchemaAtlas.Number.Rounding

/-! # Quotients in range

A quotient of natural numbers has a nearest floating point number as long as it is far from the
largest one. An integer has one exactly up to the middle between the largest one and the next power
of two.
-/
namespace SchemaAtlas.Number

theorem le_magnitude (n d : Nat) : (n.log2 : Int) - d.log2 - 1 ≤ magnitude n d := by
  unfold magnitude
  dsimp only
  split <;> omega

theorem magnitude_le (n d : Nat) : magnitude n d ≤ (n.log2 : Int) - d.log2 := by
  unfold magnitude
  dsimp only
  split <;> omega

/-- The significand of a quotient takes few bits. -/
theorem scaleUp_lt {n d : Nat} (hd : d ≠ 0) {u : Int} (hu : (n.log2 : Int) - d.log2 - 53 ≤ u) :
    scaleUp n (-u) < scaleUp d u * 2 ^ 54 := by
  have hn : n < 2 ^ (n.log2 + 1) := Nat.lt_log2_self
  have hlog : 2 ^ d.log2 ≤ d := Nat.log2_self_le hd
  have hexp : n.log2 + 1 + (-u).toNat ≤ d.log2 + u.toNat + 54 := by omega
  have hpos : 0 < 2 ^ (-u).toNat := Nat.two_pow_pos _
  calc scaleUp n (-u) = n * 2 ^ (-u).toNat := rfl
    _ < 2 ^ (n.log2 + 1) * 2 ^ (-u).toNat := Nat.mul_lt_mul_of_pos_right hn hpos
    _ = 2 ^ (n.log2 + 1 + (-u).toNat) := (Nat.pow_add ..).symm
    _ ≤ 2 ^ (d.log2 + u.toNat + 54) := Nat.pow_le_pow_right (by decide) hexp
    _ = 2 ^ d.log2 * 2 ^ u.toNat * 2 ^ 54 := by rw [Nat.pow_add, Nat.pow_add]
    _ ≤ d * 2 ^ u.toNat * 2 ^ 54 :=
      Nat.mul_le_mul_right _ (Nat.mul_le_mul_right _ hlog)
    _ = scaleUp d u * 2 ^ 54 := rfl

theorem roundQuotient_le {n d bound : Nat} (h : n < d * bound) : roundQuotient n d ≤ bound := by
  have hq : n / d < bound := Nat.div_lt_of_lt_mul h
  unfold roundQuotient
  dsimp only
  split <;> omega

theorem encodeQuotient_lt {n d : Nat} (hn : n < 2 ^ 200) (hd : d ≠ 0) :
    encodeQuotient n d < infinityBits := by
  unfold encodeQuotient
  split
  · decide
  · next hzero =>
    have hlog : n.log2 < 200 := (Nat.log2_lt hzero).mpr hn
    have hlow := le_magnitude n d
    have hhigh := magnitude_le n d
    dsimp only
    generalize hu : lastPlace (magnitude n d) = u
    unfold lastPlace at hu
    have hround := roundQuotient_le (scaleUp_lt hd (by omega : (n.log2 : Int) - d.log2 - 53 ≤ u))
    have hplace : (u + 1074).toNat ≤ 1221 := by omega
    have hweight := Nat.mul_le_mul_right hiddenBit hplace
    unfold infinityBits
    unfold hiddenBit at hweight ⊢
    omega

theorem exists_ofQuotient? (negative : Bool) {n d : Nat} (hn : n < 2 ^ 200) (hd : d ≠ 0) :
    ∃ x, ofQuotient? negative n d = some x :=
  ⟨_, if_pos (encodeQuotient_lt hn hd)⟩

theorem exists_ofInt? {n : Int} (h : n.natAbs < 2 ^ 200) : ∃ x, ofInt? n = some x :=
  exists_ofQuotient? _ h Nat.one_ne_zero

/-! Which integers are out of range. -/

/-- Rounding reaches an even number from the middle below it on. -/
theorem le_roundQuotient_iff {n d bound : Nat} (hd : 0 < d) (hpos : 0 < bound)
    (heven : bound % 2 = 0) : bound ≤ roundQuotient n d ↔ (2 * bound - 1) * d ≤ 2 * n := by
  have hn := Nat.div_add_mod n d
  have hr := Nat.mod_lt n hd
  obtain ⟨b, rfl⟩ := Nat.exists_eq_add_one.mpr hpos
  have hmiddle : (2 * (b + 1) - 1) * d = 2 * (d * b) + d := by
    rw [show 2 * (b + 1) - 1 = 2 * b + 1 by omega, Nat.add_mul, Nat.one_mul, Nat.mul_assoc,
      Nat.mul_comm b d]
  unfold roundQuotient
  dsimp only
  generalize n / d = q at *
  generalize n % d = r at *
  rcases Nat.lt_trichotomy q b with hq | rfl | hq
  · have hle : d * (q + 1) ≤ d * b := Nat.mul_le_mul_left d hq
    rw [Nat.mul_succ] at hle
    split <;> omega
  · split <;> omega
  · have hle : d * (b + 1) ≤ d * q := Nat.mul_le_mul_left d hq
    rw [Nat.mul_succ] at hle
    split <;> omega

theorem magnitude_one {m : Nat} (hm : m ≠ 0) : magnitude m 1 = m.log2 := by
  have hlog : Nat.log2 1 = 0 := by decide
  have hle : scaleUp 1 m.log2 ≤ scaleUp m (-(m.log2 : Int)) := by
    have := Nat.log2_self_le hm
    simpa [scaleUp] using this
  rw [magnitude, hlog]
  simp only [Int.ofNat_zero, Int.sub_zero]
  rw [if_pos hle]

/-- The encoding of an integer, given the number of its binary digits. -/
theorem encodeQuotient_one {m : Nat} (hm : m ≠ 0) : encodeQuotient m 1 =
    (m.log2 + 1022) * hiddenBit +
      roundQuotient (m * 2 ^ (52 - m.log2)) (2 ^ (m.log2 - 52)) := by
  have hplace : lastPlace m.log2 = (m.log2 : Int) - 52 := by
    rw [lastPlace]
    omega
  have hup : (-((m.log2 : Int) - 52)).toNat = 52 - m.log2 := by omega
  have hdown : ((m.log2 : Int) - 52).toNat = m.log2 - 52 := by omega
  have hexp : ((m.log2 : Int) - 52 + 1074).toNat = m.log2 + 1022 := by omega
  rw [encodeQuotient, if_neg hm, magnitude_one hm, hplace]
  simp only [scaleUp, hup, hdown, hexp, Nat.pow_eq, Nat.one_mul]

theorem roundQuotient_one_le (m : Nat) :
    roundQuotient (m * 2 ^ (52 - m.log2)) (2 ^ (m.log2 - 52)) ≤ 2 ^ 53 := by
  have hm : m < 2 ^ (m.log2 + 1) := Nat.lt_log2_self
  have hexp : m.log2 + 1 + (52 - m.log2) = m.log2 - 52 + 53 := by omega
  refine roundQuotient_le ?_
  calc m * 2 ^ (52 - m.log2) < 2 ^ (m.log2 + 1) * 2 ^ (52 - m.log2) :=
        Nat.mul_lt_mul_of_pos_right hm (Nat.two_pow_pos _)
    _ = 2 ^ (m.log2 - 52) * 2 ^ 53 := by rw [← Nat.pow_add, hexp, Nat.pow_add]

theorem infinityBits_le_iff {m e : Nat} (he : e = 970) :
    infinityBits ≤ encodeQuotient m 1 ↔ (2 ^ 54 - 1) * 2 ^ e ≤ m := by
  have hpos : 0 < 2 ^ e := Nat.two_pow_pos e
  by_cases hm : m = 0
  · subst hm
    refine iff_of_false (by decide) ?_
    omega
  have hlow := Nat.log2_self_le hm
  have hhigh : m < 2 ^ (m.log2 + 1) := Nat.lt_log2_self
  have hround := roundQuotient_one_le m
  rw [encodeQuotient_one hm, infinityBits, hiddenBit]
  rcases Nat.lt_trichotomy m.log2 (e + 53) with hlog | hlog | hlog
  · have hle : 2 ^ (m.log2 + 1) ≤ 2 ^ (53 + e) := Nat.pow_le_pow_right (by decide) (by omega)
    rw [Nat.pow_add 2 53 e] at hle
    refine iff_of_false ?_ ?_ <;> omega
  · have hreach := le_roundQuotient_iff (n := m) (Nat.two_pow_pos (e + 1))
      (Nat.two_pow_pos 53) (by decide)
    rw [hlog, Nat.sub_eq_zero_of_le (by omega : 52 ≤ e + 53), Nat.pow_zero, Nat.mul_one,
      show e + 53 - 52 = e + 1 by omega]
    rw [Nat.pow_succ] at hreach
    omega
  · have hle : 2 ^ (54 + e) ≤ 2 ^ m.log2 := Nat.pow_le_pow_right (by decide) (by omega)
    have hsplit : 2 ^ m.log2 = 2 ^ 52 * 2 ^ (m.log2 - 52) := by
      rw [← Nat.pow_add]
      congr 1
      omega
    have hreach := le_roundQuotient_iff (n := m) (Nat.two_pow_pos (m.log2 - 52))
      (Nat.two_pow_pos 52) (by decide)
    rw [Nat.pow_add 2 54 e] at hle
    rw [Nat.sub_eq_zero_of_le (by omega : 52 ≤ m.log2), Nat.pow_zero, Nat.mul_one]
    refine iff_of_true ?_ ?_ <;> omega

/-- The integers too large for floating point are those that reach the middle between the largest
finite number and the next power of two. -/
theorem ofInt?_eq_none_iff {n : Int} : ofInt? n = none ↔ (2 ^ 54 - 1) * 2 ^ 970 ≤ n.natAbs := by
  rw [← infinityBits_le_iff rfl, ofInt?, ofQuotient?]
  split
  · next h => simpa using h
  · next h => simpa using h

end SchemaAtlas.Number
