import SchemaAtlas.Layout.Quantity
import SchemaAtlas.Proofs.Endings
import SchemaAtlas.Proofs.Number.Range

/-! # Amounts that can be computed with

Integers stay exact until they are halved or joined to floating point, which works unless they are
huge; floating point never fails.
-/
namespace SchemaAtlas.Value

def IsFloat (v : Value) : Prop :=
  ∃ x, v = .float x

/-- An integer of at most some size. -/
def IsWhole (size : Nat) (v : Value) : Prop :=
  ∃ n : Int, v = .int n ∧ n.natAbs ≤ size

theorem isFloat_float (x : Float) : (Value.float x).IsFloat :=
  ⟨x, rfl⟩

theorem isWhole_int {n : Int} {size : Nat} (h : n.natAbs ≤ size) : (Value.int n).IsWhole size :=
  ⟨n, rfl, h⟩

variable {a b : Value} {m n : Nat} {fault : Fault → Prop}

theorem IsWhole.mono (h : a.IsWhole m) (hle : m ≤ n) : a.IsWhole n := by
  obtain ⟨k, rfl, hk⟩ := h
  exact isWhole_int (Nat.le_trans hk hle)

theorem IsFloat.add (ha : a.IsFloat) (hb : b.IsFloat) : Ends (a.add b) fault IsFloat := by
  obtain ⟨x, rfl⟩ := ha
  obtain ⟨y, rfl⟩ := hb
  exact isFloat_float (x + y)

theorem IsFloat.add_whole (ha : a.IsFloat) (hb : b.IsWhole n) (hn : n < 2 ^ 200) :
    Ends (a.add b) fault IsFloat := by
  obtain ⟨x, rfl⟩ := ha
  obtain ⟨k, rfl, hk⟩ := hb
  obtain ⟨y, hy⟩ := Number.exists_ofInt? (Nat.lt_of_le_of_lt hk hn)
  have hadd : (Value.float x).add (.int k) = .ok (.float (x + y)) := by
    simp only [Value.add, number?, Numeric.combine, Numeric.toFloat, hy]
    rfl
  rw [hadd]
  exact isFloat_float (x + y)

theorem IsWhole.add (ha : a.IsWhole m) (hb : b.IsWhole n) :
    Ends (a.add b) fault (IsWhole (m + n)) := by
  obtain ⟨k, rfl, hk⟩ := ha
  obtain ⟨l, rfl, hl⟩ := hb
  exact isWhole_int (by omega : (k + l).natAbs ≤ m + n)

theorem IsFloat.sub (ha : a.IsFloat) (hb : b.IsFloat) : Ends (a.sub b) fault IsFloat := by
  obtain ⟨x, rfl⟩ := ha
  obtain ⟨y, rfl⟩ := hb
  exact isFloat_float (x - y)

theorem IsFloat.neg (h : a.IsFloat) : Ends a.neg fault IsFloat := by
  obtain ⟨x, rfl⟩ := h
  exact isFloat_float (-x)

theorem IsWhole.neg (h : a.IsWhole n) : Ends a.neg fault (IsWhole n) := by
  obtain ⟨k, rfl, hk⟩ := h
  exact isWhole_int (by omega : (-k).natAbs ≤ n)

theorem IsWhole.mulInt (h : a.IsWhole m) {k : Int} (hk : k.natAbs ≤ n) :
    Ends (a.mulInt k) fault (IsWhole (m * n)) := by
  obtain ⟨l, rfl, hl⟩ := h
  have hle : (l * k).natAbs ≤ m * n := by
    rw [Int.natAbs_mul]
    exact Nat.mul_le_mul hl hk
  exact isWhole_int hle

theorem IsWhole.half (h : a.IsWhole n) (hn : n < 2 ^ 200) : Ends a.half fault IsFloat := by
  obtain ⟨k, rfl, hk⟩ := h
  obtain ⟨x, hx⟩ := Number.exists_ofQuotient? (k < 0) (Nat.lt_of_le_of_lt hk hn) (by decide : 2 ≠ 0)
  have hhalf : (Value.int k).half = .ok (.float x) := by
    simp only [Value.half, number?, hx]
  rw [hhalf]
  exact isFloat_float x

theorem IsFloat.less (ha : a.IsFloat) (hb : b.IsFloat) : Ends (a.less b) fault fun _ => True := by
  obtain ⟨x, rfl⟩ := ha
  obtain ⟨y, rfl⟩ := hb
  exact trivial

theorem IsWhole.less (ha : a.IsWhole m) (hb : b.IsWhole n) :
    Ends (a.less b) fault fun _ => True := by
  obtain ⟨k, rfl, _⟩ := ha
  obtain ⟨l, rfl, _⟩ := hb
  exact trivial

/-! Numbers that can be added. -/

/-- An integer too large for floating point and a floating point number, in either order. -/
def Numeric.Clashes : Numeric → Numeric → Prop
  | .int n, .float _ | .float _, .int n => (2 ^ 54 - 1) * 2 ^ 970 ≤ n.natAbs
  | _, _ => False

/-- Numbers that cannot be added. -/
def Clashes (a b : Value) : Prop :=
  ∃ m n, a.number? = some m ∧ b.number? = some n ∧ m.Clashes n

theorem Numeric.toFloat_int_eq_error {n : Int} (h : (2 ^ 54 - 1) * 2 ^ 970 ≤ n.natAbs) :
    (Numeric.int n).toFloat = .error .overflow := by
  rw [toFloat, Number.ofInt?_eq_none_iff.mpr h]

theorem Numeric.exists_toFloat_int {n : Int} (h : ¬ (2 ^ 54 - 1) * 2 ^ 970 ≤ n.natAbs) :
    ∃ x, (Numeric.int n).toFloat = .ok x := by
  obtain ⟨x, hx⟩ := Option.ne_none_iff_exists'.mp (Number.ofInt?_eq_none_iff.not.mpr h)
  exact ⟨x, by rw [toFloat, hx]⟩

section Combine
variable (onInts : Int → Int → Int) (onFloats : Float → Float → Float) {m n : Numeric}

theorem Numeric.combine_int_float (k : Int) (y : Float) :
    (int k).combine onInts onFloats (float y) =
      ((int k).toFloat >>= fun x => .ok (.float (onFloats x y))) := rfl

theorem Numeric.combine_float_int (x : Float) (k : Int) :
    (float x).combine onInts onFloats (int k) =
      ((int k).toFloat >>= fun y => .ok (.float (onFloats x y))) := rfl

theorem Numeric.combine_eq_error (h : m.Clashes n) :
    m.combine onInts onFloats n = .error .overflow := by
  cases m with
  | int k =>
    cases n with
    | int _ => exact h.elim
    | float y => rw [combine_int_float, toFloat_int_eq_error h]; rfl
  | float x =>
    cases n with
    | int k => rw [combine_float_int, toFloat_int_eq_error h]; rfl
    | float _ => exact h.elim

theorem Numeric.exists_combine (h : ¬ m.Clashes n) :
    ∃ v, m.combine onInts onFloats n = .ok v := by
  cases m with
  | int k =>
    cases n with
    | int l => exact ⟨_, rfl⟩
    | float y =>
      obtain ⟨x, hx⟩ := exists_toFloat_int h
      exact ⟨_, by rw [combine_int_float, hx]; rfl⟩
  | float x =>
    cases n with
    | int k =>
      obtain ⟨y, hy⟩ := exists_toFloat_int h
      exact ⟨_, by rw [combine_float_int, hy]; rfl⟩
    | float y => exact ⟨.float (onFloats x y), rfl⟩

end Combine

theorem add_eq_error (h : a.Clashes b) : a.add b = .error .overflow := by
  obtain ⟨m, n, hm, hn, hclash⟩ := h
  unfold add
  rw [hm, hn]
  exact Numeric.combine_eq_error _ _ hclash

theorem exists_add (ha : a.number?.isSome) (hb : b.number?.isSome) (h : ¬ a.Clashes b) :
    ∃ c, a.add b = .ok c := by
  obtain ⟨m, hm⟩ := Option.isSome_iff_exists.mp ha
  obtain ⟨n, hn⟩ := Option.isSome_iff_exists.mp hb
  unfold add
  rw [hm, hn]
  exact Numeric.exists_combine _ _ fun hclash => h ⟨m, n, hm, hn, hclash⟩

end SchemaAtlas.Value

namespace SchemaAtlas.Layout.Quantity

variable {v : Value} {vs : List Value} {n : Nat} {fault : Fault → Prop}

theorem ends_sumInts (k : Int) (h : ∀ w ∈ vs, w.IsWhole n) :
    Ends (Value.sumInts k vs) fault (Value.IsWhole (k.natAbs + vs.length * n)) := by
  induction vs generalizing k with
  | nil => exact Value.isWhole_int (Nat.le_add_right _ _)
  | cons w vs ih =>
    obtain ⟨l, rfl, hl⟩ := h w List.mem_cons_self
    refine (ih (k + l) fun w hw => h w (List.mem_cons_of_mem _ hw)).mono fun t ht => ht.mono ?_
    rw [List.length_cons, Nat.add_mul, Nat.one_mul]
    omega

theorem ends_sum (h : ∀ w ∈ vs, w.IsWhole n) :
    Ends (sum vs) fault (Value.IsWhole (vs.length * n)) := by
  have hsum : Ends (Value.sumInts 0 vs) fault _ := ends_sumInts 0 h
  rwa [Int.natAbs_zero, Nat.zero_add] at hsum

theorem ends_largest (hv : v.IsWhole n) (hvs : ∀ w ∈ vs, w.IsWhole n) :
    Ends (largest v vs) fault (Value.IsWhole n) := by
  refine Ends.foldlM hv fun m hm w hw => ?_
  refine (hm.less (hvs w hw)).bind fun below _ => ?_
  cases below
  · exact hm
  · exact hvs w hw

theorem ends_smallest (hv : v.IsFloat) (hvs : ∀ w ∈ vs, w.IsFloat) :
    Ends (smallest v vs) fault Value.IsFloat := by
  refine Ends.foldlM hv fun m hm w hw => ?_
  refine ((hvs w hw).less hm).bind fun below _ => ?_
  cases below
  · exact hm
  · exact hvs w hw

end SchemaAtlas.Layout.Quantity
