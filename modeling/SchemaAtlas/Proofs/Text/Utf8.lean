import SchemaAtlas.Proofs.Faults
import SchemaAtlas.Text.Utf8
import Mathlib.Data.List.Basic

/-! # Texts written as UTF-8

Whatever is written as UTF-8 is read back. Line ends are only touched where there are carriage
returns.
-/
namespace SchemaAtlas.Text

/-- The bytes of a text. -/
def utf8Bytes (s : String) : List UInt8 :=
  s.toUTF8.data.toList

theorem utf8Bytes_eq (s : String) : utf8Bytes s = s.toList.flatMap String.utf8EncodeChar := by
  rw [utf8Bytes, String.toUTF8, ← String.utf8Encode_toList, List.utf8Encode,
    List.toList_data_toByteArray]

section Lead

variable {b : Nat}

theorem lead?_one (h : b < 0x80) : lead? b = some ⟨0, 0x80, 0xbf, b⟩ :=
  if_pos h

theorem lead?_two (hlow : 0xc2 ≤ b) (hhigh : b < 0xe0) :
    lead? b = some ⟨1, 0x80, 0xbf, b - 0xc0⟩ := by
  rw [lead?, if_neg (by omega), if_neg (by omega), if_pos hhigh]

theorem lead?_three (hlow : 0xe0 ≤ b) (hhigh : b < 0xf0) :
    lead? b = some ⟨2, if b = 0xe0 then 0xa0 else 0x80, if b = 0xed then 0x9f else 0xbf,
      b - 0xe0⟩ := by
  rw [lead?, if_neg (by omega), if_neg (by omega), if_neg (by omega)]
  by_cases h0 : b = 0xe0
  · simp [h0]
  by_cases hd : b = 0xed
  · simp [hd]
  · simp [h0, hd, hhigh]

theorem lead?_four (hlow : 0xf0 ≤ b) (hhigh : b ≤ 0xf4) :
    lead? b = some ⟨3, if b = 0xf0 then 0x90 else 0x80, if b = 0xf4 then 0x8f else 0xbf,
      b - 0xf0⟩ := by
  rw [lead?, if_neg (by omega), if_neg (by omega), if_neg (by omega), if_neg (by omega),
    if_neg (by omega), if_neg (by omega)]
  by_cases h0 : b = 0xf0
  · simp [h0]
  by_cases h4 : b = 0xf4
  · simp [h4]
  · rw [if_neg h0, if_pos (by omega), if_neg h0, if_neg h4]

end Lead

/-! Bytes are numbered with what is left of a character. -/

section Bytes

variable {n : Nat} (h : n < 256) {rest : List UInt8} {s : List Char} {i : Nat}
include h

theorem toNat_ofNat_byte : (UInt8.ofNat n).toNat = n := by
  rw [UInt8.toNat_ofNat']
  exact Nat.mod_eq_of_lt h

theorem decodeFrom_single (hlead : n < 0x80) (hrest : decodeFrom (i + 1) none rest = .ok s) :
    decodeFrom i none (UInt8.ofNat n :: rest) = .ok (Char.ofNat n :: s) := by
  rw [decodeFrom, toNat_ofNat_byte h, lead?_one hlead, hrest]
  rfl

variable {following due low high bits start first : Nat}

theorem decodeFrom_lead (hlead : lead? n = some ⟨following + 1, low, high, bits⟩) :
    decodeFrom i none (UInt8.ofNat n :: rest) =
      decodeFrom (i + 1) (some ⟨following + 1, low, high, bits, i, n⟩) rest := by
  rw [decodeFrom, toNat_ofNat_byte h, hlead]
  rfl

theorem decodeFrom_next (hlow : low ≤ n) (hhigh : n ≤ high) :
    decodeFrom i (some ⟨due + 2, low, high, bits, start, first⟩) (UInt8.ofNat n :: rest) =
      decodeFrom (i + 1) (some ⟨due + 1, 0x80, 0xbf, bits * 64 + (n - 0x80), start, first⟩)
        rest := by
  rw [decodeFrom, toNat_ofNat_byte h]
  dsimp only
  rw [if_pos ⟨hlow, hhigh⟩, if_neg (by omega)]
  rfl

theorem decodeFrom_last (hlow : low ≤ n) (hhigh : n ≤ high)
    (hrest : decodeFrom (i + 1) none rest = .ok s) :
    decodeFrom i (some ⟨1, low, high, bits, start, first⟩) (UInt8.ofNat n :: rest) =
      .ok (Char.ofNat (bits * 64 + (n - 0x80)) :: s) := by
  rw [decodeFrom, toNat_ofNat_byte h]
  dsimp only
  rw [if_pos ⟨hlow, hhigh⟩, if_pos rfl, hrest]
  rfl

end Bytes

theorem ofNat_eq (c : Char) {n : Nat} (h : n = c.toNat) : Char.ofNat n = c := by
  rw [h, Char.ofNat_toNat]

/-- A character whose bytes come first is read first. -/
theorem decodeFrom_encodeChar (c : Char) {rest : List UInt8} {s : List Char} {i : Nat}
    (hrest : ∀ j, decodeFrom j none rest = .ok s) :
    decodeFrom i none (String.utf8EncodeChar c ++ rest) = .ok (c :: s) := by
  have hvalid : c.toNat < 0xd800 ∨ 0xdfff < c.toNat ∧ c.toNat < 0x110000 := c.valid
  have hval : c.val.toNat = c.toNat := rfl
  unfold String.utf8EncodeChar
  simp only [hval]
  by_cases h1 : c.toNat ≤ 0x7f
  · rw [if_pos h1, List.singleton_append, decodeFrom_single (by omega) (by omega) (hrest _),
      ofNat_eq c rfl]
  by_cases h2 : c.toNat ≤ 0x7ff
  · rw [if_neg h1, if_pos h2, List.cons_append, List.singleton_append,
      decodeFrom_lead (by omega) (lead?_two (by omega) (by omega)),
      decodeFrom_last (by omega) (by omega) (by omega) (hrest _), ofNat_eq c (by omega)]
  by_cases h3 : c.toNat ≤ 0xffff
  · rw [if_neg h1, if_neg h2, if_pos h3, List.cons_append, List.cons_append, List.singleton_append,
      decodeFrom_lead (by omega) (lead?_three (by omega) (by omega)),
      decodeFrom_next (by omega) (by split <;> omega) (by split <;> omega),
      decodeFrom_last (by omega) (by omega) (by omega) (hrest _), ofNat_eq c (by omega)]
  · rw [if_neg h1, if_neg h2, if_neg h3, List.cons_append, List.cons_append, List.cons_append,
      List.singleton_append, decodeFrom_lead (by omega) (lead?_four (by omega) (by omega)),
      decodeFrom_next (by omega) (by split <;> omega) (by split <;> omega),
      decodeFrom_next (by omega) (by omega) (by omega),
      decodeFrom_last (by omega) (by omega) (by omega) (hrest _), ofNat_eq c (by omega)]

theorem decodeFrom_encode (s : List Char) (i : Nat) :
    decodeFrom i none (s.flatMap String.utf8EncodeChar) = .ok s := by
  induction s generalizing i with
  | nil => rfl
  | cons c s ih => exact decodeFrom_encodeChar c ih

/-- A text is read back from its bytes. -/
theorem decodeUtf8_utf8Bytes (s : String) : decodeUtf8 (utf8Bytes s) = .ok s.toList := by
  rw [decodeUtf8, utf8Bytes_eq, decodeFrom_encode]

theorem unifyLineEnds_eq_self {s : List Char} (h : '\r' ∉ s) : unifyLineEnds s = s := by
  fun_induction unifyLineEnds s with
  | case1 => simp at h
  | case2 => simp at h
  | case3 c rest _ _ ih => rw [ih fun hr => h (List.mem_cons_of_mem _ hr)]
  | case4 => rfl

end SchemaAtlas.Text
