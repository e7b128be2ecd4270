import SchemaAtlas.Text.Blank
import Mathlib.Data.List.DropRight
import Mathlib.Data.List.TakeWhile

/-! # Blanks around a text

Stripping does not depend on how many blanks stand around a text, and leaves a text alone that
neither begins nor ends with one.
-/
namespace SchemaAtlas.Text

theorem stripStart_of_allBlank {b : List Char} (hb : allBlank b = true) : stripStart b = [] :=
  List.dropWhile_eq_nil_iff.mpr (List.all_eq_true.mp hb)

theorem stripStart_blank_append {b : List Char} (hb : allBlank b = true) (s : List Char) :
    stripStart (b ++ s) = stripStart s := by
  have h : b.dropWhile isBlank = [] := stripStart_of_allBlank hb
  rw [stripStart, List.dropWhile_append, h]
  rfl

theorem stripStart_append_blank {b : List Char} (hb : allBlank b = true) (s : List Char) :
    stripStart (s ++ b) = if stripStart s = [] then [] else stripStart s ++ b := by
  have h : b.dropWhile isBlank = [] := stripStart_of_allBlank hb
  rw [stripStart, stripStart, List.dropWhile_append, h]
  simp [List.isEmpty_iff]

theorem stripEnd_append_blank {b : List Char} (hb : allBlank b = true) (s : List Char) :
    stripEnd (s ++ b) = stripEnd s := by
  have hr : allBlank b.reverse = true := by simpa [allBlank] using hb
  have h := stripStart_blank_append hr s.reverse
  rw [stripStart, stripStart] at h
  rw [stripEnd, List.reverse_append, h, stripEnd]

theorem strip_blank_append {b : List Char} (hb : allBlank b = true) (s : List Char) :
    strip (b ++ s) = strip s := by
  rw [strip, stripStart_blank_append hb, strip]

theorem strip_append_blank {b : List Char} (hb : allBlank b = true) (s : List Char) :
    strip (s ++ b) = strip s := by
  rw [strip, stripStart_append_blank hb, strip]
  split
  · next h => rw [h]
  · exact stripEnd_append_blank hb _

theorem strip_of_allBlank {b : List Char} (hb : allBlank b = true) : strip b = [] := by
  rw [strip, stripStart_of_allBlank hb]
  rfl

/-- A text that begins and ends with other characters is not stripped. -/
theorem strip_eq_self {c d : Char} {s u : List Char} (hs : s = c :: u) (hl : s.getLast? = some d)
    (hc : isBlank c = false) (hd : isBlank d = false) : strip s = s := by
  have hstart : stripStart s = s := by rw [hs, stripStart_of_not_blank hc]
  obtain ⟨w, hw⟩ := List.getLast?_eq_some_iff.mp hl
  rw [strip, hstart, stripEnd, hw]
  simp [hd]

theorem stripStart_stripStart (s : List Char) : stripStart (stripStart s) = stripStart s :=
  List.dropWhile_idempotent _ _

theorem stripEnd_stripEnd (s : List Char) : stripEnd (stripEnd s) = stripEnd s := by
  have h := stripStart_stripStart s.reverse
  rw [stripStart, stripStart] at h
  rw [stripEnd, stripEnd, List.reverse_reverse, h]

/-- Before the second word there is a first one. -/
theorem firstWord_fst_ne_nil {u : List Char} (hu : (firstWord u).2 ≠ []) :
    (firstWord u).1 ≠ [] := by
  cases h : stripStart u with
  | nil =>
    rw [firstWord, h] at hu
    exact absurd rfl hu
  | cons c w =>
    have hc := List.head?_dropWhile_not isBlank u
    rw [← stripStart, h, List.head?_cons] at hc
    simp only at hc
    simp [firstWord, h, hc]

/-! Blanks are stripped only up to a character that is none. -/

section Solid

variable {c : Char} (hc : isBlank c = false)
include hc

theorem stripStart_append_cons (u v : List Char) :
    stripStart (u ++ c :: v) = stripStart u ++ c :: v := by
  rw [stripStart, List.dropWhile_append, stripStart]
  split
  · next h =>
    rw [List.isEmpty_iff.mp h]
    exact stripStart_of_not_blank hc v
  · rfl

theorem stripEnd_append_cons (u v : List Char) :
    stripEnd (u ++ c :: v) = u ++ c :: stripEnd v := by
  have h := stripStart_append_cons hc v.reverse u.reverse
  rw [stripStart, stripStart] at h
  rw [stripEnd, List.reverse_append, List.reverse_cons, List.append_assoc, List.singleton_append, h]
  simp [stripEnd]

theorem strip_append_cons (u v : List Char) :
    strip (u ++ c :: v) = stripStart u ++ c :: stripEnd v := by
  rw [strip, stripStart_append_cons hc, stripEnd_append_cons hc]

theorem afterBlanks?_append_cons (u v : List Char) :
    afterBlanks? (u ++ c :: v) = (afterBlanks? u).map (· ++ c :: v) := by
  cases u with
  | nil => simp [afterBlanks?, hc]
  | cons d u =>
    rw [List.cons_append, afterBlanks?, afterBlanks?, stripStart_append_cons hc]
    split <;> rfl

/-- A text that has a second word is read up to the end of the first one only. -/
theorem firstWord_append_cons {u : List Char} (hu : (firstWord u).2 ≠ []) (v : List Char) :
    firstWord (u ++ c :: v) = ((firstWord u).1, (firstWord u).2 ++ c :: v) := by
  have hrest : (stripStart u).dropWhile (!isBlank ·) ≠ [] := by
    intro h
    apply hu
    rw [firstWord, h]
    rfl
  have hlen : ((stripStart u).takeWhile (!isBlank ·)).length ≠ (stripStart u).length := by
    intro h
    have hsum := congrArg List.length (List.takeWhile_append_dropWhile
      (p := (!isBlank ·)) (l := stripStart u))
    rw [List.length_append] at hsum
    exact hrest (List.length_eq_zero_iff.mp (by omega))
  rw [firstWord, stripStart_append_cons hc, List.takeWhile_append, if_neg hlen,
    List.dropWhile_append, if_neg (by simpa using hrest), stripStart_append_cons hc]
  rfl

end Solid

end SchemaAtlas.Text
