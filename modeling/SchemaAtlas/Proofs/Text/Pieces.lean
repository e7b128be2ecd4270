import SchemaAtlas.Proofs.Text.Blank
import SchemaAtlas.Text.Pieces

/-! # Pieces put together and cut again

A text without a delimiter is what stands before the first one in a text that goes on with it.
Texts without commas that are put together with a comma and a blank between each two are the
pieces of the result, up to the blanks around them.
-/
namespace SchemaAtlas.Text

section Delimiter
variable {d : Char} {u : List Char} (hu : d ∉ u)
include hu

theorem takeWhile_ne_append (v : List Char) : (u ++ d :: v).takeWhile (· ≠ d) = u := by
  have hkeep : ∀ c ∈ u, decide (c ≠ d) = true := fun c hc =>
    decide_eq_true (ne_of_mem_of_not_mem hc hu)
  rw [List.takeWhile_append_of_pos hkeep, List.takeWhile_cons_of_neg (by simp), List.append_nil]

theorem dropWhile_ne_append (v : List Char) : (u ++ d :: v).dropWhile (· ≠ d) = d :: v := by
  have hpass : ∀ c ∈ u, decide (c ≠ d) = true := fun c hc =>
    decide_eq_true (ne_of_mem_of_not_mem hc hu)
  rw [List.dropWhile_append_of_pos hpass, List.dropWhile_cons_of_neg (by simp)]

theorem dropWhile_ne_eq_nil : u.dropWhile (· ≠ d) = [] :=
  List.dropWhile_eq_nil_iff.mpr fun _ hc => decide_eq_true (ne_of_mem_of_not_mem hc hu)

end Delimiter

theorem pieces_of_notMem {d : Char} {s : List Char} (h : d ∉ s) : pieces d s = [s] := by
  induction s with
  | nil => rfl
  | cons c s ih =>
    simp only [List.mem_cons, not_or] at h
    rw [pieces, if_neg (Ne.symm h.1), ih h.2]

theorem pieces_append_cons {d : Char} {s : List Char} (h : d ∉ s) (t : List Char) :
    pieces d (s ++ d :: t) = s :: pieces d t := by
  induction s with
  | nil => rw [List.nil_append, pieces, if_pos rfl]
  | cons c s ih =>
    simp only [List.mem_cons, not_or] at h
    rw [List.cons_append, pieces, if_neg (Ne.symm h.1), ih h.2]

theorem map_strip_pieces_cons {c d : Char} (hc : isBlank c = true) (hd : c ≠ d) (s : List Char) :
    (pieces d (c :: s)).map strip = (pieces d s).map strip := by
  obtain ⟨p, more, h⟩ := List.exists_cons_of_ne_nil (pieces_ne_nil d s)
  rw [pieces, if_neg hd, h]
  have hp : strip ([c] ++ p) = strip p := strip_blank_append (by simp [allBlank, hc]) p
  exact congrArg (· :: more.map strip) hp

theorem map_strip_pieces_intercalate {b d : Char} (hb : isBlank b = true) (hd : b ≠ d)
    {us : List (List Char)} (hne : us ≠ []) (h : ∀ u ∈ us, d ∉ u) :
    (pieces d ([d, b].intercalate us)).map strip = us.map strip := by
  induction us with
  | nil => exact absurd rfl hne
  | cons u us ih =>
    have hu := h u List.mem_cons_self
    cases us with
    | nil => rw [List.intercalate_singleton, pieces_of_notMem hu]
    | cons v us =>
      have hrest := ih (List.cons_ne_nil v us) fun w hw => h w (List.mem_cons_of_mem _ hw)
      rw [List.intercalate_cons_cons, List.append_assoc, List.cons_append, pieces_append_cons hu,
        List.map_cons, List.cons_append, List.nil_append, map_strip_pieces_cons hb hd, hrest]
      rfl

end SchemaAtlas.Text
