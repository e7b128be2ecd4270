/-! # Pieces of a text

A text cut at every occurrence of a character. There is always one piece more than cuts, so
joining the pieces again gives the text.
-/
namespace SchemaAtlas.Text

def pieces (d : Char) : List Char → List (List Char)
  | [] => [[]]
  | c :: rest =>
    if c = d then [] :: pieces d rest
    else match pieces d rest with
      | [] => [[c]]
      | p :: more => (c :: p) :: more

theorem pieces_ne_nil (d : Char) (s : List Char) : pieces d s ≠ [] := by
  cases s with
  | nil => simp [pieces]
  | cons c rest =>
    rw [pieces]
    split
    · simp
    · split <;> simp

theorem intercalate_pieces (d : Char) (s : List Char) :
    [d].intercalate (pieces d s) = s := by
  induction s with
  | nil => rfl
  | cons c rest ih =>
    obtain ⟨p, more, h⟩ := List.exists_cons_of_ne_nil (pieces_ne_nil d rest)
    rw [h] at ih
    rw [pieces, h]
    by_cases hc : c = d
    · simp only [hc, ↓reduceIte]
      rw [← ih]
      simp [List.intercalate]
    · simp only [hc, ↓reduceIte]
      rw [← ih]
      cases more <;> simp [List.intercalate]

end SchemaAtlas.Text
