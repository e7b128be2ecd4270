import SchemaAtlas.Text.Blank
import SchemaAtlas.Text.Word

/-! # Names

A name is a text of word characters. None of them is a blank or a mark of any kind, so a name
keeps clear of everything that stands around it.
-/
namespace SchemaAtlas.Text

/-- A text of word characters that is not empty. -/
structure IsName (s : List Char) : Prop where
  ne_nil : s ≠ []
  word : ∀ c ∈ s, isWord c = true

instance (s : List Char) : Decidable (IsName s) :=
  decidable_of_iff (s ≠ [] ∧ s.all isWord = true)
    ⟨fun h => ⟨h.1, List.all_eq_true.mp h.2⟩, fun h => ⟨h.ne_nil, List.all_eq_true.mpr h.word⟩⟩

theorem IsName.notMem {s : List Char} (h : IsName s) {d : Char} (hd : isWord d = false) :
    d ∉ s := by
  intro hm
  rw [h.word d hm] at hd
  cases hd

theorem ne_of_isWord {c d : Char} (hc : isWord c = true) (hd : isWord d = false) : c ≠ d := by
  rintro rfl
  rw [hc] at hd
  cases hd

theorem isBlank_of_isWord {c : Char} (hc : isWord c = true) : isBlank c = false := by
  have hb : blanks.all (fun d => !isWord d) = true := by decide +kernel
  cases h : isBlank c with
  | false => rfl
  | true =>
    have hw := List.all_eq_true.mp hb c (List.contains_iff_mem.mp h)
    simp [hc] at hw

theorem isName_takeWhile {s name : List Char} (h : s.takeWhile isWord = name) (hn : name ≠ []) :
    IsName name := by
  refine ⟨hn, ?_⟩
  intro c hc
  rw [← h] at hc
  exact List.all_eq_true.mp List.all_takeWhile c hc

end SchemaAtlas.Text
