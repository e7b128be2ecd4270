import SchemaAtlas.Proofs.Text.Blank
import SchemaAtlas.Text.Keyword

/-! # Searching a text

A search answers what is read at the first place where anything is read. A character that no
pattern holds cuts a text in two that are searched one after the other.
-/
namespace SchemaAtlas.Text
variable {α : Type} {read : List Char → Option α}

theorem search_of_eq_some {s : List Char} {a : α} (h : read s = some a) :
    search read s = some a := by
  cases s with
  | nil => exact h
  | cons c s => rw [search, h]

/-- What is read at some place is found if nothing is read before it. -/
theorem search_append {s t : List Char} {a : α}
    (hnone : ∀ i < s.length, read ((s ++ t).drop i) = none) (h : read t = some a) :
    search read (s ++ t) = some a := by
  induction s with
  | nil => exact search_of_eq_some h
  | cons c s ih =>
    have hfirst : read (c :: (s ++ t)) = none := hnone 0 (Nat.succ_pos _)
    rw [List.cons_append, search, hfirst]
    exact ih fun i hi => hnone (i + 1) (Nat.succ_lt_succ hi)

theorem searchWord_cons (inWord : Bool) {c : Char} {s : List Char} (h : read (c :: s) = none) :
    searchWord read inWord (c :: s) = searchWord read (isWord c) s := by
  rw [searchWord, h]
  cases inWord <;> rfl

theorem searchWord_of_eq_some {c : Char} {s : List Char} {a : α} (h : read (c :: s) = some a) :
    searchWord read false (c :: s) = some a := by
  rw [searchWord, h]
  rfl

theorem search_cons_eq_none {c : Char} {s : List Char} :
    search read (c :: s) = none ↔ read (c :: s) = none ∧ search read s = none := by
  rw [search]
  cases read (c :: s) <;> simp

/-- Where a search cuts a text in two: what is read before does not depend on what comes after. -/
def IsCutAt (c : Char) (read : List Char → Option α) : Prop :=
  ∀ u v, (read (u ++ c :: v)).isSome = (read u).isSome

theorem keyword?_append_cons {c : Char} {kw : List Char} (hc : caseless c ∉ kw)
    (u v : List Char) : keyword? kw (u ++ c :: v) = (keyword? kw u).map (· ++ c :: v) := by
  induction kw generalizing u with
  | nil => rfl
  | cons k kw ih =>
    obtain ⟨hne, hmem⟩ := not_or.mp (List.mem_cons.not.mp hc)
    cases u with
    | nil =>
      rw [List.nil_append, keyword?, keyword?, if_neg hne]
      rfl
    | cons d u =>
      rw [List.cons_append, keyword?, keyword?]
      split
      · exact ih hmem u
      · rfl

/-- A phrase is read as if the text ended before a character that is no blank and stands in none
of the words. -/
theorem phrase?_append_cons {c : Char} (hblank : isBlank c = false) {kws : List (List Char)}
    (hc : ∀ kw ∈ kws, caseless c ∉ kw) (u v : List Char) :
    phrase? kws (u ++ c :: v) = (phrase? kws u).map (· ++ c :: v) := by
  induction kws generalizing u with
  | nil => rfl
  | cons kw kws ih =>
    obtain ⟨hkw, hkws⟩ := List.forall_mem_cons.mp hc
    have hword := keyword?_append_cons hkw u v
    cases kws with
    | nil => exact hword
    | cons kw' kws =>
      change (keyword? kw _).bind (fun s => (afterBlanks? s).bind (phrase? (kw' :: kws))) =
        ((keyword? kw u).bind fun s => (afterBlanks? s).bind (phrase? (kw' :: kws))).map _
      rw [hword]
      cases keyword? kw u with
      | none => rfl
      | some w =>
        change (afterBlanks? (w ++ c :: v)).bind _ = ((afterBlanks? w).bind _).map _
        rw [afterBlanks?_append_cons hblank]
        cases afterBlanks? w with
        | none => rfl
        | some x => exact ih hkws x

theorem search_append_cons {c : Char} (hr : IsCutAt c read) (u v : List Char) :
    (search read (u ++ c :: v)).isSome = ((search read u).isSome || (search read v).isSome) := by
  induction u with
  | nil =>
    have h := hr [] v
    rw [List.nil_append] at h ⊢
    rw [search, search, ← h]
    cases read (c :: v) <;> simp
  | cons d u ih =>
    have h := hr (d :: u) v
    rw [List.cons_append] at h ⊢
    rw [search, search]
    cases hu : read (d :: u) <;> cases hw : read (d :: (u ++ c :: v)) <;> simp_all

theorem searchWord_append_cons {c : Char} (hword : isWord c = false) (hnil : read [] = none)
    (hr : IsCutAt c read) (inWord : Bool) (u v : List Char) :
    (searchWord read inWord (u ++ c :: v)).isSome =
      ((searchWord read inWord u).isSome || (searchWord read false v).isSome) := by
  induction u generalizing inWord with
  | nil =>
    have hnone : read (c :: v) = none := by
      have h := hr [] v
      rw [hnil] at h
      simpa using h
    rw [List.nil_append, searchWord_cons _ hnone, hword]
    rfl
  | cons d u ih =>
    have h := hr (d :: u) v
    rw [List.cons_append] at h ⊢
    cases hu : read (d :: u) with
    | none =>
      have hw : read (d :: (u ++ c :: v)) = none := by simpa [hu] using h
      rw [searchWord_cons _ hu, searchWord_cons _ hw]
      exact ih (isWord d)
    | some a =>
      obtain ⟨b, hw⟩ := Option.isSome_iff_exists.mp (h.trans (by rw [hu]; rfl))
      cases inWord with
      | true =>
        rw [searchWord, searchWord]
        exact ih (isWord d)
      | false =>
        rw [searchWord_of_eq_some hu, searchWord_of_eq_some hw]
        rfl

end SchemaAtlas.Text
