import SchemaAtlas.Proofs.Schema.Inference

/-! # Reading ids back

Ids are joined with hyphens. The name of a column may hold hyphens of its own, but labels do
not, nor do the names by which columns refer to tables; so an id of a relationship still tells
what it was made of. Where labels hold hyphens too, the id of a column can be cut in several places.
-/
namespace SchemaAtlas.Schema

/-- A text is known up to its first separator. -/
theorem eq_of_append_separator {α : Type} {d : α} {a a' u u' : List α} (ha : d ∉ a) (ha' : d ∉ a')
    (h : a ++ d :: u = a' ++ d :: u') : a = a' ∧ u = u' := by
  induction a generalizing a' with
  | nil =>
    cases a' with
    | nil => simpa using h
    | cons x a' =>
      obtain ⟨rfl, _⟩ := List.cons.inj h
      simp at ha'
  | cons x a ih =>
    cases a' with
    | nil =>
      obtain ⟨rfl, _⟩ := List.cons.inj h
      simp at ha
    | cons y a' =>
      obtain ⟨rfl, hrest⟩ := List.cons.inj h
      obtain ⟨rfl, hu⟩ := ih (fun hm => ha (List.mem_cons_of_mem _ hm))
        (fun hm => ha' (List.mem_cons_of_mem _ hm)) hrest
      exact ⟨rfl, hu⟩

/-- A text is known from its last separator on. -/
theorem eq_of_separator_append {α : Type} {d : α} {a a' u u' : List α} (ha : d ∉ a) (ha' : d ∉ a')
    (h : u ++ d :: a = u' ++ d :: a') : u = u' ∧ a = a' := by
  have hr := congrArg List.reverse h
  simp only [List.reverse_append, List.reverse_cons, List.append_assoc, List.singleton_append] at hr
  obtain ⟨h1, h2⟩ := eq_of_append_separator (by simpa using ha) (by simpa using ha') hr
  exact ⟨List.reverse_injective h2, List.reverse_injective h1⟩

/-- A text without hyphens. -/
def IsUnhyphenated (s : String) : Prop :=
  '-' ∉ s.toList

theorem isUnhyphenated_toString (n : Nat) : IsUnhyphenated (toString n) := by
  intro h
  rw [Nat.toString_eq_ofList_toDigits, String.toList_ofList] at h
  have := Nat.isDigit_of_mem_toDigits (by decide) (by decide) h
  revert this
  decide

theorem IsUnhyphenated.append {s t : String} (hs : IsUnhyphenated s) (ht : IsUnhyphenated t) :
    IsUnhyphenated (s ++ t) := by
  rw [IsUnhyphenated, String.toList_append, List.mem_append]
  exact not_or.mpr ⟨hs, ht⟩

instance (s : String) : Decidable (IsUnhyphenated s) :=
  inferInstanceAs (Decidable (¬ _))

theorem toString_nat_injective {m n : Nat} (h : toString m = toString n) : m = n := by
  rw [Nat.toString_eq_ofList_toDigits, Nat.toString_eq_ofList_toDigits] at h
  have hd := congrArg String.toList h
  rw [String.toList_ofList, String.toList_ofList] at hd
  rw [← Nat.ofDigitChars_ten_toDigits (n := m), hd, Nat.ofDigitChars_ten_toDigits]

theorem IsUnhyphenated.referringNames {label name : String} (h : IsUnhyphenated label)
    (hn : name ∈ referringNames label) : IsUnhyphenated name := by
  have hs : IsUnhyphenated (singular label) := by
    intro hm
    unfold singular at hm
    split at hm
    · rw [String.toList_ofList] at hm
      exact h ((List.dropLast_sublist _).subset hm)
    · exact h hm
  have hid : IsUnhyphenated "_id" := by decide
  simp only [Schema.referringNames, List.mem_cons, List.not_mem_nil, or_false] at hn
  rcases hn with rfl | rfl
  · exact h.append hid
  · exact hs.append hid

/-! Ids of columns. -/

theorem toList_columnId (l n : String) : (columnId l n).toList = l.toList ++ '-' :: n.toList := by
  simp [columnId]

theorem columnId_right_injective (label : String) : Function.Injective (columnId label) := by
  intro n n' h
  have hlist := congrArg String.toList h
  rw [toList_columnId, toList_columnId] at hlist
  exact String.toList_inj.mp (List.cons.inj (List.append_cancel_left hlist)).2

/-- Two columns whose ids are one text: the second label goes on with what the first name begins
with. -/
def IsRecut (l n l' n' : String) : Prop :=
  ∃ p, l' = columnId l p ∧ n = columnId p n'

theorem columnId_columnId (l p n : String) :
    columnId (columnId l p) n = columnId l (columnId p n) := by
  simp [← String.toList_inj, toList_columnId]

/-- Where one label begins with another one, it ends there or goes on with a hyphen. -/
theorem eq_or_isRecut {l n l' n' : String} {rest : List Char} (hl : l'.toList = l.toList ++ rest)
    (hn : '-' :: n.toList = rest ++ '-' :: n'.toList) : (l = l' ∧ n = n') ∨ IsRecut l n l' n' := by
  cases rest with
  | nil =>
    rw [List.append_nil] at hl
    exact .inl ⟨(String.toList_inj.mp hl).symm, String.toList_inj.mp (List.cons.inj hn).2⟩
  | cons c p =>
    obtain ⟨rfl, hrest⟩ := List.cons.inj hn
    refine .inr ⟨String.ofList p, String.toList_inj.mp ?_, String.toList_inj.mp ?_⟩
    · rw [toList_columnId, String.toList_ofList, hl]
    · rw [toList_columnId, String.toList_ofList]
      exact hrest

/-- The same id is made of the same parts or cut in another place. -/
theorem columnId_eq_iff {l n l' n' : String} : columnId l n = columnId l' n' ↔
    (l = l' ∧ n = n') ∨ IsRecut l n l' n' ∨ IsRecut l' n' l n := by
  constructor
  · intro h
    have hlist := congrArg String.toList h
    rw [toList_columnId, toList_columnId] at hlist
    rcases List.append_eq_append_iff.mp hlist with ⟨rest, hl, hn⟩ | ⟨rest, hl, hn⟩
    · exact (eq_or_isRecut hl hn).imp_right .inl
    · rcases eq_or_isRecut hl hn with ⟨rfl, rfl⟩ | hrecut
      · exact .inl ⟨rfl, rfl⟩
      · exact .inr (.inr hrecut)
  · rintro (⟨rfl, rfl⟩ | ⟨p, rfl, rfl⟩ | ⟨p, rfl, rfl⟩)
    · rfl
    · exact (columnId_columnId _ _ _).symm
    · exact columnId_columnId _ _ _

theorem not_isUnhyphenated_columnId (l n : String) : ¬ IsUnhyphenated (columnId l n) := by
  rw [IsUnhyphenated, toList_columnId]
  simp

/-- The id of an inferred relationship tells both columns. -/
theorem linkId_injective {a a' b b' m m' n n' : String} (ha : IsUnhyphenated a)
    (ha' : IsUnhyphenated a') (hb : IsUnhyphenated b) (hb' : IsUnhyphenated b')
    (hm : IsUnhyphenated m) (hm' : IsUnhyphenated m')
    (h : "auto-e-" ++ columnId a n ++ "-" ++ columnId b m =
      "auto-e-" ++ columnId a' n' ++ "-" ++ columnId b' m') :
    a = a' ∧ n = n' ∧ b = b' ∧ m = m' := by
  have hl : a.toList ++ '-' :: (n.toList ++ '-' :: (b.toList ++ '-' :: m.toList)) =
      a'.toList ++ '-' :: (n'.toList ++ '-' :: (b'.toList ++ '-' :: m'.toList)) := by
    have := congrArg String.toList h
    simpa [columnId] using this
  -- The first label is read from the left. The rest is read from the right, where the name
  -- that refers and the second label come, so hyphens are allowed only in the first name.
  obtain ⟨h1, hl⟩ := eq_of_append_separator ha ha' hl
  rw [← List.cons_append, ← List.append_assoc, ← List.cons_append, ← List.append_assoc] at hl
  obtain ⟨hl, h4⟩ := eq_of_separator_append hm hm' hl
  obtain ⟨h2, h3⟩ := eq_of_separator_append hb hb' hl
  exact ⟨String.toList_inj.mp h1, String.toList_inj.mp h2, String.toList_inj.mp h3,
    String.toList_inj.mp h4⟩

end SchemaAtlas.Schema
