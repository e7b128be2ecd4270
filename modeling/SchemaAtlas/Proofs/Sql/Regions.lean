import SchemaAtlas.Sql.Comments

/-! # Comments across the joint of two texts

Where a text is cut in two, removing comments from the whole is removing them from the first
part and then, in the region that it ends in, from the second. Only a comment mark may not be
cut in half.
-/
namespace SchemaAtlas.Sql

/-- The region that a text ends in. -/
def regionAfter : Region → List Char → Region
  | r, [] => r
  | .literal q escaped, c :: rest => regionAfter (.afterLiteral q escaped c) rest
  | .blockComment star, c :: rest =>
    regionAfter (if star && c = '/' then .code else .blockComment (c = '*')) rest
  | .lineComment, c :: rest => regionAfter (if c = '\n' then .code else .lineComment) rest
  | .code, '/' :: '*' :: rest => regionAfter (.blockComment false) rest
  | .code, '-' :: '-' :: rest => regionAfter .lineComment rest
  | .code, c :: rest => regionAfter (if c = '#' then .lineComment else .afterCode c) rest

/-- Whether a character and the text after it begin with a comment mark of two characters. -/
def startsMark (c : Char) (rest : List Char) : Bool :=
  c = '/' && rest.head? = some '*' || c = '-' && rest.head? = some '-'

/-- Whether a text does not complete a comment mark begun before it. -/
def completesNoMark (s : List Char) : Bool :=
  s.head? ≠ some '*' && s.head? ≠ some '-'

theorem startsMark_append {c : Char} {u v : List Char} (h : startsMark c u = false)
    (hv : completesNoMark v = true) : startsMark c (u ++ v) = false := by
  cases u with
  | nil => simp_all [startsMark, completesNoMark]
  | cons d u => simpa [startsMark] using h

theorem startsMark_eq_false_iff {c : Char} {rest : List Char} :
    startsMark c rest = false ↔
      (∀ s, c = '/' → rest = '*' :: s → False) ∧ ∀ s, c = '-' → rest = '-' :: s → False := by
  cases rest <;> simp [startsMark]

theorem stripFrom_code_cons {c : Char} {rest : List Char} (h : startsMark c rest = false) :
    stripFrom .code (c :: rest) =
      if c = '#' then stripFrom .lineComment rest else c :: stripFrom (.afterCode c) rest := by
  obtain ⟨hblock, hline⟩ := startsMark_eq_false_iff.mp h
  rw [stripFrom]
  · exact hblock
  · exact hline

theorem regionAfter_code_cons {c : Char} {rest : List Char} (h : startsMark c rest = false) :
    regionAfter .code (c :: rest) =
      regionAfter (if c = '#' then .lineComment else .afterCode c) rest := by
  obtain ⟨hblock, hline⟩ := startsMark_eq_false_iff.mp h
  rw [regionAfter]
  · exact hblock
  · exact hline

/-- Comments are removed part by part. -/
theorem stripFrom_append (r : Region) (u : List Char) {v : List Char}
    (hv : completesNoMark v = true) :
    stripFrom r (u ++ v) = stripFrom r u ++ stripFrom (regionAfter r u) v := by
  fun_induction regionAfter r u with
  | case1 r => cases r <;> simp [stripFrom]
  | case2 q escaped c rest ih => simp [stripFrom, ih]
  | case3 star c rest ih => simpa [stripFrom] using ih
  | case4 c rest ih =>
    by_cases hc : c = '\n' <;> simpa [stripFrom, hc] using ih
  | case5 rest ih => simpa [stripFrom] using ih
  | case6 rest ih => simpa [stripFrom] using ih
  | case7 c rest hblock hline ih =>
    have hno : startsMark c rest = false := startsMark_eq_false_iff.mpr ⟨hblock, hline⟩
    rw [List.cons_append, stripFrom_code_cons (startsMark_append hno hv), stripFrom_code_cons hno]
    by_cases hc : c = '#' <;> simpa [hc] using ih

theorem regionAfter_append (r : Region) (u : List Char) {v : List Char}
    (hv : completesNoMark v = true) :
    regionAfter r (u ++ v) = regionAfter (regionAfter r u) v := by
  fun_induction regionAfter r u with
  | case1 r => rfl
  | case2 q escaped c rest ih => simpa [regionAfter] using ih
  | case3 star c rest ih => simpa [regionAfter] using ih
  | case4 c rest ih => simpa [regionAfter] using ih
  | case5 rest ih => simpa [regionAfter] using ih
  | case6 rest ih => simpa [regionAfter] using ih
  | case7 c rest hblock hline ih =>
    have hno : startsMark c rest = false := startsMark_eq_false_iff.mpr ⟨hblock, hline⟩
    rw [List.cons_append, regionAfter_code_cons (startsMark_append hno hv)]
    exact ih

end SchemaAtlas.Sql
