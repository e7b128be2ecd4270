import SchemaAtlas.Proofs.Sql.Boundaries
import SchemaAtlas.Proofs.Sql.Definitions
import SchemaAtlas.Proofs.Text.Keyword
import SchemaAtlas.Proofs.Text.Pieces

/-! # The header of a statement

No part of a header can be a parenthesis. So a header is read from the text before the first
parenthesis alone, and the body is what stands between that one and the one that closes it.
-/
namespace SchemaAtlas.Sql
open Text

theorem takeWhile_append_cons {p : Char → Bool} {c : Char} (hc : p c = false) (u v : List Char) :
    (u ++ c :: v).takeWhile p = u.takeWhile p := by
  induction u with
  | nil => exact List.takeWhile_cons_of_neg (by simp [hc])
  | cons d u ih => rw [List.cons_append, List.takeWhile_cons, List.takeWhile_cons, ih]

theorem dropWhile_append_cons {p : Char → Bool} {c : Char} (hc : p c = false) (u v : List Char) :
    (u ++ c :: v).dropWhile p = u.dropWhile p ++ c :: v := by
  induction u with
  | nil => exact List.dropWhile_cons_of_neg (by simp [hc])
  | cons d u ih =>
    rw [List.cons_append, List.dropWhile_cons, List.dropWhile_cons, ih]
    split <;> rfl

theorem dropOne_append_cons {cs : List Char} {c : Char} (hc : cs.contains c = false)
    (u v : List Char) : dropOne cs (u ++ c :: v) = dropOne cs u ++ c :: v := by
  cases u with
  | nil =>
    rw [List.nil_append, dropOne, hc]
    rfl
  | cons d u =>
    rw [List.cons_append, dropOne, dropOne]
    split <;> rfl

/-! What is read does not depend on what comes from a parenthesis on. -/

theorem identifier?_append_paren (u v : List Char) :
    identifier? (u ++ '(' :: v) = (identifier? u).map fun p => (p.1, p.2 ++ '(' :: v) := by
  have hword : isWord '(' = false := by decide +kernel
  rw [identifier?, identifier?, dropOne_append_cons (by decide), takeWhile_append_cons hword,
    dropWhile_append_cons hword, dropOne_append_cons (by decide)]
  split <;> rfl

theorem ifNotExists?_append_paren (u v : List Char) :
    ifNotExists? (u ++ '(' :: v) = (ifNotExists? u).map (· ++ '(' :: v) := by
  rw [ifNotExists?, ifNotExists?, phrase?_append_cons (by decide) (by decide)]
  cases phrase? ["IF".toList, "NOT".toList, "EXISTS".toList] u with
  | none => rfl
  | some w => exact afterBlanks?_append_cons (by decide) w v

theorem tableHeader?_append_paren (u v : List Char) :
    tableHeader? (u ++ '(' :: v) = (tableHeader? u).map fun p => (p.1, p.2 ++ '(' :: v) := by
  rw [tableHeader?, tableHeader?, phrase?_append_cons (by decide) (by decide)]
  cases phrase? ["CREATE".toList, "TABLE".toList] u with
  | none => rfl
  | some w =>
    simp only [Option.map_some, Option.bind_eq_bind, Option.bind_some]
    rw [afterBlanks?_append_cons (by decide)]
    cases afterBlanks? w with
    | none => rfl
    | some x =>
      simp only [Option.map_some, Option.bind_some]
      rw [ifNotExists?_append_paren, identifier?_append_paren x]
      cases ifNotExists? x with
      | none => rfl
      | some y =>
        simp only [Option.map_some, Option.bind_some]
        rw [identifier?_append_paren]
        cases identifier? y <;> rfl

/-! What is left of a header is an end of it. -/

theorem keyword?_suffix {kw s rest : List Char} (h : keyword? kw s = some rest) : rest <:+ s := by
  induction kw generalizing s with
  | nil =>
    cases h
    exact List.suffix_rfl
  | cons k kw ih =>
    cases s with
    | nil => cases h
    | cons c s =>
      rw [keyword?] at h
      split at h
      · exact (ih h).trans (List.suffix_cons c s)
      · cases h

theorem afterBlanks?_suffix {s rest : List Char} (h : afterBlanks? s = some rest) : rest <:+ s := by
  cases s with
  | nil => cases h
  | cons c s =>
    rw [afterBlanks?] at h
    split at h
    · rw [← Option.some.inj h]
      exact (List.dropWhile_suffix _).trans (List.suffix_cons c s)
    · cases h

theorem phrase?_suffix {kws : List (List Char)} {s rest : List Char}
    (h : phrase? kws s = some rest) : rest <:+ s := by
  induction kws generalizing s with
  | nil =>
    cases h
    exact List.suffix_rfl
  | cons kw kws ih =>
    cases kws with
    | nil => exact keyword?_suffix h
    | cons kw' kws =>
      obtain ⟨w, hw, h⟩ := Option.bind_eq_some_iff.mp h
      obtain ⟨x, hx, h⟩ := Option.bind_eq_some_iff.mp h
      exact (ih h).trans ((afterBlanks?_suffix hx).trans (keyword?_suffix hw))

theorem dropOne_suffix (cs s : List Char) : dropOne cs s <:+ s := by
  cases s with
  | nil => exact List.suffix_rfl
  | cons c s =>
    rw [dropOne]
    split
    · exact List.suffix_cons c s
    · exact List.suffix_rfl

theorem identifier?_suffix {s name rest : List Char} (h : identifier? s = some (name, rest)) :
    rest <:+ s := by
  unfold identifier? at h
  simp only at h
  split at h
  · cases h
  · obtain ⟨_, rfl⟩ := Prod.mk.inj (Option.some.inj h)
    exact (dropOne_suffix _ _).trans ((List.dropWhile_suffix _).trans (dropOne_suffix _ _))

theorem tableHeader?_suffix {s name rest : List Char} (h : tableHeader? s = some (name, rest)) :
    rest <:+ s := by
  obtain ⟨u, hu, h⟩ := Option.bind_eq_some_iff.mp h
  obtain ⟨v, hv, h⟩ := Option.bind_eq_some_iff.mp h
  have hhere : v <:+ s := (afterBlanks?_suffix hv).trans (phrase?_suffix hu)
  rcases Option.or_eq_some_iff.mp h with h | ⟨_, h⟩
  · obtain ⟨w, hw, h⟩ := Option.bind_eq_some_iff.mp h
    obtain ⟨x, hx, hw⟩ := Option.bind_eq_some_iff.mp hw
    have hcondition := (afterBlanks?_suffix hw).trans (phrase?_suffix hx)
    exact (identifier?_suffix h).trans (hcondition.trans hhere)
  · exact (identifier?_suffix h).trans hhere

/-! A statement is a header, a body in parentheses, and options. -/

section Statement
variable {head body : List Char} {stop : Char → Bool} (hhead : '(' ∉ head)
  (hbody : IsSegment stop body) (options : List Char)
include hhead hbody

theorem sections?_paren : sections? (head ++ '(' :: (body ++ ')' :: options)) =
    (tableHeader? (stripStart head)).map fun p =>
      (.ofList p.1, .ok (body, stripEnd options)) := by
  have hstrip : strip (head ++ '(' :: (body ++ ')' :: options)) =
      stripStart head ++ '(' :: (body ++ ')' :: stripEnd options) := by
    rw [strip_append_cons (by decide), stripEnd_append_cons (by decide)]
  have hread : tableHeader? (strip (head ++ '(' :: (body ++ ')' :: options))) =
      (tableHeader? (stripStart head)).map fun p =>
        (p.1, p.2 ++ '(' :: (body ++ ')' :: stripEnd options)) := by
    rw [hstrip, tableHeader?_append_paren]
  cases hheader : tableHeader? (stripStart head) with
  | none =>
    rw [sections?, hread, hheader]
    rfl
  | some p =>
    obtain ⟨name, rest⟩ := p
    have hrest : '(' ∉ rest := fun hm =>
      hhead (((tableHeader?_suffix hheader).trans (List.dropWhile_suffix _)).subset hm)
    rw [hheader] at hread
    exact sections?_of_header hread (dropWhile_ne_append hrest _) hbody

/-- The definition that a statement gives is that of its clauses, if it has a header at all. -/
theorem tableStatement_paren : (tableStatement (head ++ '(' :: (body ++ ')' :: options))).1 =
    (tableHeader? (stripStart head)).map fun p =>
      .ofClauses (.ofList p.1) ((splitAt ',' body).map clause) (stripEnd options) := by
  rw [tableStatement, sections?_paren hhead hbody]
  cases tableHeader? (stripStart head) <;> rfl

end Statement

end SchemaAtlas.Sql
