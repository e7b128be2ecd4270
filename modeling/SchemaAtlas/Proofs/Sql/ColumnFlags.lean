import SchemaAtlas.Proofs.Sql.GrammarColumns

/-! # Literals in column clauses

The flags of a column are looked for in all of the text after its type, literals included. So what
a literal says counts as if it stood in the clause itself.
-/
namespace SchemaAtlas.Sql
open Text

theorem isWord_of_isQuote {q : Char} (hq : isQuote q = true) : isWord q = false := by
  simp only [isQuote, Bool.or_eq_true, decide_eq_true_eq] at hq
  rcases hq with (rfl | rfl) | rfl <;> decide +kernel

theorem caseless_of_isQuote {q : Char} (hq : isQuote q = true) : caseless q ∉ letters := by
  simp only [isQuote, Bool.or_eq_true, decide_eq_true_eq] at hq
  rcases hq with (rfl | rfl) | rfl <;> decide +kernel

section Flags

variable {q : Char} (hq : isQuote q = true)
include hq

theorem phrase?_quote {kws : List (List Char)} (h : ∀ kw ∈ kws, kw ⊆ letters) (u v : List Char) :
    phrase? kws (u ++ q :: v) = (phrase? kws u).map (· ++ q :: v) := by
  apply phrase?_append_cons (not_isBlank_of_isQuote hq)
  intro kw hkw hmem
  exact caseless_of_isQuote hq (h kw hkw hmem)

theorem mentionsPrimaryKey_quote (u v : List Char) :
    mentionsPrimaryKey (u ++ q :: v) = (mentionsPrimaryKey u || mentionsPrimaryKey v) := by
  have hcut : IsCutAt q (phrase? primaryKeyWords) := by
    intro u v
    rw [phrase?_quote hq (by decide)]
    exact Option.isSome_map
  exact search_append_cons hcut u v

theorem mentionsNotNull_quote (u v : List Char) :
    mentionsNotNull (u ++ q :: v) = (mentionsNotNull u || mentionsNotNull v) := by
  have hcut : IsCutAt q notNull? := by
    intro u v
    rw [notNull?, notNull?, phrase?_quote hq (by decide)]
    cases phrase? notNullWords u with
    | none => rfl
    | some w =>
      have hends : wordEnds (w ++ q :: v) = wordEnds w := by
        cases w with
        | nil => simp [wordEnds, isWord_of_isQuote hq]
        | cons c w => rfl
      change Option.isSome (guard (wordEnds (w ++ q :: v) = true)) =
        Option.isSome (guard (wordEnds w = true))
      rw [hends]
  rw [mentionsNotNull_eq, mentionsNotNull_eq, mentionsNotNull_eq]
  exact searchWord_append_cons (isWord_of_isQuote hq) rfl hcut false u v

end Flags

theorem typeEnd_append_of_lt {u : List Char} (h : typeEnd u < u.length) (v : List Char) :
    typeEnd (u ++ v) = typeEnd u := by
  rw [typeEnd, ← length_tokens] at h
  rw [typeEnd, tokens, tokensFrom_append, List.findIdx_append]
  exact if_pos h

/-- The text after the type, without the blanks around it. -/
def modifiersOf (head : List Char) : List Char :=
  stripStart ((firstWord head).2.drop (typeEnd (firstWord head).2))

theorem column?_append_quote {head : List Char} {q : Char} (hq : isQuote q = true)
    (htype : typeEnd (firstWord head).2 < (firstWord head).2.length) (x tail : List Char) :
    ∃ d, column? (head ++ q :: (x ++ q :: tail)) = some d ∧
      d.name = .ofList (bareName (firstWord head).1) ∧
      d.type = .ofList (upper ((firstWord head).2.take (typeEnd (firstWord head).2))) ∧
      d.isPrimary = (mentionsPrimaryKey (modifiersOf head) ||
        (mentionsPrimaryKey x || mentionsPrimaryKey (stripEnd tail))) ∧
      d.nullable = !(mentionsNotNull (modifiersOf head) ||
        (mentionsNotNull x || mentionsNotNull (stripEnd tail))) := by
  have hblank := not_isBlank_of_isQuote hq
  have hrest : (firstWord head).2 ≠ [] := List.ne_nil_of_length_pos (by omega)
  have hhead : firstWord (stripStart head) = firstWord head := by
    rw [firstWord, stripStart_stripStart]
    rfl
  have hfirst : firstWord (strip (head ++ q :: (x ++ q :: tail))) =
      ((firstWord head).1, (firstWord head).2 ++ q :: (x ++ q :: stripEnd tail)) := by
    rw [strip_append_cons hblank, stripEnd_append_cons hblank,
      firstWord_append_cons hblank (by rwa [hhead]), hhead]
  have hsome : ((firstWord head).1.isEmpty ||
      ((firstWord head).2 ++ q :: (x ++ q :: stripEnd tail)).isEmpty) = false := by
    simp [firstWord_fst_ne_nil hrest]
  have hmodifiers : strip ((firstWord head).2.drop (typeEnd (firstWord head).2) ++
      q :: (x ++ q :: stripEnd tail)) = modifiersOf head ++ q :: (x ++ q :: stripEnd tail) := by
    rw [strip_append_cons hblank, stripEnd_append_cons hblank, stripEnd_stripEnd]
    rfl
  rw [column?, hfirst]
  dsimp only
  rw [hsome, typeEnd_append_of_lt htype, List.take_append_of_le_length htype.le,
    List.drop_append_of_le_length htype.le, hmodifiers]
  refine ⟨_, rfl, rfl, rfl, ?_, ?_⟩
  · rw [← mentionsPrimaryKey_quote hq, ← mentionsPrimaryKey_quote hq]
  · rw [← mentionsNotNull_quote hq, ← mentionsNotNull_quote hq]

/-- What stands between quotes after the type of a column counts for its flags by what it says: a
literal that mentions a key or that null is excluded sets the flag, as it would outside of the
quotes, and any other literal counts as little as an empty one. -/
theorem columnFlags_literal {head : List Char} {q : Char} (hq : isQuote q = true)
    (htype : typeEnd (firstWord head).2 < (firstWord head).2.length) (tail : List Char) :
    ∃ c, column? (head ++ q :: q :: tail) = some c ∧
      ∀ x, ∃ d, column? (head ++ q :: (x ++ q :: tail)) = some d ∧
        d.name = c.name ∧ d.type = c.type ∧
        d.isPrimary = (c.isPrimary || mentionsPrimaryKey x) ∧
        d.nullable = (c.nullable && !mentionsNotNull x) := by
  obtain ⟨c, hc, hname, htext, hprimary, hnullable⟩ := column?_append_quote hq htype [] tail
  refine ⟨c, hc, fun x => ?_⟩
  obtain ⟨d, hd, hname', htext', hprimary', hnullable'⟩ := column?_append_quote hq htype x tail
  have hkey : mentionsPrimaryKey [] = false := rfl
  have hnull : mentionsNotNull [] = false := rfl
  refine ⟨d, hd, hname'.trans hname.symm, htext'.trans htext.symm, ?_, ?_⟩
  · rw [hprimary', hprimary, hkey, Bool.false_or, Bool.or_comm (mentionsPrimaryKey x),
      Bool.or_assoc]
  · rw [hnullable', hnullable, hnull, Bool.false_or, Bool.or_comm (mentionsNotNull x),
      ← Bool.or_assoc, Bool.not_or]

theorem columnFlags_literal_comment :
    isQuote '\'' = true ∧
      typeEnd (firstWord "a INT COMMENT ".toList).2 < (firstWord "a INT COMMENT ".toList).2.length ∧
      ∃ c, column? "a INT COMMENT '' NOT NULL".toList = some c ∧
        ∀ x, ∃ d, column? ("a INT COMMENT ".toList ++ '\'' :: (x ++ '\'' :: " NOT NULL".toList)) =
          some d ∧ d.name = c.name ∧ d.type = c.type ∧
            d.isPrimary = (c.isPrimary || mentionsPrimaryKey x) ∧
            d.nullable = (c.nullable && !mentionsNotNull x) := by
  have htype : typeEnd (firstWord "a INT COMMENT ".toList).2 <
      (firstWord "a INT COMMENT ".toList).2.length := by decide
  exact ⟨by decide, htype, columnFlags_literal (by decide) htype " NOT NULL".toList⟩

/-- One closed literal in the place of another makes the column a key, or one that is never null. -/
theorem columnFlags_literal_mentions :
    (∀ x ∈ ["a note".toList, "PRIMARY KEY".toList, "NOT NULL".toList],
      isContent '\'' x = true ∧
        (tokens ('\'' :: (x ++ ['\'']))).all Token.quoted = true) ∧
      (column? "a INT COMMENT 'a note'".toList).map (fun c => (c.isPrimary, c.nullable)) =
        some (false, true) ∧
      (column? "a INT COMMENT 'PRIMARY KEY'".toList).map (fun c => (c.isPrimary, c.nullable)) =
        some (true, true) ∧
      (column? "a INT COMMENT 'NOT NULL'".toList).map (fun c => (c.isPrimary, c.nullable)) =
        some (false, false) := by
  decide +kernel

end SchemaAtlas.Sql
