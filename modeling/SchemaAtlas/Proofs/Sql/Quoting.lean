import SchemaAtlas.Proofs.Sql.Segments
import SchemaAtlas.Proofs.Text.Spelling
import SchemaAtlas.Sql.Pattern

/-! # Quoted texts are read back

What is written between single quotes stays in one literal, and reading gives the text again.
Quoting puts no keyword where none has been.
-/
namespace SchemaAtlas.Sql
open Text

/-! What the pattern for literals reads. -/

/-- What the pattern accepts between two quotes: characters that are neither quotes nor backslashes,
and backslashes, each with a character after it that is no line feed. -/
inductive IsQuotedBody (q : Char) : List Char → Prop
  | nil : IsQuotedBody q []
  | plain {c : Char} {s : List Char} (hq : c ≠ q) (hb : c ≠ '\\') (h : IsQuotedBody q s) :
      IsQuotedBody q (c :: s)
  | escaped {c : Char} {s : List Char} (hc : c ≠ '\n') (h : IsQuotedBody q s) :
      IsQuotedBody q ('\\' :: c :: s)

section Pattern

variable {q : Char} (hq : q ≠ '\\')
include hq

theorem IsQuotedBody.literalBody? {body : List Char} (h : IsQuotedBody q body)
    (rest : List Char) : literalBody? q (body ++ q :: rest) = some (body, rest) := by
  induction h with
  | nil =>
    rw [List.nil_append, Sql.literalBody?, if_pos rfl]
    rintro _ _ rfl
    exact absurd rfl hq
  | plain hcq hb _ ih =>
    rw [List.cons_append, Sql.literalBody?, if_neg hcq, if_neg hb, ih]
    · rfl
    · rintro _ _ rfl
      exact absurd rfl hb
  | escaped hc _ ih =>
    rw [List.cons_append, List.cons_append, Sql.literalBody?, if_neg hc, ih]
    rfl

omit hq in
theorem isQuotedBody_of_literalBody? {s body rest : List Char}
    (h : literalBody? q s = some (body, rest)) :
    IsQuotedBody q body ∧ s = body ++ q :: rest := by
  fun_induction literalBody? q s generalizing body with
  | case1 => cases h
  | case2 => cases h
  | case3 c s hc ih =>
    obtain ⟨⟨body, rest⟩, hread, heq⟩ := Option.map_eq_some_iff.mp h
    cases heq
    obtain ⟨hbody, rfl⟩ := ih hread
    exact ⟨.escaped hc hbody, rfl⟩
  | case4 s =>
    cases h
    exact ⟨.nil, rfl⟩
  | case5 => cases h
  | case6 c s _ hcq hb ih =>
    obtain ⟨⟨body, rest⟩, hread, heq⟩ := Option.map_eq_some_iff.mp h
    cases heq
    obtain ⟨hbody, rfl⟩ := ih hread
    exact ⟨.plain hcq hb hbody, rfl⟩

theorem literalBody?_eq_some_iff {s body rest : List Char} :
    literalBody? q s = some (body, rest) ↔ IsQuotedBody q body ∧ s = body ++ q :: rest := by
  constructor
  · exact isQuotedBody_of_literalBody?
  · rintro ⟨h, rfl⟩
    exact h.literalBody? hq rest

end Pattern

/-! What quoting writes. -/

theorem quoteLiteral_cons_special {c : Char} (h : c = '\\' ∨ c = '\'') (s : List Char) :
    quoteLiteral (c :: s) = '\\' :: c :: quoteLiteral s := by
  rw [quoteLiteral_cons, if_pos h]
  rfl

theorem quoteLiteral_cons_plain {c : Char} (h : ¬(c = '\\' ∨ c = '\'')) (s : List Char) :
    quoteLiteral (c :: s) = c :: quoteLiteral s := by
  rw [quoteLiteral_cons, if_neg h]
  rfl

theorem quoteLiteral_eq_nil {s : List Char} : quoteLiteral s = [] ↔ s = [] := by
  cases s with
  | nil => simp
  | cons c s =>
    by_cases h : c = '\\' ∨ c = '\''
    · simp [quoteLiteral_cons_special h]
    · simp [quoteLiteral_cons_plain h]

theorem isContent_quoteLiteral (s : List Char) : isContent '\'' (quoteLiteral s) = true := by
  induction s with
  | nil => rfl
  | cons c s ih =>
    by_cases h : c = '\\' ∨ c = '\''
    · rw [quoteLiteral_cons_special h, isContent]
      exact ih
    · rw [quoteLiteral_cons_plain h, isContent]
      · simpa [ih, and_comm] using h
      · rintro _ _ rfl _
        exact h (Or.inl rfl)

theorem isQuotedBody_quoteLiteral (s : List Char) : IsQuotedBody '\'' (quoteLiteral s) := by
  induction s with
  | nil => exact .nil
  | cons c s ih =>
    by_cases h : c = '\\' ∨ c = '\''
    -- What is escaped is never a line feed, which a backslash would not take with it.
    · rw [quoteLiteral_cons_special h]
      exact .escaped (by rcases h with rfl | rfl <;> decide) ih
    · rw [quoteLiteral_cons_plain h]
      exact .plain (fun hc => h (.inr hc)) (fun hc => h (.inl hc)) ih

theorem literalBody?_quoteLiteral (s rest : List Char) :
    literalBody? '\'' (quoteLiteral s ++ '\'' :: rest) = some (quoteLiteral s, rest) :=
  (isQuotedBody_quoteLiteral s).literalBody? (by decide) rest

theorem unescape_quoteLiteral (s : List Char) : unescape (quoteLiteral s) = s := by
  induction s with
  | nil => rfl
  | cons c s ih =>
    by_cases h : c = '\\' ∨ c = '\''
    · have hc : c = '\\' ∨ c = '\'' ∨ c = '"' := by
        rcases h with h | h
        · exact Or.inl h
        · exact Or.inr (Or.inl h)
      rw [quoteLiteral_cons_special h, unescape, if_pos hc, ih]
    · rw [quoteLiteral_cons_plain h, unescape, ih]
      rintro _ _ rfl _
      exact h (Or.inl rfl)

/-! What stands before the literal of a comment. -/

/-- The keyword of a comment with all that may stand between it and the literal. -/
inductive Introduces : (List Char → Option (List Char)) → List Char → Prop
  | column {w b : List Char} (hw : IsSpelling "COMMENT".toList w) (hb : IsGap b) :
      Introduces columnComment? (w ++ b)
  | table {w b x b' : List Char} (hw : IsSpelling "COMMENT".toList w) (hb : allBlank b = true)
      (hx : x = [] ∨ x = ['=']) (hb' : allBlank b' = true) :
      Introduces tableComment? (w ++ (b ++ (x ++ b')))

theorem Introduces.read {read : List Char → Option (List Char)} {lead : List Char}
    (h : Introduces read lead) {q : Char} (hq : q = '\'' ∨ q = '"') (s : List Char) :
    read (lead ++ q :: s) = (literal? (q :: s)).map Prod.fst := by
  have hsolid : startsSolid [q] = true := by rcases hq with rfl | rfl <;> decide
  cases h with
  | column hw hb =>
    rw [List.append_assoc, columnComment?, hw.keyword?]
    change ((afterBlanks? (_ ++ ([q] ++ s))).bind fun u => (literal? u).bind fun p => some p.1) = _
    rw [afterBlanks?_append hb hsolid]
    exact (Option.map_eq_bind ..).symm
  | @table w b x b' hw hb hx hb' =>
    have hblanks : stripStart (b' ++ q :: s) = q :: s := stripStart_append hb' hsolid s
    have hsign : stripStart (dropOne ['='] (stripStart (b ++ (x ++ (b' ++ q :: s))))) =
        q :: s := by
      rw [stripStart_blank_append hb]
      rcases hx with rfl | rfl
      · have hkeep : dropOne ['='] (q :: s) = q :: s := by rcases hq with rfl | rfl <;> rfl
        rw [List.nil_append, hblanks, hkeep]
        exact stripStart_of_startsSolid (startsSolid_append hsolid s)
      · rw [stripStart_of_startsSolid (startsSolid_append (by decide) _)]
        exact hblanks
    rw [List.append_assoc, List.append_assoc, List.append_assoc, tableComment?, hw.keyword?]
    simp only [Option.bind_eq_bind, Option.bind_some, hsign]
    exact (Option.map_eq_bind ..).symm

theorem Introduces.read_quoteLiteral {read : List Char → Option (List Char)} {lead : List Char}
    (h : Introduces read lead) (s rest : List Char) :
    read (lead ++ '\'' :: (quoteLiteral s ++ '\'' :: rest)) = some (quoteLiteral s) := by
  have hliteral : literal? ('\'' :: (quoteLiteral s ++ '\'' :: rest)) =
      some (quoteLiteral s, rest) := literalBody?_quoteLiteral s rest
  rw [h.read (.inl rfl), hliteral]
  rfl

def commentClause (s : List Char) : List Char :=
  "COMMENT '".toList ++ (quoteLiteral s ++ ['\''])

theorem commentClause_eq (s : List Char) :
    commentClause s = "COMMENT ".toList ++ '\'' :: (quoteLiteral s ++ ['\'']) := by
  have hlead : "COMMENT '".toList = "COMMENT ".toList ++ ['\''] := by decide
  unfold commentClause
  rw [hlead, List.append_assoc, List.singleton_append]

theorem commentClause_append (s rest : List Char) : commentClause s ++ rest =
    "COMMENT ".toList ++ '\'' :: (quoteLiteral s ++ '\'' :: rest) := by
  rw [commentClause_eq, List.append_assoc, List.cons_append, List.append_assoc,
    List.singleton_append]

theorem commentText_commentClause_append (s rest : List Char) :
    commentText columnComment? (commentClause s ++ rest) = s := by
  have hlead : Introduces columnComment? ("COMMENT".toList ++ [' ']) :=
    .column (by decide) (by decide)
  have hread : columnComment? (commentClause s ++ rest) = some (quoteLiteral s) := by
    rw [commentClause_append]
    exact hlead.read_quoteLiteral s rest
  rw [commentText, search_of_eq_some hread]
  exact unescape_quoteLiteral s

theorem commentText_commentClause (s : List Char) :
    commentText columnComment? (commentClause s) = s := by
  have h := commentText_commentClause_append s []
  rwa [List.append_nil] at h

theorem keyword?_quoteLiteral {kw s u rest : List Char} (hkw : '\\' ∉ kw ∧ '\'' ∉ kw)
    (h : keyword? kw (quoteLiteral s ++ '\'' :: rest) = some u) :
    ∃ s', keyword? kw s = some s' ∧ u = quoteLiteral s' ++ '\'' :: rest := by
  induction kw generalizing s with
  | nil =>
    rw [keyword?] at h
    exact ⟨s, by rw [keyword?], (Option.some.inj h).symm⟩
  | cons k kw ih =>
    simp only [List.mem_cons, not_or] at hkw
    obtain ⟨⟨hback, hbackRest⟩, hquote, hquoteRest⟩ := hkw
    cases s with
    | nil =>
      have hne : caseless '\'' ≠ k := by
        rw [show caseless '\'' = '\'' by decide]
        exact hquote
      simp [keyword?, hne] at h
    | cons c s =>
      by_cases hc : c = '\\' ∨ c = '\''
      · have hne : caseless '\\' ≠ k := by
          rw [show caseless '\\' = '\\' by decide]
          exact hback
        rw [quoteLiteral_cons_special hc, List.cons_append, keyword?, if_neg hne] at h
        cases h
      · rw [quoteLiteral_cons_plain hc, List.cons_append, keyword?] at h
        split at h
        · next hk =>
          obtain ⟨s', hs', hu⟩ := ih ⟨hbackRest, hquoteRest⟩ h
          exact ⟨s', by rw [keyword?, if_pos hk, hs'], hu⟩
        · cases h

theorem stripStart_quoteLiteral (s rest : List Char) :
    stripStart (quoteLiteral s ++ '\'' :: rest) = quoteLiteral (stripStart s) ++ '\'' :: rest := by
  induction s with
  | nil => rfl
  | cons c s ih =>
    by_cases hc : c = '\\' ∨ c = '\''
    · have hb : isBlank c = false := by rcases hc with rfl | rfl <;> decide
      rw [stripStart_of_not_blank hb, quoteLiteral_cons_special hc, List.cons_append,
        stripStart_of_not_blank (by decide)]
    · rw [quoteLiteral_cons_plain hc, List.cons_append]
      cases hb : isBlank c with
      | true => rw [stripStart_of_blank hb, stripStart_of_blank hb, ih]
      | false =>
        rw [stripStart_of_not_blank hb, stripStart_of_not_blank hb, quoteLiteral_cons_plain hc,
          List.cons_append]

theorem afterBlanks?_quoteLiteral {s u rest : List Char}
    (h : afterBlanks? (quoteLiteral s ++ '\'' :: rest) = some u) :
    ∃ s', afterBlanks? s = some s' ∧ u = quoteLiteral s' ++ '\'' :: rest := by
  cases s with
  | nil =>
    rw [quoteLiteral_nil, List.nil_append, afterBlanks?, if_neg (by decide)] at h
    cases h
  | cons c s =>
    by_cases hc : c = '\\' ∨ c = '\''
    · rw [quoteLiteral_cons_special hc, List.cons_append, afterBlanks?, if_neg (by decide)] at h
      cases h
    · rw [quoteLiteral_cons_plain hc, List.cons_append, afterBlanks?] at h
      split at h
      · next hb =>
        refine ⟨stripStart s, by rw [afterBlanks?, if_pos hb], ?_⟩
        rw [← Option.some.inj h, stripStart_quoteLiteral]
      · cases h

def primaryKeyWords : List (List Char) :=
  ["PRIMARY".toList, "KEY".toList]

theorem phrase?_quoteLiteral {kws : List (List Char)} {s u rest : List Char}
    (hk : ∀ kw ∈ kws, '\\' ∉ kw ∧ '\'' ∉ kw)
    (h : phrase? kws (quoteLiteral s ++ '\'' :: rest) = some u) :
    ∃ s', phrase? kws s = some s' ∧ u = quoteLiteral s' ++ '\'' :: rest := by
  induction kws generalizing s with
  | nil => exact ⟨s, rfl, (Option.some.inj h).symm⟩
  | cons kw kws ih =>
    cases kws with
    | nil => exact keyword?_quoteLiteral (hk kw List.mem_cons_self) h
    | cons kw' kws =>
      obtain ⟨v, hv, h⟩ := Option.bind_eq_some_iff.mp h
      obtain ⟨w, hw, h⟩ := Option.bind_eq_some_iff.mp h
      obtain ⟨s₁, h₁, rfl⟩ := keyword?_quoteLiteral (hk kw List.mem_cons_self) hv
      obtain ⟨s₂, h₂, rfl⟩ := afterBlanks?_quoteLiteral hw
      obtain ⟨s₃, h₃, rfl⟩ := ih (fun k hm => hk k (List.mem_cons_of_mem _ hm)) h
      refine ⟨s₃, ?_, rfl⟩
      change (keyword? kw s).bind (fun r => (afterBlanks? r).bind fun r' => phrase? _ r') = _
      rw [h₁, Option.bind_some, h₂, Option.bind_some, h₃]

section Literal
variable {k : Char} {words : List (List Char)} (hneeds : NeedsHead k (phrase? words))
  (hk : k ≠ '\\' ∧ k ≠ '\'') (hw : ∀ w ∈ words, '\\' ∉ w ∧ '\'' ∉ w)
include hneeds hk

theorem phrase?_special {c : Char} (hc : c = '\\' ∨ c = '\'') (s : List Char) :
    phrase? words (c :: s) = none := by
  have hcase : caseless c = c := by rcases hc with rfl | rfl <;> decide
  refine hneeds c s fun he => ?_
  rw [hcase] at he
  rcases hc with rfl | rfl
  · exact hk.1 he.symm
  · exact hk.2 he.symm

include hw

omit hneeds hk in
theorem phrase?_plain {c : Char} (hc : ¬(c = '\\' ∨ c = '\'')) {s : List Char}
    (h : phrase? words (c :: s) = none) (rest : List Char) :
    phrase? words (c :: (quoteLiteral s ++ '\'' :: rest)) = none := by
  refine Option.eq_none_iff_forall_ne_some.mpr fun u hu => ?_
  rw [← List.cons_append, ← quoteLiteral_cons_plain hc] at hu
  obtain ⟨s', hs', _⟩ := phrase?_quoteLiteral hw hu
  rw [h] at hs'
  cases hs'

/-- Where a phrase is not found in a text it is not found in the quoted text. -/
theorem search_quoteLiteral {s : List Char} (h : search (phrase? words) s = none)
    (rest : List Char) :
    search (phrase? words) (quoteLiteral s ++ '\'' :: rest) = search (phrase? words) rest := by
  induction s with
  | nil => rw [quoteLiteral_nil, List.nil_append, search, phrase?_special hneeds hk (.inr rfl)]
  | cons c s ih =>
    obtain ⟨hhead, hrest⟩ := search_cons_eq_none.mp h
    by_cases hc : c = '\\' ∨ c = '\''
    · rw [quoteLiteral_cons_special hc, List.cons_append, List.cons_append, search,
        phrase?_special hneeds hk (.inl rfl), search, phrase?_special hneeds hk hc]
      exact ih hrest
    · rw [quoteLiteral_cons_plain hc, List.cons_append, search,
        phrase?_plain hw hc hhead rest]
      exact ih hrest

theorem searchWord_quoteLiteral {α : Type} {read : List Char → Option α}
    (hread : ∀ s, phrase? words s = none → read s = none) {s : List Char}
    (h : search (phrase? words) s = none) (inWord : Bool) (rest : List Char) :
    ∃ inWord', searchWord read inWord (quoteLiteral s ++ '\'' :: rest) =
      searchWord read inWord' rest := by
  induction s generalizing inWord with
  | nil =>
    exact ⟨_, searchWord_cons inWord (hread _ (phrase?_special hneeds hk (.inr rfl) rest))⟩
  | cons c s ih =>
    obtain ⟨hhead, hrest⟩ := search_cons_eq_none.mp h
    by_cases hc : c = '\\' ∨ c = '\''
    · rw [quoteLiteral_cons_special hc, List.cons_append, List.cons_append,
        searchWord_cons inWord (hread _ (phrase?_special hneeds hk (.inl rfl) _)),
        searchWord_cons _ (hread _ (phrase?_special hneeds hk hc _))]
      exact ih hrest _
    · rw [quoteLiteral_cons_plain hc, List.cons_append,
        searchWord_cons inWord (hread _ (phrase?_plain hw hc hhead rest))]
      exact ih hrest _

end Literal

theorem needsHead_primaryKey : NeedsHead 'P' (phrase? primaryKeyWords) :=
  needsHead_phrase?

theorem mentionsPrimaryKey_commentClause {s : List Char} (h : mentionsPrimaryKey s = false) :
    mentionsPrimaryKey (commentClause s) = false := by
  have hstart : ∀ c ∈ "COMMENT '".toList, caseless c ≠ 'P' := by
    have hall : ("COMMENT '".toList.all fun c => caseless c ≠ 'P') = true := by decide
    simpa using hall
  have hs : search (phrase? primaryKeyWords) s = none := by
    simpa [mentionsPrimaryKey, primaryKeyWords] using h
  have hskip := search_skip needsHead_primaryKey hstart (quoteLiteral s ++ ['\''])
  rw [search_quoteLiteral needsHead_primaryKey (by decide) (by decide) hs] at hskip
  exact congrArg Option.isSome hskip

end SchemaAtlas.Sql
