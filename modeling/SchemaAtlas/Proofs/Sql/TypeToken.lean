import SchemaAtlas.Proofs.Sql.Quiet
import SchemaAtlas.Text.Case

/-! # Types that stand as one word

A type may hold blanks, commas and comment marks, but only inside its literals and, but for
comment marks, inside its parentheses. Such a type is quiet, and it neither begins nor ends with
a blank.
-/
namespace SchemaAtlas.Sql
open Text (isBlank blanks)

/-- A type that a walk reads as one word: its quotes and parentheses are closed, and outside of
them it has no blank and no comma. -/
structure IsTypeWord (type : List Char) : Prop where
  ne_nil : type ≠ []
  closed : (State.initial.run type).isClosed = true
  nonneg : ∀ t ∈ tokens type, 0 ≤ t.depth
  solid : ∀ t ∈ tokens type, t.isTopLevel = true → isBlank t.char = false ∧ t.char ≠ ','

instance (type : List Char) : Decidable (IsTypeWord type) :=
  decidable_of_iff (type ≠ [] ∧ (State.initial.run type).isClosed = true ∧
      (∀ t ∈ tokens type, 0 ≤ t.depth) ∧
      (∀ t ∈ tokens type, t.isTopLevel = true → isBlank t.char = false ∧ t.char ≠ ','))
    ⟨fun ⟨hne, hclosed, hnonneg, hsolid⟩ => ⟨hne, hclosed, hnonneg, hsolid⟩,
    fun h => ⟨h.ne_nil, h.closed, h.nonneg, h.solid⟩⟩

/-- A type that stands in a script as one word: it is in capitals, its quotes and parentheses
are closed, and outside of them it has no blank and no comma, nor a comment mark outside its
quotes. -/
structure IsTypeToken (type : List Char) : Prop where
  ne_nil : type ≠ []
  upper : Text.upper type = type
  closed : (State.initial.run type).isClosed = true
  nonneg : ∀ t ∈ tokens type, 0 ≤ t.depth
  solid : ∀ t ∈ tokens type, t.isTopLevel = true → isBlank t.char = false ∧ t.char ≠ ','
  uncommented : opensComment (tokens type) = false

instance (type : List Char) : Decidable (IsTypeToken type) :=
  decidable_of_iff (type ≠ [] ∧ Text.upper type = type ∧
      (State.initial.run type).isClosed = true ∧ (∀ t ∈ tokens type, 0 ≤ t.depth) ∧
      (∀ t ∈ tokens type, t.isTopLevel = true → isBlank t.char = false ∧ t.char ≠ ',') ∧
      opensComment (tokens type) = false)
    ⟨fun ⟨hne, hupper, hclosed, hnonneg, hsolid, hmark⟩ =>
      ⟨hne, hupper, hclosed, hnonneg, hsolid, hmark⟩,
    fun h => ⟨h.ne_nil, h.upper, h.closed, h.nonneg, h.solid, h.uncommented⟩⟩

/-- Whether a character ends a type in a clause. -/
def endsType (c : Char) : Bool :=
  isBlank c || c = ','

theorem IsTypeToken.word {type : List Char} (h : IsTypeToken type) : IsTypeWord type :=
  ⟨h.ne_nil, h.closed, h.nonneg, h.solid⟩

theorem IsTypeWord.segment {type : List Char} (h : IsTypeWord type) : IsSegment endsType type := by
  refine ⟨State.run_eq_initial h.closed, h.nonneg, ?_⟩
  intro t ht htop
  obtain ⟨hblank, hcomma⟩ := h.solid t ht htop
  rw [endsType, hblank, decide_eq_false hcomma]
  rfl

theorem IsTypeToken.quiet {type : List Char} (h : IsTypeToken type) : IsQuiet endsType type :=
  h.word.segment.quiet h.uncommented

theorem step_initial_of_isBlank {c : Char} (h : isBlank c = true) :
    State.initial.step c = .initial := by
  have hplain : blanks.all isPlain = true := by decide
  exact step_of_isPlain (List.all_eq_true.mp hplain c (List.contains_iff_mem.mp h))

theorem not_isBlank_of_isQuote {c : Char} (h : isQuote c = true) : isBlank c = false := by
  simp only [isQuote, Bool.or_eq_true, decide_eq_true_eq] at h
  rcases h with (rfl | rfl) | rfl <;> decide

theorem State.isQuote_step {s : State} (hs : ∀ q, s.quote = some q → isQuote q = true) (c : Char) :
    ∀ q, (s.step c).quote = some q → isQuote q = true := by
  intro q hq
  cases hquote : s.quote with
  | some p =>
    simp only [step, hquote, stepQuoted] at hq
    split_ifs at hq <;> exact hs q (by simpa [hquote] using hq)
  | none =>
    simp only [step, hquote, stepPlain] at hq
    split_ifs at hq with hc
    · exact Option.some.inj hq ▸ hc
    all_goals simp [hquote] at hq

/-- Only quotes open a literal. -/
theorem State.isQuote_run {s : State} (hs : ∀ q, s.quote = some q → isQuote q = true)
    (u : List Char) : ∀ q, (s.run u).quote = some q → isQuote q = true := by
  induction u generalizing s with
  | nil => exact hs
  | cons c u ih => exact ih (isQuote_step hs c)

/-- A blank does not close a literal. -/
theorem State.quote_eq_none_of_step {s : State} (hs : ∀ q, s.quote = some q → isQuote q = true)
    {c : Char} (hc : isBlank c = true) (h : (s.step c).quote = none) : s.quote = none := by
  cases hq : s.quote with
  | none => rfl
  | some q =>
    have hne : c ≠ q := by
      rintro rfl
      rw [not_isBlank_of_isQuote (hs c hq)] at hc
      cases hc
    simp only [step, hq, stepQuoted, if_neg hne] at h
    split_ifs at h
    simp [hq] at h

theorem IsTypeWord.head_not_blank {type : List Char} (h : IsTypeWord type) :
    ∃ c u, type = c :: u ∧ isBlank c = false := by
  obtain ⟨c, u, rfl⟩ := List.exists_cons_of_ne_nil h.ne_nil
  refine ⟨c, u, rfl, ?_⟩
  cases hc : isBlank c with
  | false => rfl
  | true =>
    have hstep := step_initial_of_isBlank hc
    have htop : (⟨0, c, State.initial.quotes c, (State.initial.step c).depth⟩ : Token).isTopLevel =
        true := by
      rw [State.quotes_eq_false hstep, hstep]
      rfl
    have hsolid := (h.solid _ List.mem_cons_self htop).1
    rw [hc] at hsolid
    cases hsolid

theorem IsTypeWord.last_not_blank {type : List Char} (h : IsTypeWord type) :
    ∃ c, type.getLast? = some c ∧ isBlank c = false := by
  obtain ⟨w, c, rfl⟩ := (List.eq_nil_or_concat type).resolve_left h.ne_nil
  rw [List.concat_eq_append] at h ⊢
  refine ⟨c, List.getLast?_concat, ?_⟩
  cases hc : isBlank c with
  | false => rfl
  | true =>
    have hrun := State.run_eq_initial h.closed
    rw [State.run_append, State.run_cons, State.run_nil] at hrun
    have hquotes : ∀ q, (State.initial.run w).quote = some q → isQuote q = true :=
      State.isQuote_run (by intro q hq; cases hq) w
    -- The walk is outside quotes after the blank, and so it was before.
    have hnone : (State.initial.run w).quote = none :=
      State.quote_eq_none_of_step hquotes hc (by rw [hrun]; rfl)
    have hmem : (⟨w.length, c, (State.initial.run w).quotes c,
        ((State.initial.run w).step c).depth⟩ : Token) ∈ tokens (w ++ [c]) := by
      rw [tokens, tokensFrom_append]
      simp
    have htop : (⟨w.length, c, (State.initial.run w).quotes c,
        ((State.initial.run w).step c).depth⟩ : Token).isTopLevel = true := by
      have hq : isQuote c = false := by
        cases hq : isQuote c with
        | false => rfl
        | true => rw [not_isBlank_of_isQuote hq] at hc; cases hc
      rw [hrun, State.quotes, hnone, hq]
      rfl
    have hsolid := (h.solid _ hmem htop).1
    rw [hc] at hsolid
    cases hsolid

end SchemaAtlas.Sql
