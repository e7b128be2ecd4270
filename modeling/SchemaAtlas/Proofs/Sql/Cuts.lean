import SchemaAtlas.Sql.Split
import Mathlib.Tactic.SplitIfs

/-! # Cutting a text in two

A walk that ends closed has come back to where it began, so a text that follows a delimiter
is cut as if it stood alone.
-/
namespace SchemaAtlas.Sql

/-- Outside quotes no backslash is pending. -/
def State.IsSettled (s : State) : Prop :=
  s.quote = none → s.escaped = false

theorem State.isSettled_initial : State.initial.IsSettled := fun _ => rfl

theorem State.IsSettled.step {s : State} (h : s.IsSettled) (c : Char) : (s.step c).IsSettled := by
  rcases s with ⟨quote, escaped, depth⟩
  cases quote with
  | none =>
    have he : escaped = false := h rfl
    rw [State.step, State.stepPlain]
    split_ifs <;> simp [IsSettled, he]
  | some q =>
    simp only [State.step, State.stepQuoted]
    split_ifs <;> simp_all [IsSettled]

theorem State.IsSettled.run {s : State} (h : s.IsSettled) (text : List Char) :
    (s.run text).IsSettled := by
  induction text generalizing s with
  | nil => exact h
  | cons c text ih => exact ih (h.step c)

/-- A walk that ends closed ends where it began. -/
theorem State.run_eq_initial {text : List Char} (h : (initial.run text).isClosed = true) :
    initial.run text = initial := by
  have hs := isSettled_initial.run text
  generalize initial.run text = s at h hs
  rcases s with ⟨quote, escaped, depth⟩
  simp only [isClosed, Bool.and_eq_true, Option.isNone_iff_eq_none, decide_eq_true_eq] at h
  obtain ⟨rfl, rfl⟩ := h
  have he : escaped = false := hs rfl
  rw [he]
  rfl

theorem State.quotes_eq_false {d : Char} (h : initial.step d = initial) :
    initial.quotes d = false := by
  cases hq : isQuote d with
  | false => simp [quotes, initial, hq]
  | true => simp [step, stepPlain, initial, hq] at h

/-- A character that does not move the walk is a delimiter where the walk begins. -/
theorem Token.delimits_initial {d : Char} (h : State.initial.step d = .initial) (i : Int) :
    Token.delimits d ⟨i, d, State.initial.quotes d, (State.initial.step d).depth⟩ = true := by
  simp only [delimits, isTopLevel, State.quotes_eq_false h, h]
  rfl

theorem cut_append_cons {isCut : Token → Bool} {t : Token} (ht : isCut t = true)
    (ts us : List Token) :
    cut isCut (ts ++ t :: us) =
      ((cut isCut ts).1 ++ (cut isCut ts).2 :: (cut isCut us).1, (cut isCut us).2) := by
  induction ts with
  | nil => simp [cut, ht]
  | cons a ts ih =>
    rw [List.cons_append, cut, ih, cut]
    by_cases ha : isCut a = true
    · simp [ha]
    -- A character that is not cut at joins the first part, which may be the remainder.
    · cases hp : (cut isCut ts).1 <;> simp [ha, hp]

/-- Where a walk is cut does not depend on how its characters are numbered. -/
theorem cut_tokensFrom (d : Char) (s : State) (i j : Int) (text : List Char) :
    cut (Token.delimits d) (tokensFrom s i text) =
      cut (Token.delimits d) (tokensFrom s j text) := by
  induction text generalizing s i j with
  | nil => rfl
  | cons c text ih =>
    rw [tokensFrom_cons, tokensFrom_cons, cut, cut, ih (s.step c) (i + 1) (j + 1)]
    rfl

/-- After a closed text and a delimiter the cuts begin anew. -/
theorem cut_tokens_append {d : Char} (hd : State.initial.step d = .initial) {u : List Char}
    (hu : State.initial.run u = .initial) (v : List Char) :
    cut (Token.delimits d) (tokens (u ++ d :: v)) =
      ((cut (Token.delimits d) (tokens u)).1 ++
        (cut (Token.delimits d) (tokens u)).2 :: (cut (Token.delimits d) (tokens v)).1,
        (cut (Token.delimits d) (tokens v)).2) := by
  rw [tokens, tokensFrom_append, hu, tokensFrom_cons, cut_append_cons (Token.delimits_initial hd _),
    hd, cut_tokensFrom d .initial _ 0 v]
  rfl

/-- The part that a delimiter ends is kept even if it is blank. -/
theorem splitAt_append {d : Char} (hd : State.initial.step d = .initial) {u : List Char}
    (hu : State.initial.run u = .initial) (v : List Char) :
    splitAt d (u ++ d :: v) =
      (cut (Token.delimits d) (tokens u)).1 ++
        (cut (Token.delimits d) (tokens u)).2 :: splitAt d v := by
  rw [splitAt, cut_tokens_append hd hu, splitAt, partsOf, partsOf]
  split <;> simp

end SchemaAtlas.Sql
