import SchemaAtlas.Proofs.Sql.Quoting
import SchemaAtlas.Sql.Table

/-! # Literals as a walk and as a pattern

The walk over a text closes a literal at some character, and the pattern for literals reads up to
some character. The two are the same, unless a backslash stands before a line feed: the walk
passes over it, as over any other character, but the pattern does not.
-/
namespace SchemaAtlas.Sql
open Text

/-- The literal that a text begins with is closed by the character at `e`: the walk is inside quotes
after each character before it, and no longer after this one. -/
structure ClosesAt (text : List Char) (e : Nat) : Prop where
  lt : e < text.length
  isOpen : ∀ i < e, (State.initial.run (text.take (i + 1))).quote.isSome = true
  isClosed : (State.initial.run (text.take (e + 1))).quote = none

instance (text : List Char) (e : Nat) : Decidable (ClosesAt text e) :=
  decidable_of_iff (e < text.length ∧
      (∀ i < e, (State.initial.run (text.take (i + 1))).quote.isSome = true) ∧
      (State.initial.run (text.take (e + 1))).quote = none)
    ⟨fun h => ⟨h.1, h.2.1, h.2.2⟩, fun h => ⟨h.lt, h.isOpen, h.isClosed⟩⟩

/-- No line feed in a text comes right after a backslash that takes it along. -/
def State.KeepsLines (s : State) (u : List Char) : Prop :=
  ∀ i, (s.run (u.take i)).escaped = true → u[i]? ≠ some '\n'

/-! Where the walk closes. -/

theorem keepsLines_cons {s : State} {c : Char} {u : List Char} :
    s.KeepsLines (c :: u) ↔ (s.escaped = true → c ≠ '\n') ∧ (s.step c).KeepsLines u := by
  constructor
  · intro h
    refine ⟨fun he hc => h 0 he (by rw [hc]; rfl), fun i => ?_⟩
    have hi := h (i + 1)
    rwa [List.take_succ_cons, State.run_cons, List.getElem?_cons_succ] at hi
  · rintro ⟨hc, h⟩ i
    cases i with
    | zero =>
      intro he heq
      exact hc he (Option.some.inj heq)
    | succ i =>
      rw [List.take_succ_cons, State.run_cons, List.getElem?_cons_succ]
      exact h i

theorem keepsLines_nil (s : State) : s.KeepsLines [] := by
  intro i _
  simp

section Walk

variable {q : Char} {depth : Int}

theorem State.step_backslash : State.step ⟨some q, false, depth⟩ '\\' = ⟨some q, true, depth⟩ := by
  simp [State.step, State.stepQuoted]

theorem State.step_taken (c : Char) :
    State.step ⟨some q, true, depth⟩ c = ⟨some q, false, depth⟩ := by
  simp [State.step, State.stepQuoted]

theorem State.step_inside {c : Char} (hq : c ≠ q) (hb : c ≠ '\\') :
    State.step ⟨some q, false, depth⟩ c = ⟨some q, false, depth⟩ := by
  simp [State.step, State.stepQuoted, hq, hb]

/-- What the pattern accepts is what the walk takes for the content of a literal, as long as no
line feed is taken by a backslash. -/
theorem isQuotedBody_iff (depth : Int) {body : List Char} : IsQuotedBody q body ↔
    isContent q body = true ∧ State.KeepsLines ⟨some q, false, depth⟩ body := by
  fun_induction isContent q body with
  | case1 => exact iff_of_true .nil ⟨rfl, keepsLines_nil _⟩
  | case2 c rest ih =>
    rw [keepsLines_cons, keepsLines_cons, State.step_backslash, State.step_taken]
    constructor
    · intro h
      cases h with
      | plain _ hb => exact absurd rfl hb
      | escaped hc h =>
        obtain ⟨hcontent, hlines⟩ := ih.mp h
        exact ⟨hcontent, fun he => absurd he Bool.false_ne_true, fun _ => hc, hlines⟩
    · rintro ⟨hcontent, _, hc, hlines⟩
      exact .escaped (hc rfl) (ih.mpr ⟨hcontent, hlines⟩)
  | case3 c rest hno ih =>
    simp only [Bool.and_eq_true, decide_eq_true_eq]
    rw [keepsLines_cons]
    constructor
    · intro h
      cases h with
      | plain hcq hb h =>
        obtain ⟨hcontent, hlines⟩ := ih.mp h
        rw [State.step_inside hcq hb]
        exact ⟨⟨⟨hcq, hb⟩, hcontent⟩, fun he => absurd he Bool.false_ne_true, hlines⟩
      | escaped => exact absurd rfl (hno _ _ rfl)
    · rintro ⟨⟨⟨hcq, hb⟩, hcontent⟩, _, hlines⟩
      rw [State.step_inside hcq hb] at hlines
      exact .plain hcq hb (ih.mpr ⟨hcontent, hlines⟩)

theorem quote_run_take {body : List Char} (h : isContent q body = true) (i : Nat) :
    (State.run ⟨some q, false, depth⟩ (body.take i)).quote = some q := by
  fun_induction isContent q body generalizing i with
  | case1 => simp
  | case2 c rest ih =>
    rcases i with _ | _ | i
    · rfl
    · change (State.step ⟨some q, false, depth⟩ '\\').quote = some q
      rw [State.step_backslash]
    · rw [List.take_succ_cons, List.take_succ_cons, State.run_cons, State.run_cons,
        State.step_backslash, State.step_taken]
      exact ih h i
  | case3 c rest _ ih =>
    simp only [Bool.and_eq_true, decide_eq_true_eq] at h
    cases i with
    | zero => rfl
    | succ i =>
      rw [List.take_succ_cons, State.run_cons, State.step_inside h.1.1 h.1.2]
      exact ih h.2 i

/-- The walk leaves a literal right after the first closing quote, and what comes before that is the
content of a literal. -/
theorem exists_content_of_run (hq : q ≠ '\\') {s : List Char} {e : Nat} (he : e ≤ s.length)
    (hopen : ∀ i < e, (State.run ⟨some q, false, depth⟩ (s.take i)).quote.isSome = true)
    (hclosed : (State.run ⟨some q, false, depth⟩ (s.take e)).quote = none) :
    ∃ body rest, isContent q body = true ∧ s = body ++ q :: rest ∧ e = body.length + 1 := by
  fun_induction isContent q s generalizing e with
  | case1 =>
    rw [List.take_nil] at hclosed
    cases hclosed
  | case2 c rest ih =>
    rcases e with _ | _ | e
    · cases hclosed
    · change (State.step ⟨some q, false, depth⟩ '\\').quote = none at hclosed
      rw [State.step_backslash] at hclosed
      cases hclosed
    · have hshift : ∀ i, State.run ⟨some q, false, depth⟩ (('\\' :: c :: rest).take (i + 2)) =
          State.run ⟨some q, false, depth⟩ (rest.take i) := by
        intro i
        rw [List.take_succ_cons, List.take_succ_cons, State.run_cons, State.run_cons,
          State.step_backslash, State.step_taken]
      rw [hshift] at hclosed
      obtain ⟨body, rest, hbody, rfl, rfl⟩ := ih (by simpa using he)
        (fun i hi => hshift i ▸ hopen (i + 2) (by omega)) hclosed
      exact ⟨'\\' :: c :: body, rest, hbody, rfl, rfl⟩
  | case3 c rest hno ih =>
    cases e with
    | zero => cases hclosed
    | succ e =>
      have hshift : ∀ i, State.run ⟨some q, false, depth⟩ ((c :: rest).take (i + 1)) =
          State.run (State.step ⟨some q, false, depth⟩ c) (rest.take i) := by
        intro i
        rw [List.take_succ_cons, State.run_cons]
      by_cases hcq : c = q
      · cases e with
        | zero => exact ⟨[], rest, rfl, by rw [hcq]; rfl, rfl⟩
        | succ e =>
          have hlate := hopen 1 (by omega)
          rw [hshift, hcq, State.step_closing q hq] at hlate
          cases hlate
      · by_cases hb : c = '\\'
        -- Here the backslash comes last, and nothing after it could close the literal.
        · cases rest with
          | cons d rest => exact absurd rfl (hno d rest hb)
          | nil =>
            obtain rfl : e = 0 := by simpa using he
            rw [hshift, hb, State.step_backslash] at hclosed
            cases hclosed
        · rw [hshift, State.step_inside hcq hb] at hclosed
          obtain ⟨body, rest, hbody, rfl, rfl⟩ := ih (by simpa using he)
            (fun i hi => by
              have hi := hopen (i + 1) (by omega)
              rwa [hshift, State.step_inside hcq hb] at hi) hclosed
          refine ⟨c :: body, rest, ?_, rfl, rfl⟩
          rw [isContent]
          · simp [hcq, hb, hbody]
          · rintro _ _ rfl
            exact absurd rfl hb

end Walk

theorem State.run_take_literal {q : Char} (hq : isQuote q = true) (s : List Char) (i : Nat) :
    initial.run ((q :: s).take (i + 1)) = State.run ⟨some q, false, 0⟩ (s.take i) := by
  rw [List.take_succ_cons, run_cons, step_initial_quote hq]

/-- The walk closes a literal after the content that comes first. -/
theorem closesAt_iff {q : Char} (hq : isQuote q = true) {s : List Char} {e : Nat} :
    ClosesAt (q :: s) e ↔
      ∃ body rest, isContent q body = true ∧ s = body ++ q :: rest ∧ e = body.length + 1 := by
  have hback := ne_backslash_of_isQuote hq
  constructor
  · rintro ⟨hlt, hopen, hclosed⟩
    simp only [State.run_take_literal hq] at hopen hclosed
    exact exists_content_of_run hback (Nat.lt_succ_iff.mp hlt) hopen hclosed
  · rintro ⟨body, rest, hbody, rfl, rfl⟩
    have htake : ∀ i ≤ body.length, (body ++ q :: rest).take i = body.take i := fun i hi =>
      List.take_append_of_le_length hi
    refine ⟨by simp, fun i hi => ?_, ?_⟩
    · rw [State.run_take_literal hq, htake i (by omega), quote_run_take hbody]
      rfl
    · rw [State.run_take_literal hq, List.take_append, List.take_of_length_le (by omega),
        State.run_append, (run_content hbody 0).1, Nat.add_sub_cancel_left, List.take_succ_cons,
        State.run_cons, State.step_closing q hback]
      rfl

theorem ClosesAt.not_lt {text : List Char} {e e' : Nat} (h : ClosesAt text e)
    (h' : ClosesAt text e') : ¬ e < e' := by
  intro hlt
  have hopen := h'.isOpen e hlt
  rw [h.isClosed] at hopen
  cases hopen

/-- The walk closes a literal at one place only. -/
theorem ClosesAt.unique {text : List Char} {e e' : Nat} (h : ClosesAt text e)
    (h' : ClosesAt text e') : e = e' := by
  have hle := h'.not_lt h
  have hge := h.not_lt h'
  omega

/-- All that is scanned up to the closing quote counts as quoted, and after it the scan is the one
that begins there. -/
theorem ClosesAt.scan {q : Char} (hq : isQuote q = true) {s : List Char} {e : Nat}
    (h : ClosesAt (q :: s) e) :
    ∃ ts us, scan (q :: s) 0 = .ok (ts ++ us) ∧ scan (q :: s) (e + 1 : Nat) = .ok us ∧
      ts.map Token.char = (q :: s).take (e + 1) ∧ ∀ t ∈ ts, t.quoted = true := by
  obtain ⟨body, rest, hbody, rfl, rfl⟩ := (closesAt_iff hq).mp h
  have htext : q :: (body ++ q :: rest) = (q :: (body ++ [q])) ++ rest := by simp
  have hlength : (q :: (body ++ [q])).length = body.length + 1 + 1 := by simp
  have hsegment : IsSegment (fun _ => false) (q :: (body ++ [q])) := .literal hq hbody
  obtain ⟨hall, hrest⟩ := hsegment.scan_append rest
  rw [← htext] at hall hrest
  rw [hlength] at hall hrest
  refine ⟨_, _, hall, hrest, ?_, fun t ht => (literal_tokens hq hbody t ht).1⟩
  rw [tokens, tokensFrom_map_char, htext, ← hlength, List.take_left]

/-- The pattern reads the literal that the walk closes, where a backslash takes no line feed. -/
theorem literal?_eq_some_iff {q : Char} (hq : q = '\'' ∨ q = '"') {s body rest : List Char} :
    literal? (q :: s) = some (body, rest) ↔
      isContent q body = true ∧ State.initial.KeepsLines (q :: body) ∧ s = body ++ q :: rest := by
  have hquote : isQuote q = true := by rcases hq with rfl | rfl <;> decide
  have hread : literal? (q :: s) = literalBody? q s := by rcases hq with rfl | rfl <;> rfl
  rw [hread, literalBody?_eq_some_iff (ne_backslash_of_isQuote hquote), isQuotedBody_iff 0,
    keepsLines_cons, State.step_initial_quote hquote, and_assoc]
  simp [State.initial]

theorem take_literal (q : Char) (body rest : List Char) :
    (q :: (body ++ q :: rest)).take (body.length + 1) = q :: body := by
  rw [List.take_succ_cons, List.take_left]

theorem literal?_length_iff {q : Char} (hq : q = '\'' ∨ q = '"') {s : List Char} {e : Nat} :
    (literal? (q :: s)).map (fun p => p.1.length + 1) = some e ↔
      ClosesAt (q :: s) e ∧ State.initial.KeepsLines ((q :: s).take e) := by
  have hquote : isQuote q = true := by rcases hq with rfl | rfl <;> decide
  constructor
  · intro h
    obtain ⟨⟨body, rest⟩, hread, rfl⟩ := Option.map_eq_some_iff.mp h
    obtain ⟨hbody, hlines, rfl⟩ := (literal?_eq_some_iff hq).mp hread
    exact ⟨(closesAt_iff hquote).mpr ⟨body, rest, hbody, rfl, rfl⟩, by rwa [take_literal]⟩
  · rintro ⟨hcloses, hlines⟩
    obtain ⟨body, rest, hbody, rfl, rfl⟩ := (closesAt_iff hquote).mp hcloses
    rw [take_literal] at hlines
    rw [(literal?_eq_some_iff hq).mpr ⟨hbody, hlines, rfl⟩]
    rfl

/-- The pattern ends where the walk closes the literal, and only there, unless a backslash takes a
line feed. All that is scanned up to there is quoted, and what comes after it is scanned as if alone.
A comment with such a line feed is passed over; every other one is read to its end, if none is found
before it. -/
theorem literal?_closesAt {q : Char} (hq : q = '\'' ∨ q = '"') (s : List Char) :
    (∀ e, (literal? (q :: s)).map (fun p => p.1.length + 1) = some e ↔
      ClosesAt (q :: s) e ∧ State.initial.KeepsLines ((q :: s).take e)) ∧
    (∀ e, ClosesAt (q :: s) e → ∃ ts us, scan (q :: s) 0 = .ok (ts ++ us) ∧
      scan (q :: s) (e + 1 : Nat) = .ok us ∧ ts.map Token.char = (q :: s).take (e + 1) ∧
      ∀ t ∈ ts, t.quoted = true) ∧
    ∀ e, ClosesAt (q :: s) e → ∀ read lead, Introduces read lead →
      (State.initial.KeepsLines ((q :: s).take e) → ∀ before : List Char,
        (∀ i < before.length, read ((before ++ (lead ++ q :: s)).drop i) = none) →
          commentText read (before ++ (lead ++ q :: s)) = unescape (s.take (e - 1))) ∧
      (¬ State.initial.KeepsLines ((q :: s).take e) → read (lead ++ q :: s) = none) := by
  have hquote : isQuote q = true := by rcases hq with rfl | rfl <;> decide
  refine ⟨fun e => literal?_length_iff hq, fun e hcloses => hcloses.scan hquote,
    fun e hcloses read lead hlead => ⟨?_, ?_⟩⟩
  · intro hlines before hnone
    obtain ⟨body, rest, hbody, rfl, rfl⟩ := (closesAt_iff hquote).mp hcloses
    rw [take_literal] at hlines
    have hread : read (lead ++ q :: (body ++ q :: rest)) = some body := by
      rw [hlead.read hq, (literal?_eq_some_iff hq).mpr ⟨hbody, hlines, rfl⟩]
      rfl
    rw [commentText, search_append hnone hread, Nat.add_sub_cancel, List.take_left]
  · intro hlines
    rw [hlead.read hq, Option.map_eq_none_iff]
    refine Option.eq_none_iff_forall_ne_some.mpr fun p hread => hlines ?_
    have hlength : (literal? (q :: s)).map (fun p => p.1.length + 1) = some (p.1.length + 1) := by
      rw [hread]
      rfl
    obtain ⟨hcloses', hlines'⟩ := (literal?_length_iff hq).mp hlength
    rwa [hcloses.unique hcloses']

/-- A literal with an escaped quote and an escaped backslash before its end. -/
def escapesText : List Char :=
  "'it\\'s \\\\' NOT NULL".toList

theorem literal?_closesAt_escapes : ('\'' = '\'' ∨ '\'' = '"') ∧ ClosesAt escapesText 9 ∧
    commentText columnComment? ("DEFAULT 0 Comment ".toList ++ escapesText) =
      "it's \\".toList := by
  obtain ⟨hends, _, hcomment⟩ := literal?_closesAt (.inl rfl) "it\\'s \\\\' NOT NULL".toList
  obtain ⟨hcloses, hlines⟩ := (hends 9).mp (by decide)
  have hlead : Introduces columnComment? ("Comment".toList ++ " ".toList) :=
    .column (by decide) (by decide)
  exact ⟨.inl rfl, hcloses,
    (hcomment 9 hcloses columnComment? _ hlead).1 hlines "DEFAULT 0 ".toList (by decide)⟩

/-- A literal that the walk closes is not read where a line feed follows a backslash, and the
column is left without its comment. -/
theorem literal?_lineFeed :
    ClosesAt "'x\\\ny'".toList 5 ∧ literal? "'x\\\ny'".toList = none ∧
      (column? "a INT COMMENT 'x\\\ny'".toList).map ColumnDef.comment = some "" := by
  decide +kernel

end SchemaAtlas.Sql
