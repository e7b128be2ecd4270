import SchemaAtlas.Proofs.Sql.Boundaries

/-! # Groups in parentheses

The texts between matching parentheses are those of a grammar: plain characters, literals, and
groups inside each other. A walk finds the closing parenthesis of a group exactly where the
grammar lets the group end.
-/
namespace SchemaAtlas.Sql

/-- What may stand between matching parentheses. -/
inductive IsBalanced : List Char → Prop
  | nil : IsBalanced []
  | plain {c : Char} {u : List Char} : isQuote c = false → c ≠ '(' → c ≠ ')' → IsBalanced u →
      IsBalanced (c :: u)
  | literal {q : Char} {content u : List Char} : isQuote q = true → isContent q content = true →
      IsBalanced u → IsBalanced (q :: (content ++ q :: u))
  | group {u v : List Char} : IsBalanced u → IsBalanced v → IsBalanced ('(' :: (u ++ ')' :: v))

/-- A text between matching parentheses, together with them. -/
def IsGroup (u : List Char) : Prop :=
  ∃ inner, IsBalanced inner ∧ u = '(' :: (inner ++ [')'])

theorem step_initial_plain {c : Char} (hq : isQuote c = false) (ho : c ≠ '(') (hc : c ≠ ')') :
    State.initial.step c = .initial := by
  simp [State.step, State.stepPlain, State.initial, hq, ho, hc]

theorem IsBalanced.segment {u : List Char} (h : IsBalanced u) : IsSegment (fun _ => false) u := by
  induction h with
  | nil => exact .nil _
  | @plain c u hq ho hc _ ih =>
    have hplain : IsSegment (fun _ => false) [c] := by
      refine .plain fun d hd => ?_
      rw [List.mem_singleton.mp hd]
      exact ⟨step_initial_plain hq ho hc, rfl⟩
    exact hplain.append ih
  | @literal q content u hq hcontent _ ih =>
    have happend : q :: (content ++ q :: u) = q :: (content ++ [q]) ++ u := by simp
    rw [happend]
    exact (IsSegment.literal hq hcontent).append ih
  | @group u v _ _ ihu ihv =>
    have happend : '(' :: (u ++ ')' :: v) = '(' :: (u ++ [')']) ++ v := by simp
    rw [happend]
    exact (ihu.parens rfl).append ihv

/-! A text over which a walk returns from some depth is cut at the parentheses by which it leaves
each level for good. -/

/-- A text that closes some parentheses, with balanced texts before, between and after them. -/
inductive ClosesAll : Nat → List Char → Prop
  | last {u : List Char} : IsBalanced u → ClosesAll 0 u
  | next {n : Nat} {u v : List Char} : IsBalanced u → ClosesAll n v →
      ClosesAll (n + 1) (u ++ ')' :: v)

theorem ClosesAll.prepend {n : Nat} {u p : List Char} (h : ClosesAll n u)
    (hp : ∀ v, IsBalanced v → IsBalanced (p ++ v)) : ClosesAll n (p ++ u) := by
  cases h with
  | last hu => exact .last (hp _ hu)
  | next hu hv =>
    rw [← List.append_assoc]
    exact .next (hp _ hu) hv

theorem ClosesAll.plain {n : Nat} {c : Char} {u : List Char} (hq : isQuote c = false)
    (ho : c ≠ '(') (hc : c ≠ ')') (h : ClosesAll n u) : ClosesAll n (c :: u) :=
  h.prepend (p := [c]) fun _ hv => .plain hq ho hc hv

theorem ClosesAll.literal {n : Nat} {q : Char} {content u : List Char} (hq : isQuote q = true)
    (hcontent : isContent q content = true) (h : ClosesAll n u) :
    ClosesAll n (q :: (content ++ q :: u)) := by
  have happend : q :: (content ++ q :: u) = q :: (content ++ [q]) ++ u := by simp
  rw [happend]
  refine h.prepend fun v hv => ?_
  have hliteral := IsBalanced.literal hq hcontent hv
  simpa using hliteral

/-- The parenthesis that is opened is the first to be closed. -/
theorem ClosesAll.opening {n : Nat} {u : List Char} (h : ClosesAll (n + 1) u) :
    ClosesAll n ('(' :: u) := by
  cases h with
  | @next _ a v ha hv =>
    have happend : '(' :: (a ++ ')' :: v) = '(' :: (a ++ [')']) ++ v := by simp
    rw [happend]
    refine hv.prepend fun w hw => ?_
    have hgroup := IsBalanced.group ha hw
    simpa using hgroup

/-- How a text ends what a state has begun at some depth: the literal first, if one is open, and
then the parentheses. -/
def State.Ends (s : State) (n : Nat) (u : List Char) : Prop :=
  match s.quote with
  | none => ClosesAll n u
  | some q => ∃ content v, u = content ++ q :: v ∧
      isContent q (if s.escaped then '\\' :: content else content) = true ∧ ClosesAll n v

theorem State.Ends.quoted {q c : Char} {escaped : Bool} {n : Nat} {u : List Char}
    (h : (step ⟨some q, escaped, n⟩ c).Ends n u) : Ends ⟨some q, escaped, n⟩ n (c :: u) := by
  cases escaped with
  | true =>
    -- The character after a backslash belongs to the literal whatever it is.
    obtain ⟨content, v, hu, hcontent, hv⟩ := h
    refine ⟨c :: content, v, by rw [hu, List.cons_append], ?_, hv⟩
    exact hcontent
  | false =>
    by_cases hb : c = '\\'
    · subst hb
      have hstep : step ⟨some q, false, n⟩ '\\' = ⟨some q, true, n⟩ := by simp [step, stepQuoted]
      rw [hstep] at h
      obtain ⟨content, v, hu, hcontent, hv⟩ := h
      exact ⟨'\\' :: content, v, by rw [hu, List.cons_append], hcontent, hv⟩
    · by_cases hq : c = q
      · subst hq
        rw [step_closing c hb] at h
        exact ⟨[], u, rfl, rfl, h⟩
      · have hstep : step ⟨some q, false, n⟩ c = ⟨some q, false, n⟩ := by
          simp [step, stepQuoted, hb, hq]
        rw [hstep] at h
        obtain ⟨content, v, hu, hcontent, hv⟩ := h
        refine ⟨c :: content, v, by rw [hu, List.cons_append], ?_, hv⟩
        have hplain : isContent q (c :: content) = isContent q content := by
          rw [isContent]
          · simp [hb, hq]
          · rintro _ _ rfl _
            exact hb rfl
        exact hplain.trans hcontent

/-- What a walk does that ends outside all quotes and parentheses, without having left one that
was never opened. -/
theorem State.ends_of_run {s : State} {n : Nat} (hs : s.IsSettled) (hn : s.depth = n) (i : Int)
    {u : List Char} (hclosed : (s.run u).isClosed = true)
    (hnonneg : ∀ t ∈ tokensFrom s i u, 0 ≤ t.depth) : s.Ends n u := by
  induction u generalizing s n i with
  | nil =>
    rcases s with ⟨quote, escaped, depth⟩
    rw [run_nil] at hclosed
    simp only [isClosed, Bool.and_eq_true, Option.isNone_iff_eq_none, decide_eq_true_eq] at hclosed
    obtain ⟨rfl, rfl⟩ := hclosed
    obtain rfl : n = 0 := Int.ofNat_eq_zero.mp hn.symm
    exact .last .nil
  | cons c u ih =>
    rcases s with ⟨quote, escaped, depth⟩
    simp only at hn
    subst hn
    rw [tokensFrom_cons] at hnonneg
    obtain ⟨hhere, hrest⟩ := List.forall_mem_cons.mp hnonneg
    have hnext := fun m hm => ih (n := m) (hs.step c) hm (i + 1) hclosed hrest
    cases quote with
    | some q =>
      have hdepth : (step ⟨some q, escaped, n⟩ c).depth = n := by
        simp only [step, stepQuoted]
        split_ifs <;> rfl
      exact .quoted (hnext n hdepth)
    | none =>
      obtain rfl : escaped = false := hs rfl
      change ClosesAll n (c :: u)
      by_cases hq : isQuote c = true
      · have hstep : step ⟨none, false, n⟩ c = ⟨some c, false, n⟩ := by
          simp [step, stepPlain, hq]
        rw [hstep] at hnext
        obtain ⟨content, v, rfl, hcontent, hv⟩ := hnext n rfl
        exact .literal hq hcontent hv
      · by_cases ho : c = '('
        · subst ho
          exact .opening (hnext (n + 1) rfl)
        · by_cases hc : c = ')'
          · subst hc
            have hdepth : (0 : Int) ≤ n - 1 := hhere
            obtain ⟨m, rfl⟩ : ∃ m, n = m + 1 := ⟨n - 1, by omega⟩
            have hm : ((m + 1 : Nat) : Int) - 1 = m := by omega
            exact .next .nil (hnext m hm)
          · have hplain : isQuote c = false := by simpa using hq
            have hstep : step ⟨none, false, n⟩ c = ⟨none, false, n⟩ := by
              simp [step, stepPlain, hplain, ho, hc]
            rw [hstep] at hnext
            exact .plain hplain ho hc (hnext n rfl)

/-- A segment is balanced, whatever it avoids. -/
theorem IsSegment.balanced {stop : Char → Bool} {u : List Char} (hu : IsSegment stop u) :
    IsBalanced u := by
  have hclosed : (State.initial.run u).isClosed = true := by
    rw [hu.run]
    rfl
  have hends : ClosesAll 0 u := State.ends_of_run State.isSettled_initial rfl 0 hclosed hu.nonneg
  cases hends with
  | last h => exact h

/-! The closing parenthesis. -/

theorem State.one_le_depth_step {s : State} (hs : 1 ≤ s.depth) {c : Char} {i : Int}
    (hc : Token.closes ⟨i, c, s.quotes c, (s.step c).depth⟩ = false) : 1 ≤ (s.step c).depth := by
  rcases s with ⟨quote, escaped, depth⟩
  simp only at hs
  cases quote with
  | some q =>
    simp only [step, stepQuoted]
    split_ifs <;> exact hs
  | none =>
    simp only [step, stepPlain, Token.closes, Token.isTopLevel, quotes] at hc ⊢
    split_ifs at hc ⊢ with hq ho hclose
    · exact hs
    · simp only
      omega
    · have hplain : isQuote ')' = false := rfl
      have hne : depth - 1 ≠ 0 := by simpa [hplain, hclose] using hc
      simp only
      omega
    · exact hs

/-- Up to the first parenthesis that closes, a walk from inside a parenthesis stays inside. -/
theorem exists_of_findIdx?_closes {s : State} (hs : 1 ≤ s.depth) {i : Int} {rest : List Char}
    {n : Nat} (h : (tokensFrom s i rest).findIdx? Token.closes = some n) :
    ∃ u v, rest = u ++ ')' :: v ∧ u.length = n ∧ (∀ t ∈ tokensFrom s i u, 1 ≤ t.depth) ∧
      (s.run u).quote = none ∧ (s.run u).depth = 1 := by
  induction rest generalizing s i n with
  | nil => cases h
  | cons c rest ih =>
    rw [tokensFrom_cons, List.findIdx?_cons] at h
    by_cases hc : Token.closes ⟨i, c, s.quotes c, (s.step c).depth⟩ = true
    · rw [if_pos hc] at h
      obtain rfl := Option.some.inj h
      simp only [Token.closes, Token.isTopLevel, State.quotes, Bool.and_eq_true, Bool.not_eq_true',
        Bool.or_eq_false_iff, decide_eq_true_eq, Option.isSome_eq_false_iff,
        Option.isNone_iff_eq_none] at hc
      obtain ⟨rfl, ⟨hquote, _⟩, hdepth⟩ := hc
      refine ⟨[], rest, rfl, rfl, by simp, hquote, ?_⟩
      have hstep : (s.step ')').depth = s.depth - 1 := by
        rw [State.step, hquote]
        rfl
      rw [State.run_nil]
      omega
    · rw [if_neg hc] at h
      obtain ⟨m, hm, rfl⟩ := Option.map_eq_some_iff.mp h
      have hstep := State.one_le_depth_step hs (Bool.not_eq_true _ ▸ hc)
      obtain ⟨u, v, rfl, rfl, hdepths, hend⟩ := ih hstep hm
      exact ⟨c :: u, v, rfl, rfl, List.forall_mem_cons.mpr ⟨hstep, hdepths⟩, hend⟩

/-- The closing parenthesis is the one after a balanced text. -/
theorem closing?_eq_some_iff {rest : List Char} {n : Nat} :
    closing? ('(' :: rest) = some n ↔
      ∃ u v, rest = u ++ ')' :: v ∧ n = u.length + 1 ∧ IsBalanced u := by
  constructor
  · intro h
    have hopening : Token.closes ⟨0, '(', false, 1⟩ = false := rfl
    change ((⟨0, '(', false, 1⟩ : Token) :: tokensFrom (State.initial.lift 1) 1 rest).findIdx?
      Token.closes = some n at h
    rw [List.findIdx?_cons, hopening, if_neg Bool.false_ne_true] at h
    obtain ⟨m, hm, rfl⟩ := Option.map_eq_some_iff.mp h
    obtain ⟨u, v, hrest, rfl, hdepths, hquote, hdepth⟩ := exists_of_findIdx?_closes (by decide) hm
    refine ⟨u, v, hrest, rfl, ?_⟩
    -- Inside the parenthesis the walk is that over the text alone, one level deeper.
    rw [State.run_lift] at hquote hdepth
    have hlift := tokensFrom_lift 1 1 .initial 0 u
    rw [Int.zero_add] at hlift
    have hclosed : (State.initial.run u).isClosed = true := by
      have hzero : (State.initial.run u).depth = 0 := by
        simp only [State.lift] at hdepth
        omega
      have hnone : (State.initial.run u).quote = none := hquote
      simp [State.isClosed, hzero, hnone]
    have hnonneg : ∀ t ∈ tokens u, 0 ≤ t.depth := by
      intro t ht
      have hshift : t.shift 1 1 ∈ tokensFrom (State.initial.lift 1) 1 u := by
        rw [hlift]
        exact List.mem_map_of_mem ht
      have hone := hdepths _ hshift
      simp only [Token.shift] at hone
      omega
    have hsegment : IsSegment (fun _ => false) u :=
      ⟨State.run_eq_initial hclosed, hnonneg, fun _ _ _ => rfl⟩
    exact hsegment.balanced
  · rintro ⟨u, v, rfl, rfl, hu⟩
    exact closing?_parens hu.segment v

theorem find?_closes (s : State) (i j : Int) (u : List Char) :
    ((tokensFrom s i u).find? Token.closes).map Token.index =
      ((tokensFrom s j u).findIdx? Token.closes).map fun n : Nat => i + (n : Int) := by
  induction u generalizing s i j with
  | nil => rfl
  | cons c u ih =>
    have hsame : Token.closes ⟨j, c, s.quotes c, (s.step c).depth⟩ =
        Token.closes ⟨i, c, s.quotes c, (s.step c).depth⟩ := rfl
    rw [tokensFrom_cons, tokensFrom_cons, List.find?_cons, List.findIdx?_cons, hsame]
    cases hc : Token.closes ⟨i, c, s.quotes c, (s.step c).depth⟩ with
    | true => simp
    | false =>
      rw [ih (s.step c) (i + 1) (j + 1)]
      cases (tokensFrom (s.step c) (j + 1) u).findIdx? Token.closes with
      | none => rfl
      | some n =>
        have hindex : i + 1 + (n : Int) = i + ((n + 1 : Nat) : Int) := by omega
        exact congrArg some hindex

theorem matchingParen_eq (text : List Char) (start : Nat) :
    matchingParen text start =
      .ok ((closing? (text.drop start)).map fun n : Nat => (start : Int) + (n : Int)) :=
  congrArg Except.ok (find?_closes .initial start 0 (text.drop start))

/-- A walk from a parenthesis is over where a group ends. -/
theorem closing?_eq_some_iff_isGroup {rest : List Char} {n : Nat} :
    closing? ('(' :: rest) = some n ↔
      n < ('(' :: rest).length ∧ IsGroup (('(' :: rest).take (n + 1)) := by
  rw [closing?_eq_some_iff]
  constructor
  · rintro ⟨u, v, rfl, rfl, hu⟩
    have htake : (u ++ ')' :: v).take (u.length + 1) = u ++ [')'] := by
      rw [List.take_length_add_append, List.take_succ_cons, List.take_zero]
    have hlength : u.length + 1 < ('(' :: (u ++ ')' :: v)).length := by
      simp only [List.length_cons, List.length_append]
      omega
    refine ⟨hlength, u, hu, ?_⟩
    rw [List.take_succ_cons, htake]
  · rintro ⟨hn, u, hu, hgroup⟩
    have hlength := congrArg List.length hgroup
    rw [List.length_take_of_le hn] at hlength
    simp only [List.length_cons, List.length_append, List.length_nil] at hlength
    have hrest := List.take_append_drop (n + 1) ('(' :: rest)
    rw [hgroup] at hrest
    refine ⟨u, ('(' :: rest).drop (n + 1), ?_, by omega, hu⟩
    have htail := congrArg List.tail hrest
    simpa using htail.symm

/-- A part of a text, its last position included. -/
def slice (text : List Char) (start stop : Nat) : List Char :=
  (text.take (stop + 1)).drop start

theorem IsGroup.start_le {text : List Char} {start stop : Nat}
    (h : IsGroup (slice text start stop)) : start ≤ stop := by
  obtain ⟨u, _, hu⟩ := h
  refine Nat.le_of_not_lt fun hlt => ?_
  have hempty : slice text start stop = [] := by
    rw [slice, List.drop_eq_nil_iff, List.length_take]
    omega
  rw [hempty] at hu
  cases hu

section Opened
variable {text : List Char} {start : Nat} (h : text[start]? = some '(')
include h

theorem closing?_drop_eq_some_iff {n : Nat} : closing? (text.drop start) = some n ↔
    start + n < text.length ∧ IsGroup (slice text start (start + n)) := by
  obtain ⟨hstart, hopening⟩ := List.getElem?_eq_some_iff.mp h
  have hdrop : text.drop start = '(' :: text.drop (start + 1) := by
    rw [List.drop_eq_getElem_cons hstart, hopening]
  have hslice : slice text start (start + n) = (text.drop start).take (n + 1) := by
    have hlength : start + n + 1 - start = n + 1 := by omega
    rw [slice, List.drop_take, hlength]
  have hlength : n < (text.drop start).length ↔ start + n < text.length := by
    rw [List.length_drop]
    omega
  rw [← hlength, hslice, hdrop]
  exact closing?_eq_some_iff_isGroup

theorem matchingParen_eq_some_iff {i : Int} : matchingParen text start = .ok (some i) ↔
    ∃ stop : Nat, i = stop ∧ stop < text.length ∧ IsGroup (slice text start stop) := by
  rw [matchingParen_eq, Except.ok.injEq, Option.map_eq_some_iff]
  constructor
  · rintro ⟨n, hn, rfl⟩
    exact ⟨start + n, (Int.natCast_add start n).symm, (closing?_drop_eq_some_iff h).mp hn⟩
  · rintro ⟨stop, rfl, hstop, hgroup⟩
    obtain ⟨n, rfl⟩ := Nat.exists_eq_add_of_le hgroup.start_le
    exact ⟨n, (closing?_drop_eq_some_iff h).mpr ⟨hstop, hgroup⟩, Int.natCast_add start n⟩

/-- A parenthesis is matched at the end of the group that it opens, and not at all if there is no
such group. -/
theorem matchingParen_isGroup :
    (∀ i : Int, matchingParen text start = .ok (some i) ↔
      ∃ stop : Nat, i = stop ∧ stop < text.length ∧ IsGroup (slice text start stop)) ∧
      (matchingParen text start = .ok none ↔
        ∀ stop < text.length, ¬ IsGroup (slice text start stop)) := by
  refine ⟨fun i => matchingParen_eq_some_iff h, ?_, ?_⟩
  · intro hnone stop hstop hgroup
    have hsome := (matchingParen_eq_some_iff h).mpr ⟨stop, rfl, hstop, hgroup⟩
    rw [hnone] at hsome
    cases hsome
  · intro hno
    cases hclosing : closing? (text.drop start) with
    | none => rw [matchingParen_eq, hclosing]; rfl
    | some n =>
      obtain ⟨hstop, hgroup⟩ := (closing?_drop_eq_some_iff h).mp hclosing
      exact absurd hgroup (hno _ hstop)

end Opened

def nested : List Char := "f('a) \\' )', (`)`), b) (".toList

/-- Parentheses that literals hold do not count, also after a quote that a backslash takes. -/
theorem matchingParen_isGroup_nested :
    nested[1]? = some '(' ∧ IsGroup (slice nested 1 21) ∧
      nested[23]? = some '(' ∧ ∀ stop < nested.length, ¬ IsGroup (slice nested 23 stop) := by
  have hopening : nested[1]? = some '(' := by decide
  have hlast : nested[23]? = some '(' := by decide
  have hmatched : matchingParen nested 1 = .ok (some 21) := by rfl
  have hunmatched : matchingParen nested 23 = .ok none := by rfl
  obtain ⟨stop, hstop, _, hgroup⟩ := ((matchingParen_isGroup hopening).1 21).mp hmatched
  obtain rfl : stop = 21 := by omega
  exact ⟨hopening, hgroup, hlast, (matchingParen_isGroup hlast).2.mp hunmatched⟩

end SchemaAtlas.Sql
