import SchemaAtlas.Proofs.Sql.Cuts

/-! # Segments

A segment is a text over which the walk returns to where it began and never leaves a
parenthesis that it has not opened. Segments can be put together, quoted or put in parentheses
without any of them being cut. The walk over a text inside parentheses is the walk over the
text alone, one level deeper.
-/
namespace SchemaAtlas.Sql

/-- A state some levels deeper. -/
def State.lift (k : Int) (s : State) : State :=
  { s with depth := s.depth + k }

/-- A token further on, some levels deeper. -/
def Token.shift (j k : Int) (t : Token) : Token :=
  ⟨t.index + j, t.char, t.quoted, t.depth + k⟩

theorem State.step_lift (k : Int) (s : State) (c : Char) :
    (s.lift k).step c = (s.step c).lift k := by
  rcases s with ⟨quote, escaped, depth⟩
  cases quote with
  | none =>
    simp only [step, lift, stepPlain]
    split_ifs <;> simp only [State.mk.injEq, true_and] <;> omega
  | some q =>
    by_cases he : escaped = true <;> by_cases hb : c = '\\' <;> by_cases hq : c = q <;>
      simp_all [step, lift, stepQuoted]

theorem State.run_lift (k : Int) (s : State) (u : List Char) :
    (s.lift k).run u = (s.run u).lift k := by
  induction u generalizing s with
  | nil => rfl
  | cons c u ih => rw [run_cons, run_cons, step_lift, ih]

theorem tokensFrom_lift (j k : Int) (s : State) (i : Int) (u : List Char) :
    tokensFrom (s.lift k) (i + j) u = (tokensFrom s i u).map (Token.shift j k) := by
  induction u generalizing s i with
  | nil => rfl
  | cons c u ih =>
    rw [tokensFrom_cons, tokensFrom_cons, List.map_cons, State.step_lift, ← ih,
      show i + 1 + j = i + j + 1 by omega]
    rfl

/-- The tokens of a text at another place. -/
theorem tokensFrom_initial (j : Int) (u : List Char) :
    tokensFrom .initial j u = (tokens u).map (Token.shift j 0) := by
  have h := tokensFrom_lift j 0 .initial 0 u
  rw [Int.zero_add] at h
  exact h

/-- The walk over a text returns to where it began, stays inside all parentheses, and meets
no stop character outside of them. -/
structure IsSegment (stop : Char → Bool) (u : List Char) : Prop where
  run : State.initial.run u = .initial
  nonneg : ∀ t ∈ tokens u, 0 ≤ t.depth
  avoids : ∀ t ∈ tokens u, t.isTopLevel = true → stop t.char = false

theorem IsSegment.nil (stop : Char → Bool) : IsSegment stop [] := by
  constructor <;> simp [tokens]

/-- After a text that leads the walk back, the tokens are those of what follows alone. -/
theorem tokens_append {u : List Char} (hu : State.initial.run u = .initial) (v : List Char) :
    tokens (u ++ v) = tokens u ++ (tokens v).map (Token.shift u.length 0) := by
  rw [tokens, tokensFrom_append, hu, Int.zero_add, tokensFrom_initial u.length]
  rfl

/-- A scan that begins after a text does not see it. -/
theorem scan_append (u v : List Char) :
    scan (u ++ v) u.length = .ok (tokensFrom .initial u.length v) := by
  change Except.ok (tokensFrom .initial u.length ((u ++ v).drop u.length)) = _
  rw [List.drop_left]

/-- A scan goes over a segment and then on as if it began after it. -/
theorem IsSegment.scan_append {stop : Char → Bool} {u : List Char} (hu : IsSegment stop u)
    (v : List Char) : scan (u ++ v) 0 = .ok (tokens u ++ tokensFrom .initial u.length v) ∧
      scan (u ++ v) u.length = .ok (tokensFrom .initial u.length v) := by
  refine ⟨?_, Sql.scan_append u v⟩
  change Except.ok (tokensFrom .initial 0 (u ++ v)) = _
  rw [tokensFrom_append, hu.run, Int.zero_add]
  rfl

theorem IsSegment.append {stop : Char → Bool} {u v : List Char} (hu : IsSegment stop u)
    (hv : IsSegment stop v) : IsSegment stop (u ++ v) := by
  have htokens := tokens_append hu.run v
  constructor
  · rw [State.run_append, hu.run, hv.run]
  · intro t ht
    rw [htokens] at ht
    rcases List.mem_append.mp ht with ht | ht
    · exact hu.nonneg t ht
    · obtain ⟨a, ha, rfl⟩ := List.mem_map.mp ht
      have := hv.nonneg a ha
      simpa [Token.shift] using this
  · intro t ht htop
    rw [htokens] at ht
    rcases List.mem_append.mp ht with ht | ht
    · exact hu.avoids t ht htop
    · obtain ⟨a, ha, rfl⟩ := List.mem_map.mp ht
      exact hv.avoids a ha (by simpa [Token.shift, Token.isTopLevel] using htop)

/-- Where a walk over a segment is back where it began, the segment can be taken apart. -/
theorem IsSegment.parts {stop : Char → Bool} {u v : List Char}
    (hu : State.initial.run u = .initial) (h : IsSegment stop (u ++ v)) :
    IsSegment stop u ∧ IsSegment stop v := by
  have hfirst : ∀ t ∈ tokens u, t ∈ tokens (u ++ v) := by
    intro t ht
    rw [tokens_append hu]
    exact List.mem_append_left _ ht
  have hsecond : ∀ t ∈ tokens v, t.shift u.length 0 ∈ tokens (u ++ v) := by
    intro t ht
    rw [tokens_append hu]
    exact List.mem_append_right _ (List.mem_map_of_mem ht)
  have hrun := h.run
  rw [State.run_append, hu] at hrun
  refine ⟨⟨hu, fun t ht => h.nonneg t (hfirst t ht), fun t ht => h.avoids t (hfirst t ht)⟩,
    hrun, fun t ht => ?_, fun t ht htop => ?_⟩
  · simpa [Token.shift] using h.nonneg _ (hsecond t ht)
  · have hshift : (t.shift u.length 0).isTopLevel = true := by
      simpa [Token.shift, Token.isTopLevel] using htop
    exact h.avoids (t.shift u.length 0) (hsecond t ht) hshift

theorem IsSegment.mono {stop stop' : Char → Bool} {u : List Char} (hu : IsSegment stop u)
    (h : ∀ c, stop c = false → stop' c = false) : IsSegment stop' u :=
  ⟨hu.run, hu.nonneg, fun t ht htop => h _ (hu.avoids t ht htop)⟩

/-- A text of plain characters none of which is a stop. -/
theorem IsSegment.plain {stop : Char → Bool} {u : List Char}
    (h : ∀ c ∈ u, State.initial.step c = .initial ∧ stop c = false) : IsSegment stop u := by
  have hrun : State.initial.run u = .initial := by
    induction u with
    | nil => rfl
    | cons c u ih =>
      rw [State.run_cons, (h c List.mem_cons_self).1]
      exact ih fun d hd => h d (List.mem_cons_of_mem _ hd)
  have hdepth : ∀ i, ∀ t ∈ tokensFrom .initial i u, t.depth = 0 ∧ t.char ∈ u := by
    clear hrun
    induction u with
    | nil => simp
    | cons c u ih =>
      intro i t ht
      rw [tokensFrom_cons, (h c List.mem_cons_self).1] at ht
      rcases List.mem_cons.mp ht with rfl | ht
      · exact ⟨rfl, List.mem_cons_self⟩
      · obtain ⟨h0, hm⟩ := ih (fun d hd => h d (List.mem_cons_of_mem _ hd)) _ t ht
        exact ⟨h0, List.mem_cons_of_mem _ hm⟩
  refine ⟨hrun, ?_, fun t ht _ => (h _ (hdepth 0 t ht).2).2⟩
  intro t ht
  have h0 := (hdepth 0 t ht).1
  omega

/-- Text that may stand between quotes `q`: they occur only after a backslash, which takes
one character with it. -/
def isContent (q : Char) : List Char → Bool
  | [] => true
  | '\\' :: _ :: rest => isContent q rest
  | c :: rest => c ≠ q && c ≠ '\\' && isContent q rest

theorem isContent_of_notMem {q : Char} {u : List Char} (hq : q ∉ u) (hb : '\\' ∉ u) :
    isContent q u = true := by
  induction u with
  | nil => rfl
  | cons c u ih =>
    simp only [List.mem_cons, not_or] at hq hb
    rw [isContent]
    · simp [Ne.symm hq.1, Ne.symm hb.1, ih hq.2 hb.2]
    · rintro d rest rfl _
      exact hb.1 rfl

/-- The walk stays in a literal as long as its content goes on. -/
theorem run_content {q : Char} {u : List Char} (h : isContent q u = true) (depth : Int) :
    State.run ⟨some q, false, depth⟩ u = ⟨some q, false, depth⟩ ∧
      ∀ i, ∀ t ∈ tokensFrom ⟨some q, false, depth⟩ i u, t.quoted = true ∧ t.depth = depth := by
  fun_induction isContent q u with
  | case1 => simp
  | case2 c rest ih =>
    obtain ⟨hrun, htokens⟩ := ih h
    -- The backslash and what it takes are two steps that lead back to the same state.
    have hback : State.step ⟨some q, false, depth⟩ '\\' = ⟨some q, true, depth⟩ := by
      simp [State.step, State.stepQuoted]
    have hnext : State.step ⟨some q, true, depth⟩ c = ⟨some q, false, depth⟩ := by
      simp [State.step, State.stepQuoted]
    refine ⟨by rw [State.run_cons, State.run_cons, hback, hnext, hrun], ?_⟩
    intro i t ht
    rw [tokensFrom_cons, tokensFrom_cons, hback, hnext] at ht
    rcases List.mem_cons.mp ht with rfl | ht
    · exact ⟨rfl, rfl⟩
    · rcases List.mem_cons.mp ht with rfl | ht
      · exact ⟨rfl, rfl⟩
      · exact htokens _ t ht
  | case3 c rest _ ih =>
    simp only [Bool.and_eq_true, decide_eq_true_eq] at h
    obtain ⟨⟨hq, hb⟩, hrest⟩ := h
    obtain ⟨hrun, htokens⟩ := ih hrest
    have hstep : State.step ⟨some q, false, depth⟩ c = ⟨some q, false, depth⟩ := by
      simp [State.step, State.stepQuoted, hq, hb]
    refine ⟨by rw [State.run_cons, hstep, hrun], ?_⟩
    intro i t ht
    rw [tokensFrom_cons, hstep] at ht
    rcases List.mem_cons.mp ht with rfl | ht
    · exact ⟨rfl, rfl⟩
    · exact htokens _ t ht

theorem State.step_initial_quote {q : Char} (hq : isQuote q = true) :
    initial.step q = ⟨some q, false, 0⟩ := by
  simp [step, stepPlain, initial, hq]

theorem State.step_closing (q : Char) (hb : q ≠ '\\') (depth : Int) :
    step ⟨some q, false, depth⟩ q = ⟨none, false, depth⟩ := by
  simp [step, stepQuoted, hb]

theorem ne_backslash_of_isQuote {q : Char} (hq : isQuote q = true) : q ≠ '\\' := by
  rintro rfl
  revert hq
  decide

theorem literal_tokens {q : Char} {u : List Char} (hq : isQuote q = true)
    (h : isContent q u = true) :
    ∀ t ∈ tokens (q :: (u ++ [q])), t.quoted = true ∧ t.depth = 0 := by
  obtain ⟨hrun, htokens⟩ := run_content h 0
  intro t ht
  rw [tokens, tokensFrom_cons, State.step_initial_quote hq, tokensFrom_append, hrun,
    tokensFrom_cons, State.step_closing q (ne_backslash_of_isQuote hq), tokensFrom_nil] at ht
  rcases List.mem_cons.mp ht with rfl | ht
  · exact ⟨by simp [State.quotes, hq], rfl⟩
  · rcases List.mem_append.mp ht with ht | ht
    · exact htokens _ t ht
    · rw [List.mem_singleton.mp ht]
      exact ⟨rfl, rfl⟩

/-- A literal is a segment without any stops. -/
theorem IsSegment.literal {stop : Char → Bool} {q : Char} {u : List Char} (hq : isQuote q = true)
    (h : isContent q u = true) : IsSegment stop (q :: (u ++ [q])) := by
  have hclose := State.step_closing q (ne_backslash_of_isQuote hq) 0
  refine ⟨?_, ?_, ?_⟩
  · rw [State.run_cons, State.step_initial_quote hq, State.run_append, (run_content h 0).1,
      State.run_cons, hclose]
    rfl
  · intro t ht
    have h0 := (literal_tokens hq h t ht).2
    omega
  · intro t ht htop
    simp [Token.isTopLevel, (literal_tokens hq h t ht).1] at htop

end SchemaAtlas.Sql
