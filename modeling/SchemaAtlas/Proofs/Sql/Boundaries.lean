import SchemaAtlas.Proofs.Sql.Segments
import SchemaAtlas.Sql.Table

/-! # The boundaries of segments

Every reader that looks for a boundary passes over a segment as a whole: the closing
parenthesis is the one after it, a type ends where it ends, and a delimiter after it is the
first to cut.
-/
namespace SchemaAtlas.Sql

theorem State.step_initial_open : initial.step '(' = initial.lift 1 := rfl

theorem State.step_lift_close : (initial.lift 1).step ')' = initial := rfl

/-- The tokens of a segment in parentheses, and of what follows. -/
theorem tokensFrom_parens {stop : Char → Bool} {u : List Char} (hu : IsSegment stop u)
    (rest : List Char) (i : Int) :
    tokensFrom .initial i ('(' :: (u ++ ')' :: rest)) =
      ⟨i, '(', false, 1⟩ :: ((tokens u).map (Token.shift (i + 1) 1) ++
        ⟨i + 1 + u.length, ')', false, 0⟩ :: tokensFrom .initial (i + 1 + u.length + 1) rest) := by
  -- Inside the parentheses the walk is the same, one level deeper.
  have hrun : (State.initial.lift 1).run u = State.initial.lift 1 := by
    rw [State.run_lift, hu.run]
  have hlift := tokensFrom_lift (i + 1) 1 .initial 0 u
  rw [Int.zero_add] at hlift
  rw [tokensFrom_cons, State.step_initial_open, tokensFrom_append, hrun, tokensFrom_cons,
    State.step_lift_close, hlift]
  rfl

theorem tokens_parens {stop : Char → Bool} {u : List Char} (hu : IsSegment stop u)
    (rest : List Char) :
    tokens ('(' :: (u ++ ')' :: rest)) =
      ⟨0, '(', false, 1⟩ :: ((tokens u).map (Token.shift 1 1) ++
        ⟨1 + u.length, ')', false, 0⟩ :: tokensFrom .initial (1 + u.length + 1) rest) := by
  have h := tokensFrom_parens hu rest 0
  rwa [Int.zero_add] at h

/-- Inside parentheses no token of a segment is at the top level. -/
theorem isTopLevel_shift_one {stop : Char → Bool} {u : List Char} (hu : IsSegment stop u)
    {t : Token} (ht : t ∈ (tokens u).map (Token.shift 1 1)) : t.isTopLevel = false := by
  obtain ⟨a, ha, rfl⟩ := List.mem_map.mp ht
  have h0 := hu.nonneg a ha
  have h1 : a.depth + 1 ≠ 0 := by omega
  simp [Token.isTopLevel, Token.shift, h1]

/-- In parentheses a segment has no stops left but the closing parenthesis. -/
theorem IsSegment.parens {stop inner : Char → Bool} (hs : stop ')' = false) {u : List Char}
    (hu : IsSegment inner u) : IsSegment stop ('(' :: (u ++ [')'])) := by
  have htokens := tokens_parens hu []
  constructor
  · rw [State.run_cons, State.step_initial_open, State.run_append, State.run_lift, hu.run]
    rfl
  · intro t ht
    rw [htokens] at ht
    rcases List.mem_cons.mp ht with rfl | ht
    · decide
    · rcases List.mem_append.mp ht with ht | ht
      · obtain ⟨a, ha, rfl⟩ := List.mem_map.mp ht
        have h0 := hu.nonneg a ha
        simp only [Token.shift]
        omega
      · rw [tokensFrom_nil, List.mem_singleton] at ht
        have h0 : t.depth = 0 := by rw [ht]
        omega
  · intro t ht htop
    rw [htokens] at ht
    rcases List.mem_cons.mp ht with rfl | ht
    · cases htop
    · rcases List.mem_append.mp ht with ht | ht
      · rw [isTopLevel_shift_one hu ht] at htop
        cases htop
      · rw [tokensFrom_nil, List.mem_singleton] at ht
        rw [ht]
        exact hs

theorem length_tokens (u : List Char) : (tokens u).length = u.length := by
  rw [← List.length_map Token.char, tokens, tokensFrom_map_char]

theorem IsSegment.no_stop {stop : Char → Bool} {u : List Char} (hu : IsSegment stop u) :
    ∀ t ∈ tokens u, (t.isTopLevel && stop t.char) = false := by
  intro t ht
  cases htop : t.isTopLevel with
  | false => rfl
  | true => rw [hu.avoids t ht htop, Bool.and_false]

/-- The parenthesis after a segment is the closing one. -/
theorem closing?_parens {stop : Char → Bool} {u : List Char} (hu : IsSegment stop u)
    (rest : List Char) : closing? ('(' :: (u ++ ')' :: rest)) = some (u.length + 1) := by
  have hnone : ((tokens u).map (Token.shift 1 1)).findIdx? Token.closes = none := by
    apply List.findIdx?_eq_none_iff.mpr
    intro t ht
    rw [Token.closes, isTopLevel_shift_one hu ht, Bool.and_false]
  rw [closing?, tokens_parens hu, List.findIdx?_cons, List.findIdx?_append, hnone,
    List.findIdx?_cons]
  simp [Token.closes, Token.isTopLevel, length_tokens]

/-- The body of a statement is what stands in the parentheses after its header. -/
theorem sections?_of_header {statement name rest body options : List Char} {stop : Char → Bool}
    (hheader : tableHeader? (Text.strip statement) = some (name, rest))
    (hrest : rest.dropWhile (· ≠ '(') = '(' :: (body ++ ')' :: options))
    (hbody : IsSegment stop body) :
    sections? statement = some (.ofList name, .ok (body, options)) := by
  have htake : (('(' :: (body ++ ')' :: options)).drop 1).take (body.length + 1 - 1) = body := by
    rw [List.drop_succ_cons, List.drop_zero, Nat.add_sub_cancel, List.take_left]
  have hoptions : ('(' :: (body ++ ')' :: options)).drop (body.length + 1 + 1) = options := by
    rw [List.drop_succ_cons, List.drop_length_add_append, List.drop_succ_cons, List.drop_zero]
  rw [sections?, hheader]
  simp only [Option.bind_eq_bind, Option.bind_some, hrest, closing?_parens hbody, htake, hoptions]
  rfl

theorem typeEnd_segment {u : List Char} (hu : IsSegment Text.isBlank u) :
    typeEnd u = u.length := by
  rw [typeEnd, List.findIdx_eq_length.mpr hu.no_stop, length_tokens]

/-- A type ends at the first blank after it. -/
theorem typeEnd_append {u : List Char} (hu : IsSegment Text.isBlank u) {c : Char}
    (hc : State.initial.step c = .initial) (hb : Text.isBlank c = true) (rest : List Char) :
    typeEnd (u ++ c :: rest) = u.length := by
  have htop : ∀ i, (⟨i, c, State.initial.quotes c, State.initial.depth⟩ : Token).isTopLevel =
      true := by
    intro i
    rw [Token.isTopLevel, State.quotes_eq_false hc]
    rfl
  have hnone : (tokensFrom .initial 0 u).findIdx (fun t => t.isTopLevel && Text.isBlank t.char) =
      (tokensFrom .initial 0 u).length := List.findIdx_eq_length.mpr hu.no_stop
  have hlen : (tokensFrom .initial 0 u).length = u.length := length_tokens u
  rw [typeEnd, tokens, tokensFrom_append, hu.run, tokensFrom_cons, hc, List.findIdx_append, hnone,
    if_neg (Nat.lt_irrefl _), List.findIdx_cons, htop, hlen]
  simp [hb]

theorem cut_of_none {isCut : Token → Bool} {ts : List Token} (h : ∀ t ∈ ts, isCut t = false) :
    cut isCut ts = ([], ts.map Token.char) := by
  induction ts with
  | nil => rfl
  | cons t ts ih =>
    rw [cut, ih fun u hu => h u (List.mem_cons_of_mem _ hu)]
    simp [h t List.mem_cons_self]

/-- A text that is nowhere cut at a delimiter. -/
def IsUncut (d : Char) (u : List Char) : Prop :=
  ∀ t ∈ tokens u, Token.delimits d t = false

theorem IsUncut.cut_eq {d : Char} {u : List Char} (h : IsUncut d u) :
    cut (Token.delimits d) (tokens u) = ([], u) := by
  rw [cut_of_none h, tokens, tokensFrom_map_char]

theorem IsUncut.splitAt_eq {d : Char} {u : List Char} (h : IsUncut d u) :
    splitAt d u = if Text.allBlank u then [] else [u] := by
  rw [splitAt, h.cut_eq]
  rfl

theorem IsSegment.uncut {d : Char} {u : List Char} (hu : IsSegment (· = d) u) : IsUncut d u := by
  intro t ht
  rw [Token.delimits, Bool.and_comm]
  exact hu.no_stop t ht

theorem cut_segment {d : Char} {u : List Char} (hu : IsSegment (· = d) u) :
    cut (Token.delimits d) (tokens u) = ([], u) :=
  hu.uncut.cut_eq

/-- A segment without delimiters is the first part. -/
theorem splitAt_segment_append {d : Char} (hd : State.initial.step d = .initial) {u : List Char}
    (hu : IsSegment (· = d) u) (v : List Char) : splitAt d (u ++ d :: v) = u :: splitAt d v := by
  rw [splitAt_append hd hu.run, cut_segment hu]
  rfl

theorem splitAt_segment {d : Char} {u : List Char} (hu : IsSegment (· = d) u) :
    splitAt d u = if Text.allBlank u then [] else [u] :=
  hu.uncut.splitAt_eq

end SchemaAtlas.Sql
