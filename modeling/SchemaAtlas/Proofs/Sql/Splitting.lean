import SchemaAtlas.Proofs.Sql.Boundaries

/-! # What splitting keeps

Splitting a text loses nothing but the delimiters at which it is cut, and a blank remainder. It is
cut at every delimiter outside quotes and parentheses, where the walk begins anew, so none of the
parts is cut again.
-/
namespace SchemaAtlas.Sql

/-- A walk that meets a delimiter outside quotes and parentheses begins anew after it. -/
theorem State.step_of_delimits {s : State} (hs : s.IsSettled) {d : Char} {i : Int}
    (h : Token.delimits d ⟨i, d, s.quotes d, (s.step d).depth⟩ = true) : s.step d = initial := by
  rcases s with ⟨quote, escaped, depth⟩
  simp only [Token.delimits, Token.isTopLevel, quotes, decide_true, Bool.true_and, Bool.and_eq_true,
    Bool.not_eq_true', Bool.or_eq_false_iff, decide_eq_true_eq, Option.isSome_eq_false_iff,
    Option.isNone_iff_eq_none] at h
  obtain ⟨⟨rfl, hd⟩, hdepth⟩ := h
  obtain rfl : escaped = false := hs rfl
  have hstep : step ⟨none, false, depth⟩ d =
      ⟨none, false, (step ⟨none, false, depth⟩ d).depth⟩ := by
    simp only [step, stepPlain, hd, Bool.false_eq_true, if_false]
    split_ifs <;> rfl
  rw [hstep, hdepth]
  rfl

theorem IsUncut.filter_eq_nil {d : Char} {u : List Char} (h : IsUncut d u) (i : Int) :
    (tokensFrom .initial i u).filter (Token.delimits d) = [] := by
  rw [tokensFrom_initial, List.filter_eq_nil_iff]
  intro t ht
  obtain ⟨a, ha, rfl⟩ := List.mem_map.mp ht
  have hshift : Token.delimits d (a.shift i 0) = Token.delimits d a := by
    simp [Token.delimits, Token.isTopLevel, Token.shift]
  rw [hshift, h a ha]
  exact Bool.false_ne_true

/-- Some segments, each with a delimiter after it at which the text is cut, and a tail. -/
inductive IsCut (d : Char) : List Char → List (List Char) → List Char → Prop
  | tail {u : List Char} : IsUncut d u → IsCut d u [] u
  | segment {u v tail : List Char} {segments : List (List Char)} : IsUncut d u →
      Token.delimits d ⟨u.length, d, (State.initial.run u).quotes d,
        ((State.initial.run u).step d).depth⟩ = true →
      IsCut d v segments tail → IsCut d (u ++ d :: v) (u :: segments) tail

theorem tokensFrom_cut {d : Char} {u : List Char}
    (hd : Token.delimits d ⟨u.length, d, (State.initial.run u).quotes d,
      ((State.initial.run u).step d).depth⟩ = true) (i : Int) (v : List Char) :
    tokensFrom .initial i (u ++ d :: v) = tokensFrom .initial i u ++
      ⟨i + u.length, d, (State.initial.run u).quotes d, ((State.initial.run u).step d).depth⟩ ::
        tokensFrom .initial (i + u.length + 1) v := by
  rw [tokensFrom_append, tokensFrom_cons,
    State.step_of_delimits (State.isSettled_initial.run u) hd]

/-- A text is cut for the first time, or not at all. -/
theorem exists_first_cut (d : Char) (s : State) (i : Int) (text : List Char) :
    (∀ t ∈ tokensFrom s i text, Token.delimits d t = false) ∨
      ∃ u v, text = u ++ d :: v ∧ (∀ t ∈ tokensFrom s i u, Token.delimits d t = false) ∧
        Token.delimits d ⟨i + u.length, d, (s.run u).quotes d, ((s.run u).step d).depth⟩ =
          true := by
  induction text generalizing s i with
  | nil => exact .inl fun _ ht => absurd ht List.not_mem_nil
  | cons c text ih =>
    by_cases hc : Token.delimits d ⟨i, c, s.quotes c, (s.step c).depth⟩ = true
    · obtain rfl : c = d := by
        simp only [Token.delimits, Bool.and_eq_true, decide_eq_true_eq] at hc
        exact hc.1
      exact .inr ⟨[], text, rfl, fun _ ht => absurd ht List.not_mem_nil, by simpa using hc⟩
    · have hhere := Bool.not_eq_true _ ▸ hc
      rcases ih (s.step c) (i + 1) with hno | ⟨u, v, rfl, hu, hd⟩
      · exact .inl (List.forall_mem_cons.mpr ⟨hhere, hno⟩)
      · refine .inr ⟨c :: u, v, rfl, List.forall_mem_cons.mpr ⟨hhere, hu⟩, ?_⟩
        have hindex : i + ((c :: u).length : Int) = i + 1 + u.length := by
          rw [List.length_cons]
          omega
        rw [hindex]
        exact hd

theorem exists_isCut (d : Char) (text : List Char) :
    ∃ segments tail, IsCut d text segments tail := by
  induction hn : text.length using Nat.strongRecOn generalizing text with
  | ind n ih =>
    rcases exists_first_cut d .initial 0 text with hno | ⟨u, v, rfl, hu, hd⟩
    · exact ⟨[], text, .tail hno⟩
    · have hlength : v.length < n := by
        rw [← hn, List.length_append, List.length_cons]
        omega
      obtain ⟨segments, tail, hv⟩ := ih v.length hlength v rfl
      rw [Int.zero_add] at hd
      exact ⟨u :: segments, tail, .segment hu hd hv⟩

/-- Where the delimiters stand that follow some segments. -/
def cutPositions : (start : Nat) → List (List Char) → List Nat
  | _, [] => []
  | start, u :: segments => (start + u.length) :: cutPositions (start + u.length + 1) segments

namespace IsCut

variable {d : Char} {text tail : List Char} {segments : List (List Char)}
variable (h : IsCut d text segments tail)
include h

theorem cut_eq : cut (Token.delimits d) (tokens text) = (segments, tail) := by
  induction h with
  | tail hu => exact hu.cut_eq
  | @segment u v tail segments hu hd _ ih =>
    have htokens := tokensFrom_cut hd 0 v
    rw [Int.zero_add] at htokens
    rw [tokens, htokens, cut_append_cons hd, cut_tokensFrom d .initial _ 0 v]
    change ((cut _ (tokens u)).1 ++ (cut _ (tokens u)).2 :: (cut _ (tokens v)).1,
      (cut _ (tokens v)).2) = _
    rw [hu.cut_eq, ih]
    rfl

theorem text_eq : text = segments.flatMap (· ++ [d]) ++ tail := by
  induction h with
  | tail _ => rfl
  | segment _ _ _ ih =>
    rw [ih]
    simp

theorem positions (n : Nat) :
    ((tokensFrom .initial n text).filter (Token.delimits d)).map Token.index =
      (cutPositions n segments).map Nat.cast := by
  induction h generalizing n with
  | tail hu =>
    rw [hu.filter_eq_nil]
    rfl
  | @segment u v _ _ hu hd _ ih =>
    have hhere : Token.delimits d ⟨n + u.length, d, (State.initial.run u).quotes d,
        ((State.initial.run u).step d).depth⟩ = true := hd
    have hnext := ih (n + u.length + 1)
    push_cast at hnext
    rw [tokensFrom_cut hd, List.filter_append, hu.filter_eq_nil, List.nil_append,
      List.filter_cons_of_pos hhere, List.map_cons, hnext, cutPositions, List.map_cons]
    push_cast
    rfl

/-- After every cut the walk is where it began. -/
theorem run_take {w : List Char} (hw : State.initial.run w = .initial) :
    ∀ i ∈ cutPositions w.length segments,
      State.initial.run ((w ++ text).take (i + 1)) = .initial := by
  induction h generalizing w with
  | tail _ => exact fun _ hi => absurd hi List.not_mem_nil
  | @segment u v _ _ _ hd _ ih =>
    have hstep := State.step_of_delimits (State.isSettled_initial.run u) hd
    have hrun : State.initial.run (w ++ (u ++ [d])) = .initial := by
      rw [State.run_append, hw, State.run_append, State.run_cons, hstep]
      rfl
    have hlength : (w ++ (u ++ [d])).length = w.length + u.length + 1 := by
      simp only [List.length_append, List.length_singleton]
      omega
    have hsplit : w ++ (u ++ d :: v) = w ++ (u ++ [d]) ++ v := by simp
    have hnext := ih hrun
    rw [hlength] at hnext
    rw [hsplit]
    refine List.forall_mem_cons.mpr ⟨?_, hnext⟩
    rw [← hlength, List.take_left]
    exact hrun

theorem uncut : (∀ u ∈ segments, IsUncut d u) ∧ IsUncut d tail := by
  induction h with
  | tail hu => exact ⟨fun _ hv => absurd hv List.not_mem_nil, hu⟩
  | segment hu _ _ ih => exact ⟨List.forall_mem_cons.mpr ⟨hu, ih.1⟩, ih.2⟩

end IsCut

/-- How a text is split: it consists of segments, each with the delimiter after it, and a tail
that counts as a part unless it is blank; it is cut wherever the delimiter stands outside quotes
and parentheses; and no part can be split. -/
structure IsSplit (d : Char) (text : List Char) (segments : List (List Char)) (tail : List Char) :
    Prop where
  parts : split text [d] = segments ++ if Text.allBlank tail then [] else [tail]
  whole : text = segments.flatMap (· ++ [d]) ++ tail
  positions : ∃ ts, scan text 0 = .ok ts ∧
    (ts.filter fun t => t.char = d ∧ t.quoted = false ∧ t.depth = 0).map Token.index =
      (cutPositions 0 segments).map Nat.cast
  restarts : ∀ i ∈ cutPositions 0 segments, State.initial.run (text.take (i + 1)) = .initial
  resplit : ∀ part ∈ split text [d], split part [d] = if Text.allBlank part then [] else [part]

theorem exists_isSplit (text : List Char) (d : Char) :
    ∃ segments tail, IsSplit d text segments tail := by
  obtain ⟨segments, tail, h⟩ := exists_isCut d text
  have hparts : split text [d] = segments ++ if Text.allBlank tail then [] else [tail] := by
    change partsOf (cut (Token.delimits d) (tokens text)) = _
    rw [h.cut_eq, partsOf]
    split <;> simp
  have hdelimits : (fun t : Token => decide (t.char = d ∧ t.quoted = false ∧ t.depth = 0)) =
      Token.delimits d := by
    funext t
    cases hq : t.quoted <;> simp [Token.delimits, Token.isTopLevel, hq]
  refine ⟨segments, tail, hparts, h.text_eq, ⟨_, rfl, ?_⟩, h.run_take (w := []) rfl, ?_⟩
  · rw [hdelimits]
    exact h.positions 0
  · intro part hpart
    have huncut : IsUncut d part := by
      rw [hparts] at hpart
      rcases List.mem_append.mp hpart with hpart | hpart
      · exact h.uncut.1 part hpart
      · split at hpart
        · cases hpart
        · exact List.mem_singleton.mp hpart ▸ h.uncut.2
    exact huncut.splitAt_eq

/-- A closing parenthesis can be a delimiter as well. -/
example : split "(a)b) ".toList [')'] = ["(a".toList, "b) ".toList] := by decide

end SchemaAtlas.Sql
