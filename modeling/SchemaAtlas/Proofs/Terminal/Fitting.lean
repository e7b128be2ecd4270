import Mathlib.Data.List.TakeWhile
import SchemaAtlas.Proofs.Terminal.Markings

/-! # Lines that fit

A line that is short enough and has no line feeds and tabs in it is not broken. What a text shows
is no longer than the text, unless there are emoji codes in it.
-/
namespace SchemaAtlas.Terminal

/-! Short lines are not broken. -/

theorem charCells_le (c : Char) : charCells c ≤ 2 := by
  unfold charCells
  split
  · decide
  · split
    · decide
    · split <;> decide

theorem cellsAfter_le (last? : Option Char) (joined : Bool) (s : List Char) :
    cellsAfter last? joined s ≤ 2 * s.length := by
  induction s generalizing last? joined with
  | nil => exact Nat.zero_le _
  | cons c rest ih =>
    rw [cellsAfter, List.length_cons]
    split
    · exact (ih _ _).trans (by omega)
    · split
      · exact (ih _ _).trans (by omega)
      · split
        · have hrest := ih none false
          dsimp only
          split <;> omega
        · have hrest := ih (if charCells c = 0 then last? else some c) false
          have hc := charCells_le c
          dsimp only
          omega

theorem cells_le (s : List Char) : cells s ≤ 2 * s.length :=
  cellsAfter_le none false s

theorem flatten_lineWordsFrom (word : List Char) (done : Bool) (s : List Char) :
    (lineWordsFrom word done s).flatten = word.reverse ++ s := by
  induction s generalizing word done with
  | nil =>
    rw [lineWordsFrom]
    split
    · next h => simp [List.isEmpty_iff.mp h]
    · simp
  | cons c rest ih =>
    rw [lineWordsFrom]
    split <;> simp [ih]

variable {overflow : Overflow} {width : Nat}

theorem length_stripEnd_le (s : List Char) : (Text.stripEnd s).length ≤ s.length := by
  have hsuffix := (List.dropWhile_suffix Text.isBlank (l := s.reverse)).length_le
  rwa [List.length_reverse, ← List.length_reverse] at hsuffix

theorem addWord_of_fits {f : Filling} {word : List Char} (h : f.used + 2 * word.length ≤ width) :
    f.addWord overflow width word =
      ⟨f.cuts, f.read + word.length, f.used + cells word⟩ := by
  have hstripped := (cells_le (Text.stripEnd word)).trans
    (Nat.mul_le_mul_left 2 (length_stripEnd_le word))
  exact if_pos (by omega)

theorem cuts_foldl_addWord {words : List (List Char)} {f : Filling}
    (h : f.used + 2 * words.flatten.length ≤ width) :
    (words.foldl (Filling.addWord overflow width) f).cuts = f.cuts := by
  induction words generalizing f with
  | nil => rfl
  | cons word words ih =>
    rw [List.flatten_cons, List.length_append] at h
    have hword := cells_le word
    rw [List.foldl_cons, addWord_of_fits (by omega)]
    exact ih (by dsimp only; omega)

theorem lineCuts_eq_nil {s : List Char} (h : 2 * s.length ≤ width) :
    lineCuts overflow width s = [] := by
  have hwords : (lineWords s).flatten = s := flatten_lineWordsFrom [] false s
  have hcuts : ((lineWords s).foldl (Filling.addWord overflow width) {}).cuts = [] :=
    cuts_foldl_addWord (by rw [hwords, Nat.zero_add]; exact h)
  rw [lineCuts, hcuts, List.reverse_nil]

theorem trimEnd_eq_self {l : Line} (h : l.size ≤ width) : trimEnd width l = l := by
  rw [trimEnd, Nat.sub_eq_zero_of_le h, Nat.min_zero, Nat.sub_zero, Line.size, List.take_length,
    Line.withChars]
  exact congrArg (Line.mk l.chars) (if_pos Nat.le.refl)

theorem placesFrom_eq_nil {c : Char} {s : List Char} (h : c ∉ s) (i : Nat) :
    placesFrom c i s = [] := by
  induction s generalizing i with
  | nil => rfl
  | cons d rest ih =>
    obtain ⟨hd, hrest⟩ := not_or.mp (mt List.mem_cons.mpr h)
    rw [placesFrom, if_neg (Ne.symm hd), ih hrest]

theorem wrapped_eq_self {l : Line} (hfeed : '\n' ∉ l.chars) (htab : '\t' ∉ l.chars)
    (hsize : 2 * l.size ≤ width) : wrapped overflow width l = [l] := by
  have hlines : textLines l = [l] := by
    rw [textLines, placesFrom_eq_nil hfeed]
  have htabs : expandTabs l = l := by
    rw [expandTabs, placesFrom_eq_nil htab]
  have hcuts : l.cutAt (lineCuts overflow width l.chars) = [l] := by
    rw [lineCuts_eq_nil hsize]
    rfl
  have htrim : trimEnd width l = l := trimEnd_eq_self (by omega)
  have htruncate : truncate overflow width l = l :=
    if_pos ((cells_le l.chars).trans hsize)
  rw [wrapped, hlines, List.flatMap_singleton]
  dsimp only
  rw [htabs, hcuts, List.map_singleton, htrim, htruncate]

/-! What a text shows. -/

def Piece.chars : Piece → List Char
  | .plain s => s
  | .tag _ => []

theorem flatMap_chars_plainPiece (s : List Char) : (plainPiece s).flatMap Piece.chars = s := by
  unfold plainPiece
  split
  · next h => simp [List.isEmpty_iff.mp h]
  · simp [Piece.chars]

theorem flatMap_chars_tagPieces (slashes : Nat) (tag : List Char) :
    ((tagPieces slashes tag).flatMap Piece.chars).Sublist
      (List.replicate slashes '\\' ++ ('[' :: tag ++ [']'])) := by
  have hslashes : (List.replicate (slashes / 2) '\\').Sublist (List.replicate slashes '\\') := by
    have htake := List.take_sublist (slashes / 2) (List.replicate slashes '\\')
    rwa [List.take_replicate, Nat.min_eq_left (Nat.div_le_self _ _)] at htake
  rw [tagPieces, List.flatMap_append, flatMap_chars_plainPiece]
  refine hslashes.append ?_
  split
  · simp [Piece.chars]
  · simp [Piece.chars]

theorem eq_of_tagAhead? {s tag : List Char} (h : tagAhead? s = some tag) :
    s = tag ++ (']' :: s.drop (tag.length + 1)) := by
  unfold tagAhead? at h
  dsimp only at h
  split at h
  · next hends =>
    obtain rfl := Option.some.inj h
    have hclose := of_decide_eq_true (Bool.and_eq_true_iff.mp hends).2
    obtain ⟨rest, hrest⟩ := List.head?_eq_some_iff.mp hclose
    have hbody := List.prefix_iff_eq_append.mp
      (List.takeWhile_prefix (p := fun c => c ≠ '[' && c ≠ ']') (l := s))
    have hafter : s.drop ((s.takeWhile fun c => c ≠ '[' && c ≠ ']').length + 1) = rest := by
      rw [← List.drop_drop, hrest, List.drop_succ_cons, List.drop_zero]
    rw [hafter, ← hrest, hbody]
  · cases h

/-- The plain text of a text is left when backslashes and tags are taken out. -/
theorem flatMap_chars_piecesFrom (read : List Char) (slashes passed : Nat) (s : List Char) :
    ((piecesFrom read slashes passed s).flatMap Piece.chars).Sublist
      (read.reverse ++ (List.replicate slashes '\\' ++ s.drop passed)) := by
  induction s generalizing read slashes passed with
  | nil => rw [piecesFrom, flatMap_chars_plainPiece, List.drop_nil, List.append_nil]
  | cons c rest ih =>
    cases passed with
    | succ passed => exact ih read slashes passed
    | zero =>
      have hplain := ih (c :: (List.replicate slashes '\\' ++ read)) 0 0
      simp only [List.reverse_cons, List.reverse_append, List.reverse_replicate,
        List.replicate_zero, List.nil_append, List.drop_zero, List.append_assoc,
        List.cons_append] at hplain
      rw [piecesFrom, List.drop_zero]
      split
      · next hc =>
        have hslash := ih read (slashes + 1) 0
        rw [List.replicate_succ', List.append_assoc] at hslash
        rwa [hc]
      · split
        · exact hplain
        · next hc =>
          obtain rfl := not_not.mp hc
          split
          · exact hplain
          · next tag htag =>
            have htags := flatMap_chars_tagPieces slashes tag
            have hrest := ih [] 0 (tag.length + 1)
            have hsplit := eq_of_tagAhead? htag
            rw [List.flatMap_append, List.flatMap_append, flatMap_chars_plainPiece,
              List.append_assoc]
            refine (List.Sublist.refl _).append ?_
            have hboth := htags.append hrest
            simp only [List.reverse_nil, List.replicate_zero, List.nil_append, List.append_assoc,
              List.cons_append] at hboth
            rwa [← hsplit] at hboth

theorem emojiCode?_of_not_mem {s : List Char} (h : ':' ∉ s) (read : List Char) :
    emojiCode? read s = none := by
  induction s generalizing read with
  | nil => rfl
  | cons c rest ih =>
    have hword {w : List Char} (hw : ':' ∈ w) : w.isPrefixOf (c :: rest) = false := by
      rw [Bool.eq_false_iff]
      exact fun hprefix => h ((List.isPrefixOf_iff_prefix.mp hprefix).subset hw)
    obtain ⟨hc, hrest⟩ := not_or.mp (mt List.mem_cons.mpr h)
    rw [emojiCode?, if_neg (Ne.symm hc), hword (by decide), hword (by decide),
      if_neg Bool.false_ne_true, if_neg Bool.false_ne_true, ih hrest, ite_self]

theorem withEmoji_eq_self {s : List Char} (h : s.count ':' ≤ 1) : withEmoji s = s := by
  unfold withEmoji
  induction s with
  | nil => rfl
  | cons c rest ih =>
    rw [List.count_cons] at h
    have hrest : emojiFrom 0 rest = rest := ih (by omega)
    rw [emojiFrom]
    split
    · rw [hrest]
    · next hc =>
      obtain rfl := not_not.mp hc
      have hnone : ':' ∉ rest := by
        rw [← List.count_eq_zero]
        simp only [beq_self_eq_true, if_true] at h
        omega
      rw [emojiCode?_of_not_mem hnone, hrest]

theorem unescaped_sublist (s : List Char) : (unescaped s).Sublist s := by
  fun_induction unescaped s with
  | case1 rest ih => exact (ih.cons_cons _).cons _
  | case2 c rest _ ih => exact ih.cons_cons _
  | case3 => exact List.Sublist.refl _

theorem plainText_sublist {s : List Char} (h : s.count ':' ≤ 1) : (plainText s).Sublist s := by
  have hunescaped := unescaped_sublist s
  rw [plainText, withEmoji_eq_self ((hunescaped.count_le _).trans h)]
  exact List.filter_sublist.trans hunescaped

theorem Marking.chars_step {m m' : Marking} {p : Piece} (h : m.step p = .ok m') :
    m'.chars = m.chars ++ plainText p.chars := by
  cases p with
  | plain s =>
    obtain rfl := Except.ok.inj h
    rfl
  | tag tag =>
    have hsame : m'.chars = m.chars := by
      unfold step at h
      dsimp only at h
      split at h
      · obtain ⟨_, _, _, _, _, rfl⟩ := close_eq_ok.mp h
        rfl
      · obtain ⟨_, _, h⟩ := bind_eq_ok.mp h
        obtain rfl := Except.ok.inj h
        rfl
    rw [hsame]
    exact (List.append_nil _).symm

theorem Marking.chars_foldlM {pieces : List Piece} {m m' : Marking}
    (h : pieces.foldlM Marking.step m = .ok m') :
    m'.chars = m.chars ++ pieces.flatMap fun p => plainText p.chars := by
  induction pieces generalizing m with
  | nil =>
    obtain rfl := Except.ok.inj h
    exact (List.append_nil _).symm
  | cons p pieces ih =>
    rw [List.foldlM_cons] at h
    obtain ⟨m₁, hm₁, hrest⟩ := bind_eq_ok.mp h
    rw [ih hrest, chars_step hm₁, List.flatMap_cons, List.append_assoc]

theorem flatMap_plainText_sublist {pieces : List Piece}
    (h : (pieces.flatMap Piece.chars).count ':' ≤ 1) :
    (pieces.flatMap fun p => plainText p.chars).Sublist (pieces.flatMap Piece.chars) := by
  induction pieces with
  | nil => exact List.Sublist.refl _
  | cons p pieces ih =>
    rw [List.flatMap_cons, List.count_append] at h
    exact (plainText_sublist (by omega)).append (ih (by omega))

/-- What a text with at most one colon shows is a part of it. -/
theorem chars_sublist_of_marked {s : List Char} {l : Line} (hcolon : s.count ':' ≤ 1)
    (h : marked s = .ok l) : l.chars.Sublist s := by
  obtain ⟨m, hm, hl⟩ := bind_eq_ok.mp h
  obtain rfl := Except.ok.inj hl
  have hplain : ((markupPieces s).flatMap Piece.chars).Sublist s :=
    flatMap_chars_piecesFrom [] 0 0 s
  have hchars : m.chars = (markupPieces s).flatMap fun p => plainText p.chars :=
    Marking.chars_foldlM hm
  have hshown := flatMap_plainText_sublist ((hplain.count_le _).trans hcolon)
  change m.chars.Sublist s
  rw [hchars]
  exact hshown.trans hplain

end SchemaAtlas.Terminal
