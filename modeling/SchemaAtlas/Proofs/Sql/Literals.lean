import SchemaAtlas.Proofs.Sql.Quiet

/-! # Literals and comments

Quotes are read twice: where comments are removed, and again in the walk over what is left. Both
readings take a text to pieces. The walk finds the pieces that the removal of comments has kept,
so each literal comes out whole and in its place, and nothing else is taken for one.
-/
namespace SchemaAtlas.Sql

/-- A part of a script: a character of code, or a literal or a comment with its marks. -/
inductive Piece where
  | code (c : Char)
  | literal (text : List Char)
  | comment (text : List Char)
  deriving DecidableEq, Repr

namespace Piece

def text : Piece → List Char
  | code c => [c]
  | literal t => t
  | comment t => t

/-- Whether the removal of comments copies a piece. -/
def isKept : Piece → Bool
  | comment _ => false
  | _ => true

/-- The characters that are copied, and whether they are copied as part of a literal. -/
def marks : Piece → List (Char × Bool)
  | code c => [(c, false)]
  | literal t => t.map fun c => (c, true)
  | comment _ => []

/-- The piece that a character of code begins, if `t` is the rest of a literal. -/
def begun (c : Char) (t : List Char) : Piece :=
  if isQuote c then literal (c :: t) else code c

end Piece

/-- What a reading finds: the rest of the piece that it stands in, and the pieces after it. -/
abbrev Reading := List Char × List Piece

namespace Reading

/-- One more character of the piece that the reading stands in. -/
def extend (c : Char) (p : Reading) : Reading :=
  (c :: p.1, p.2)

/-- A piece begins, and the reading has stood in none before. -/
def start (piece : List Char → Piece) (p : Reading) : Reading :=
  ([], piece p.1 :: p.2)

def text (p : Reading) : List Char :=
  p.1 ++ p.2.flatMap Piece.text

def marks (p : Reading) : List (Char × Bool) :=
  p.1.map (fun c => (c, true)) ++ p.2.flatMap Piece.marks

@[simp] theorem text_extend (c : Char) (p : Reading) : text (extend c p) = c :: text p := rfl

@[simp] theorem marks_extend (c : Char) (p : Reading) :
    marks (extend c p) = (c, true) :: marks p := rfl

theorem start_begun {c : Char} {p : Reading} (h : isQuote c = false → p.1 = []) :
    text (start (.begun c) p) = c :: text p ∧
      marks (start (.begun c) p) = (c, isQuote c) :: marks p := by
  cases hc : isQuote c with
  | true => simp [text, marks, start, Piece.begun, Piece.text, Piece.marks, hc]
  | false => simp [text, marks, start, Piece.begun, Piece.text, Piece.marks, hc, h hc]

end Reading

/-- How the removal of comments reads a text. -/
def readingFrom : Region → List Char → Reading
  | _, [] => ([], [])
  | .literal q escaped, c :: rest => (readingFrom (.afterLiteral q escaped c) rest).extend c
  | .blockComment star, c :: rest =>
    (readingFrom (if star && c = '/' then .code else .blockComment (c = '*')) rest).extend c
  | .lineComment, c :: rest =>
    if c = '\n' then (readingFrom .code rest).start fun _ => .code c
    else (readingFrom .lineComment rest).extend c
  | .code, '/' :: '*' :: rest =>
    (readingFrom (.blockComment false) rest).start fun t => .comment ('/' :: '*' :: t)
  | .code, '-' :: '-' :: rest =>
    (readingFrom .lineComment rest).start fun t => .comment ('-' :: '-' :: t)
  | .code, c :: rest =>
    if c = '#' then (readingFrom .lineComment rest).start fun t => .comment (c :: t)
    else (readingFrom (.afterCode c) rest).start (.begun c)

/-- The pieces of a script, as the removal of comments reads it. -/
def readPieces (sql : List Char) : List Piece :=
  (readingFrom .code sql).2

/-- How the walk reads a text. -/
def walkFrom : State → List Char → Reading
  | _, [] => ([], [])
  | s, c :: rest =>
    if s.quote.isSome then (walkFrom (s.step c) rest).extend c
    else (walkFrom (s.step c) rest).start (.begun c)

def walkPieces (text : List Char) : List Piece :=
  (walkFrom .initial text).2

/-- Outside literals and comments no piece has been begun. -/
theorem readingFrom_code_fst (u : List Char) : (readingFrom .code u).1 = [] := by
  generalize hr : Region.code = r
  fun_cases readingFrom r u <;> simp_all [Reading.start]

theorem walkFrom_fst {s : State} (hq : s.quote = none) (u : List Char) : (walkFrom s u).1 = [] := by
  cases u <;> simp [walkFrom, hq, Reading.start]

theorem State.step_quote_of_notQuote {s : State} (hq : s.quote = none) {c : Char}
    (hc : isQuote c = false) : (s.step c).quote = none := by
  rw [step, hq]
  simp only [stepPlain, hc]
  split_ifs <;> first | contradiction | exact hq

theorem walkFrom_code {s : State} (hq : s.quote = none) (c : Char) (u : List Char) :
    walkFrom s (c :: u) = (walkFrom (s.step c) u).start (.begun c) := by
  simp [walkFrom, hq]

theorem walkFrom_literal {s : State} {q : Char} (hq : s.quote = some q) (c : Char) (u : List Char) :
    walkFrom s (c :: u) = (walkFrom (s.step c) u).extend c := by
  simp [walkFrom, hq]

theorem readingFrom_text (r : Region) (u : List Char) : (readingFrom r u).text = u := by
  fun_induction readingFrom r u with
  | case1 => rfl
  | case2 q escaped c rest ih => rw [Reading.text_extend, ih]
  | case3 star c rest ih => rw [Reading.text_extend, ih]
  | case4 rest ih =>
    rw [Reading.text, readingFrom_code_fst] at ih
    simpa [Reading.text, Reading.start, Piece.text] using ih
  | case5 c rest _ ih => rw [Reading.text_extend, ih]
  | case6 rest ih => simpa [Reading.text, Reading.start, Piece.text] using ih
  | case7 rest ih => simpa [Reading.text, Reading.start, Piece.text] using ih
  | case8 rest _ _ ih => simpa [Reading.text, Reading.start, Piece.text] using ih
  | case9 c rest _ _ _ ih =>
    rw [(Reading.start_begun _).1, ih]
    intro hc
    rw [Region.afterCode, hc]
    exact readingFrom_code_fst rest

theorem walkFrom_text (s : State) (i : Int) (u : List Char) :
    (walkFrom s u).text = u ∧
      (tokensFrom s i u).map (fun t => (t.char, t.quoted)) = (walkFrom s u).marks := by
  induction u generalizing s i with
  | nil => exact ⟨rfl, rfl⟩
  | cons c u ih =>
    obtain ⟨htext, hmarks⟩ := ih (s.step c) (i + 1)
    rw [tokensFrom_cons, List.map_cons, hmarks]
    cases hq : s.quote with
    | some q =>
      rw [walkFrom_literal hq, Reading.text_extend, Reading.marks_extend, htext]
      simp [State.quotes, hq]
    | none =>
      obtain ⟨h, h'⟩ := Reading.start_begun (c := c) fun hc =>
        walkFrom_fst (State.step_quote_of_notQuote hq hc) u
      rw [walkFrom_code hq, h, h', htext]
      simp [State.quotes, hq]

def Region.isComment : Region → Bool
  | .lineComment => true
  | .blockComment _ => true
  | _ => false

/-- Where the walk over what is left stands while the script is read from a region. -/
def Region.left (r : Region) : Region :=
  if r.isComment then .code else r

def Reading.left (r : Region) (p : Reading) : Reading :=
  (if r.isComment then [] else p.1, p.2.filter Piece.isKept)

theorem Reading.left_eq {r : Region} (h : r.isComment = false) (p : Reading) :
    left r p = (p.1, p.2.filter Piece.isKept) := by
  simp [left, h]

theorem Region.isComment_ofState (s : State) : (ofState s).isComment = false := by
  unfold ofState
  split <;> rfl

theorem Region.quote_of_ofState_code {s : State} (h : ofState s = .code) : s.quote = none := by
  unfold ofState at h
  split at h
  · cases h
  · assumption

theorem Region.quote_of_ofState_literal {s : State} {q : Char} {escaped : Bool}
    (h : ofState s = .literal q escaped) : s.quote = some q ∧ s.escaped = escaped := by
  unfold ofState at h
  split at h
  · next hq => simp_all
  · cases h

theorem Piece.isKept_begun (c : Char) (t : List Char) : (begun c t).isKept = true := by
  unfold begun
  split <;> rfl

theorem walkFrom_stripFrom {r : Region} {s : State} (hs : s.IsSettled)
    (hr : Region.ofState s = r.left) (u : List Char) :
    walkFrom s (stripFrom r u) = (readingFrom r u).left r := by
  fun_induction readingFrom r u generalizing s with
  | case1 r => simp [stripFrom, walkFrom, Reading.left]
  | case2 q escaped c rest ih =>
    obtain ⟨hq, rfl⟩ := Region.quote_of_ofState_literal hr
    have hnext := Region.ofState_step_literal hq c
    have hleft := Region.isComment_ofState (s.step c)
    rw [hnext] at ih ⊢
    rw [stripFrom, walkFrom_literal hq, hnext, ih (hs.step c) (by simp [Region.left, hleft]),
      Reading.left_eq hleft]
    rfl
  -- As long as a comment is read the walk stands still, outside literals.
  | case3 star c rest ih =>
    have hq := Region.quote_of_ofState_code hr
    rw [stripFrom]
    refine Prod.ext (walkFrom_fst hq _) ?_
    rw [ih hs (by rw [hr]; split <;> rfl)]
    rfl
  | case4 rest ih =>
    have hq := Region.quote_of_ofState_code hr
    have hnext := Region.ofState_step_code hs hq '\n'
    rw [stripFrom, if_pos rfl, walkFrom_code hq, ih (hs.step _) hnext.symm]
    rfl
  | case5 c rest hc ih =>
    rw [stripFrom, if_neg hc]
    exact ih hs hr
  | case6 rest ih =>
    have hq := Region.quote_of_ofState_code hr
    rw [stripFrom]
    exact Prod.ext (walkFrom_fst hq _) (congrArg Prod.snd (ih hs hr))
  | case7 rest ih =>
    have hq := Region.quote_of_ofState_code hr
    rw [stripFrom]
    exact Prod.ext (walkFrom_fst hq _) (congrArg Prod.snd (ih hs hr))
  | case8 rest hblock hline ih =>
    have hq := Region.quote_of_ofState_code hr
    have hno := startsMark_eq_false_iff.mpr ⟨hblock, hline⟩
    rw [stripFrom_code_cons hno, if_pos rfl]
    exact Prod.ext (walkFrom_fst hq _) (congrArg Prod.snd (ih hs hr))
  | case9 c rest hblock hline hhash ih =>
    have hq := Region.quote_of_ofState_code hr
    have hno := startsMark_eq_false_iff.mpr ⟨hblock, hline⟩
    have hnext := Region.ofState_step_code hs hq c
    have hleft := Region.isComment_ofState (s.step c)
    rw [hnext] at ih ⊢
    rw [stripFrom_code_cons hno, if_neg hhash, walkFrom_code hq, hnext,
      ih (hs.step c) (by simp [Region.left, hleft]), Reading.left_eq hleft, Reading.left_eq rfl]
    simp [Reading.start, Piece.isKept_begun]

theorem walkPieces_stripComments (sql : List Char) :
    walkPieces (stripComments sql) = (readPieces sql).filter Piece.isKept := by
  rw [walkPieces, stripComments, walkFrom_stripFrom State.isSettled_initial rfl]
  rfl

theorem readPieces_text (sql : List Char) : (readPieces sql).flatMap Piece.text = sql := by
  have h := readingFrom_text .code sql
  rw [Reading.text, readingFrom_code_fst] at h
  exact h

theorem walkPieces_text (text : List Char) : (walkPieces text).flatMap Piece.text = text := by
  have h := (walkFrom_text .initial 0 text).1
  rw [Reading.text, walkFrom_fst rfl] at h
  exact h

theorem tokens_quoted (text : List Char) :
    (tokens text).map (fun t => (t.char, t.quoted)) = (walkPieces text).flatMap Piece.marks := by
  have h := (walkFrom_text .initial 0 text).2
  rw [Reading.marks, walkFrom_fst rfl] at h
  exact h

theorem flatMap_marks_filter (ps : List Piece) :
    (ps.filter Piece.isKept).flatMap Piece.marks = ps.flatMap Piece.marks := by
  induction ps with
  | nil => rfl
  | cons p ps ih => cases p <;> simp [List.filter_cons, Piece.isKept, Piece.marks, ih]

/-- The two readings of quotes agree. The pieces make up the script, and those that are no
comments make up the text that is left of it. The walk over that text finds just these pieces, the
same literals one by one, and the characters that it marks as quoted are those of the literals. -/
theorem scan_stripComments (sql : List Char) :
    (readPieces sql).flatMap Piece.text = sql ∧
      stripComments sql = ((readPieces sql).filter Piece.isKept).flatMap Piece.text ∧
      walkPieces (stripComments sql) = (readPieces sql).filter Piece.isKept ∧
      ∃ ts, scan (stripComments sql) 0 = .ok ts ∧
        ts.map (fun t => (t.char, t.quoted)) = (readPieces sql).flatMap Piece.marks := by
  have hwalk := walkPieces_stripComments sql
  refine ⟨readPieces_text sql, ?_, hwalk, tokens (stripComments sql), rfl, ?_⟩
  · rw [← hwalk, walkPieces_text]
  · rw [tokens_quoted, hwalk, flatMap_marks_filter]

/-- The quote in the comment opens nothing, and what stands on both sides is not joined. -/
example : readPieces "'a\\''/*'*/'b'".toList =
    [.literal "'a\\''".toList, .comment "/*'*/".toList, .literal "'b'".toList] := by
  decide +kernel

end SchemaAtlas.Sql
