import SchemaAtlas.Proofs.Sql.Regions
import SchemaAtlas.Sql.Script

/-! # Comments put into a script

The removal of comments goes through a script by single characters of literals and code, and over
each comment at once. A comment that is put where it comes to stand outside literals leaves no
trace, whatever it holds. There is one exception: right before the end of a line comment no block
comment can begin, so a line feed in what is put there ends the line comment early.
-/
namespace SchemaAtlas.Sql

def lineMarks : List (List Char) :=
  [['#'], ['-', '-']]

/-- How the removal of comments gets from a region before `u ++ v` to a region before `v`. It goes
to the end of a line comment, but not past the line feed there. -/
inductive Passes (v : List Char) : Region → List Char → Region → Prop
  | stay (r : Region) : Passes v r [] r
  | literal {q c : Char} {escaped : Bool} {u : List Char} {r : Region}
      (h : Passes v (.afterLiteral q escaped c) u r) : Passes v (.literal q escaped) (c :: u) r
  | code {c : Char} {u : List Char} {r : Region} (hmark : startsMark c (u ++ v) = false)
      (hhash : c ≠ '#') (h : Passes v (.afterCode c) u r) : Passes v .code (c :: u) r
  | block {b u : List Char} {r : Region} (hb : ¬ ['*', '/'] <:+: b) (h : Passes v .code u r) :
      Passes v .code ('/' :: '*' :: (b ++ '*' :: '/' :: u)) r
  | line {m b u : List Char} {r : Region} (hm : m ∈ lineMarks) (hb : '\n' ∉ b)
      (hend : (u ++ v).head? = some '\n') (h : Passes v .code u r) :
      Passes v .code (m ++ (b ++ u)) r

theorem startsMark_of_append {c : Char} {u v : List Char} (h : startsMark c (u ++ v) = false) :
    startsMark c u = false := by
  cases u with
  | nil => simp [startsMark]
  | cons d u => simpa [startsMark] using h

/-! Both ways to read a text, what it leaves and where it ends, go over a comment at once. -/

theorem read_blockBody {b : List Char} (hb : ¬ ['*', '/'] <:+: b) (star : Bool)
    (hstar : star = true → b.head? ≠ some '/') (w : List Char) :
    stripFrom (.blockComment star) (b ++ '*' :: '/' :: w) = stripFrom .code w ∧
      regionAfter (.blockComment star) (b ++ '*' :: '/' :: w) = regionAfter .code w := by
  induction b generalizing star with
  | nil => simp [stripFrom, regionAfter]
  | cons c b ih =>
    have htail : ¬ ['*', '/'] <:+: b := fun h => hb (List.infix_cons h)
    have hopen : (star && c = '/') = false := by
      cases star with
      | false => rfl
      | true => simpa using hstar rfl
    have hnext : decide (c = '*') = true → b.head? ≠ some '/' := by
      intro hc hd
      obtain ⟨u, rfl⟩ := List.head?_eq_some_iff.mp hd
      apply hb
      rw [of_decide_eq_true hc]
      exact ⟨[], u, rfl⟩
    rw [List.cons_append, stripFrom, regionAfter, hopen]
    exact ih htail _ hnext

theorem read_block {b : List Char} (hb : ¬ ['*', '/'] <:+: b) (w : List Char) :
    stripFrom .code ('/' :: '*' :: (b ++ '*' :: '/' :: w)) = stripFrom .code w ∧
      regionAfter .code ('/' :: '*' :: (b ++ '*' :: '/' :: w)) = regionAfter .code w := by
  rw [stripFrom, regionAfter]
  exact read_blockBody hb false (by simp) w

theorem read_lineBody {b : List Char} (hb : '\n' ∉ b) (w : List Char) :
    stripFrom .lineComment (b ++ w) = stripFrom .lineComment w ∧
      regionAfter .lineComment (b ++ w) = regionAfter .lineComment w := by
  induction b with
  | nil => simp
  | cons c b ih =>
    simp only [List.mem_cons, not_or] at hb
    have hc : c ≠ '\n' := Ne.symm hb.1
    rw [List.cons_append, stripFrom, regionAfter, if_neg hc, if_neg hc]
    exact ih hb.2

theorem read_line {m b : List Char} (hm : m ∈ lineMarks) (hb : '\n' ∉ b) (w : List Char) :
    stripFrom .code (m ++ (b ++ w)) = stripFrom .lineComment w ∧
      regionAfter .code (m ++ (b ++ w)) = regionAfter .lineComment w := by
  have hbody := read_lineBody hb w
  simp only [lineMarks, List.mem_cons, List.not_mem_nil, or_false] at hm
  rcases hm with rfl | rfl
  · have hno : startsMark '#' (b ++ w) = false := by simp [startsMark]
    rw [List.singleton_append, stripFrom_code_cons hno, regionAfter_code_cons hno]
    exact hbody
  · simpa [stripFrom, regionAfter] using hbody

theorem read_lineEnd (w : List Char) :
    stripFrom .lineComment ('\n' :: w) = stripFrom .code ('\n' :: w) ∧
      regionAfter .lineComment ('\n' :: w) = regionAfter .code ('\n' :: w) := by
  have hno : startsMark '\n' w = false := by simp [startsMark]
  rw [stripFrom_code_cons hno, regionAfter_code_cons hno, stripFrom, regionAfter]
  exact ⟨rfl, rfl⟩

namespace Passes

variable {u v : List Char} {r r' : Region}

/-- No comment mark is cut in half where the removal of comments comes to stand. -/
theorem stripFrom_append (h : Passes v r u r') :
    stripFrom r (u ++ v) = stripFrom r u ++ stripFrom (regionAfter r u) v := by
  induction h with
  | stay r => cases r <;> simp [stripFrom, regionAfter]
  | literal _ ih => simp [stripFrom, regionAfter, ih]
  | @code c u r hmark hhash _ ih =>
    have hno := startsMark_of_append hmark
    rw [List.cons_append, stripFrom_code_cons hmark, stripFrom_code_cons hno,
      regionAfter_code_cons hno, if_neg hhash, if_neg hhash, if_neg hhash, ih, List.cons_append]
  | @block b u r hb _ ih =>
    have hall := read_block hb (u ++ v)
    have hpart := read_block hb u
    simp only [List.cons_append, List.append_assoc] at hall ⊢
    rw [hall.1, hpart.1, hpart.2, ih]
  | @line m b u r hm hb hend _ ih =>
    have hall := read_line hm hb (u ++ v)
    have hpart := read_line hm hb u
    rw [List.append_assoc, List.append_assoc, hall.1, hpart.1, hpart.2]
    -- Either the text stops before the line feed, or it goes on with it as in code.
    cases u with
    | nil => simp [stripFrom, regionAfter]
    | cons c u =>
      obtain rfl : c = '\n' := by simpa using hend
      rw [List.cons_append] at ih ⊢
      rw [(read_lineEnd _).1, (read_lineEnd _).1, (read_lineEnd _).2, ih]

/-- The text passed over ends in the region that it is left for, or before the end of a line
comment. -/
theorem regionAfter_eq (h : Passes v r u r') :
    regionAfter r u = r' ∨
      regionAfter r u = .lineComment ∧ r' = .code ∧ v.head? = some '\n' := by
  induction h with
  | stay r => exact .inl rfl
  | literal _ ih => simpa [regionAfter] using ih
  | @code c u r hmark hhash _ ih =>
    have hno := startsMark_of_append hmark
    rw [regionAfter_code_cons hno, if_neg hhash]
    exact ih
  | @block b u r hb _ ih =>
    rw [(read_block hb u).2]
    exact ih
  | @line m b u r hm hb hend _ ih =>
    rw [(read_line hm hb u).2]
    cases u with
    | nil =>
      rcases ih with rfl | ⟨hcode, _⟩
      · exact .inr ⟨rfl, rfl, hend⟩
      · cases hcode
    | cons c u =>
      obtain rfl : c = '\n' := by simpa using hend
      rw [(read_lineEnd _).2]
      exact ih

/-- A block comment leaves no trace, but before the end of a line comment it may not hold a line
feed. -/
theorem stripComments_block (h : Passes v .code u .code) {c : List Char}
    (hc : ¬ ['*', '/'] <:+: c) (hline : regionAfter .code u = .lineComment → '\n' ∉ c) :
    stripComments (u ++ '/' :: '*' :: (c ++ '*' :: '/' :: v)) = stripComments (u ++ v) := by
  rw [stripComments, stripComments, Sql.stripFrom_append _ _ rfl, h.stripFrom_append]
  congr 1
  rcases h.regionAfter_eq with hr | ⟨hr, _⟩
  · rw [hr]
    exact (read_block hc v).1
  · have hbody : '\n' ∉ '/' :: '*' :: (c ++ ['*', '/']) := by simpa using hline hr
    rw [hr]
    simpa using (read_lineBody hbody v).1

theorem stripComments_line (h : Passes v .code u .code) {d : List Char} (hd : '\n' ∉ d)
    (hv : v.head? = some '\n') :
    stripComments (u ++ '#' :: (d ++ v)) = stripComments (u ++ v) := by
  rw [stripComments, stripComments, Sql.stripFrom_append _ _ rfl, h.stripFrom_append]
  congr 1
  obtain ⟨w, rfl⟩ := List.head?_eq_some_iff.mp hv
  rcases h.regionAfter_eq with hr | ⟨hr, _⟩
  · have hline := (read_line (m := ['#']) (by simp [lineMarks]) hd ('\n' :: w)).1
    rw [hr, ← (read_lineEnd w).1]
    exact hline
  · have hbody : '\n' ∉ '#' :: d := by simpa using hd
    rw [hr]
    exact (read_lineBody hbody _).1

end Passes

/-- Only what is left of a script without its comments is read. -/
theorem readScript_congr {s t : String} (h : stripComments s.toList = stripComments t.toList) :
    readScript s = readScript t := by
  rw [readScript, readScript, statements, statements, h]

/-- A comment put where the removal of comments comes to stand outside literals leaves no trace:
neither in the text nor in the graph and the notes that are read from it. -/
theorem readScript_insert (u v : String) (h : Passes v.toList .code u.toList .code) :
    (∀ c : String, ¬ "*/".toList <:+: c.toList →
      (regionAfter .code u.toList = .lineComment → '\n' ∉ c.toList) →
      stripComments (u ++ "/*" ++ c ++ "*/" ++ v).toList = stripComments (u ++ v).toList ∧
        readScript (u ++ "/*" ++ c ++ "*/" ++ v) = readScript (u ++ v)) ∧
    ∀ d : String, '\n' ∉ d.toList → v.toList.head? = some '\n' →
      stripComments (u ++ "#" ++ d ++ v).toList = stripComments (u ++ v).toList ∧
        readScript (u ++ "#" ++ d ++ v) = readScript (u ++ v) := by
  constructor
  · intro c hc hline
    have hstrip : stripComments (u ++ "/*" ++ c ++ "*/" ++ v).toList =
        stripComments (u ++ v).toList := by
      simpa using h.stripComments_block hc hline
    exact ⟨hstrip, readScript_congr hstrip⟩
  · intro d hd hv
    have hstrip : stripComments (u ++ "#" ++ d ++ v).toList = stripComments (u ++ v).toList := by
      simpa using h.stripComments_line hd hv
    exact ⟨hstrip, readScript_congr hstrip⟩

theorem readScript_insert_awkward :
    Passes "\n;".toList .code "'#'/* ( */".toList .code ∧
      stripComments "'#'/* ( *//*'; (\n--*/\n;".toList = stripComments "'#'/* ( */\n;".toList ∧
      readScript "'#'/* ( *//*'; (\n--*/\n;" = readScript "'#'/* ( */\n;" ∧
      stripComments "'#'/* ( */#'; (\n;".toList = stripComments "'#'/* ( */\n;".toList ∧
      readScript "'#'/* ( */#'; (\n;" = readScript "'#'/* ( */\n;" := by
  have h : Passes "\n;".toList .code "'#'/* ( */".toList .code :=
    .code rfl (by decide) (.literal (.literal (.block (b := " ( ".toList) (by decide) (.stay _))))
  obtain ⟨hblock, hline⟩ := readScript_insert "'#'/* ( */" "\n;" h
  obtain ⟨hstrip, hread⟩ := hblock "'; (\n--" (by decide +kernel) (by decide)
  obtain ⟨hstrip', hread'⟩ := hline "'; (" (by decide) rfl
  exact ⟨h, hstrip, hread, hstrip', hread'⟩

/-- Before the end of a line comment a line feed in a block comment lets out what comes after it,
here a table. -/
theorem readScript_insert_lineEnd :
    Passes "\n".toList .code "--x".toList .code ∧
      ¬ "*/".toList <:+: "\nCREATE TABLE t (a INT);".toList ∧
      stripComments ("--x" ++ "/*" ++ "\nCREATE TABLE t (a INT);" ++ "*/" ++ "\n").toList ≠
        stripComments ("--x" ++ "\n").toList ∧
      parse ("--x" ++ "/*" ++ "\nCREATE TABLE t (a INT);" ++ "*/" ++ "\n") ≠
        parse ("--x" ++ "\n") := by
  refine ⟨?_, by decide +kernel, by decide +kernel, by decide +kernel⟩
  exact .line (m := "--".toList) (b := "x".toList) (by decide) (by decide) rfl (.stay _)

end SchemaAtlas.Sql
