import SchemaAtlas.Proofs.Sql.Quiet
import SchemaAtlas.Proofs.Text.Spelling
import SchemaAtlas.Sql.Pattern

/-! # Identifiers

A name may stand bare, in backticks, in double quotes or in brackets. In each case it is read as
the name, and the walk passes over it.
-/
namespace SchemaAtlas.Sql
open Text

/-- What may stand around a name. -/
inductive Quoting where
  | bare
  | backticks
  | doubleQuotes
  | brackets
  deriving DecidableEq, Repr

namespace Quoting

def opening : Quoting → List Char
  | .bare => []
  | .backticks => ['`']
  | .doubleQuotes => ['"']
  | .brackets => ['[']

def closing : Quoting → List Char
  | .bare => []
  | .backticks => ['`']
  | .doubleQuotes => ['"']
  | .brackets => [']']

/-- The identifier for a name. -/
def wrap (q : Quoting) (name : List Char) : List Char :=
  q.opening ++ (name ++ q.closing)

theorem wrap_bare (name : List Char) : Quoting.bare.wrap name = name :=
  List.append_nil name

theorem mem_wrap {q : Quoting} {name : List Char} {c : Char} (h : c ∈ q.wrap name) :
    c ∈ name ∨ c ∈ ['`', '"', '[', ']'] := by
  rcases List.mem_append.mp h with h | h
  · cases q <;> simp_all [opening]
  · rcases List.mem_append.mp h with h | h
    · exact .inl h
    · cases q <;> simp_all [closing]

end Quoting

theorem dropOne_of_notMem {cs : List Char} {c : Char} (h : c ∉ cs) (s : List Char) :
    dropOne cs (c :: s) = c :: s := by
  rw [dropOne, if_neg (by simpa using h)]

theorem step_initial_of_isWord {c : Char} (h : isWord c = true) :
    State.initial.step c = .initial := by
  have hno : ∀ d, isWord d = false → c ≠ d := fun d => ne_of_isWord h
  have hquote : isQuote c = false := by
    simp only [isQuote, Bool.or_eq_false_iff, decide_eq_false_iff_not]
    exact ⟨⟨hno _ (by decide +kernel), hno _ (by decide +kernel)⟩, hno _ (by decide +kernel)⟩
  simp [State.step, State.stepPlain, State.initial, hquote, hno '(' (by decide +kernel),
    hno ')' (by decide +kernel)]

section
variable {name : List Char} (hn : IsName name)
include hn

theorem notMem_quotes {c : Char} (hc : c ∈ name) : c ∉ ['`', '"', '[', ']'] := by
  have hquotes : ['`', '"', '[', ']'].all (fun d => !isWord d) = true := by decide +kernel
  intro hm
  have hno := List.all_eq_true.mp hquotes c hm
  rw [hn.word c hc] at hno
  cases hno

theorem dropOne_opening (q : Quoting) (rest : List Char) :
    dropOne ['`', '"', '['] (q.opening ++ (name ++ rest)) = name ++ rest := by
  obtain ⟨c, u, rfl⟩ := List.exists_cons_of_ne_nil hn.ne_nil
  have hsub : ['`', '"', '['] ⊆ ['`', '"', '[', ']'] := by simp
  have hc : c ∉ ['`', '"', '['] := fun hm => notMem_quotes hn List.mem_cons_self (hsub hm)
  cases q with
  | bare => exact dropOne_of_notMem hc _
  | _ => rfl

omit hn in
theorem dropOne_closing (q : Quoting) {rest : List Char} (hr : separates rest = true) :
    dropOne ['`', '"', ']'] (q.closing ++ rest) = rest := by
  cases q with
  | bare =>
    cases rest with
    | nil => rfl
    | cons c rest =>
      have hall : ['`', '"', ']'].all (fun d => !isSeparator d) = true := by decide
      refine dropOne_of_notMem (fun hm => ?_) rest
      have hno := List.all_eq_true.mp hall c hm
      rw [show isSeparator c = true from hr] at hno
      cases hno
  | _ => rfl

omit hn in
/-- Whatever comes after a name, it is no word character. -/
theorem isWord_head_closing (q : Quoting) {rest : List Char} (hr : separates rest = true) :
    ∀ d ∈ (q.closing ++ rest).head?, isWord d = false := by
  intro d hd
  cases q with
  | bare =>
    cases rest with
    | nil => cases hd
    | cons e rest =>
      cases hd
      exact isWord_of_isSeparator hr
  | _ =>
    cases hd
    decide +kernel

/-- A name is read without the marks around it, which need not match. -/
theorem identifier?_quoted (q q' : Quoting) {rest : List Char} (hr : separates rest = true) :
    identifier? (q.opening ++ (name ++ (q'.closing ++ rest))) = some (name, rest) := by
  have hclosing := dropOne_closing q' hr
  have hafter := isWord_head_closing q' hr
  rw [identifier?, dropOne_opening hn, List.takeWhile_append_of_pos hn.word,
    List.dropWhile_append_of_pos hn.word]
  generalize q'.closing ++ rest = v at hclosing hafter
  have htake : v.takeWhile isWord = [] := by
    cases v with
    | nil => rfl
    | cons d v => exact List.takeWhile_cons_of_neg (by simp [hafter d rfl])
  have hdrop : v.dropWhile isWord = v := by
    cases v with
    | nil => rfl
    | cons d v => exact List.dropWhile_cons_of_neg (by simp [hafter d rfl])
  rw [htake, hdrop, hclosing, List.append_nil]
  obtain ⟨c, u, rfl⟩ := List.exists_cons_of_ne_nil hn.ne_nil
  rfl

/-- An identifier is read as its name. -/
theorem identifier?_wrap (q : Quoting) {rest : List Char} (hr : separates rest = true) :
    identifier? (q.wrap name ++ rest) = some (name, rest) := by
  rw [Quoting.wrap, List.append_assoc, List.append_assoc]
  exact identifier?_quoted hn q q hr

theorem bareName_wrap (q : Quoting) : bareName (q.wrap name) = name := by
  have hkeep : name.filter (fun c => c ∉ ['`', '"', '[', ']']) = name :=
    List.filter_eq_self.mpr fun c hc => decide_eq_true (notMem_quotes hn hc)
  rw [bareName, Quoting.wrap, List.filter_append, List.filter_append, hkeep]
  cases q <;> simp [Quoting.opening, Quoting.closing]

theorem wrap_not_blank (q : Quoting) : ∀ c ∈ q.wrap name, isBlank c = false := by
  intro c hc
  rcases Quoting.mem_wrap hc with hc | hc
  · exact isBlank_of_isWord (hn.word c hc)
  · have hall : ['`', '"', '[', ']'].all (fun d => !isBlank d) = true := by decide
    simpa using List.all_eq_true.mp hall c hc

theorem notMem_wrap (q : Quoting) {d : Char} (hd : isWord d = false)
    (hq : d ∉ ['`', '"', '[', ']']) : d ∉ q.wrap name := by
  intro hm
  rcases Quoting.mem_wrap hm with hm | hm
  · exact hn.notMem hd hm
  · exact hq hm

theorem wrap_ne_nil (q : Quoting) : q.wrap name ≠ [] := by
  intro h
  have hname := (List.append_eq_nil_iff.mp (List.append_eq_nil_iff.mp h).2).1
  exact hn.ne_nil hname

theorem startsSolid_wrap (q : Quoting) : startsSolid (q.wrap name) = true := by
  obtain ⟨c, u, hcons⟩ := List.exists_cons_of_ne_nil (wrap_ne_nil hn q)
  have hc := wrap_not_blank hn q c (hcons ▸ List.mem_cons_self)
  rw [hcons, startsSolid, hc]
  rfl

theorem endsSolid_wrap (q : Quoting) : endsSolid (q.wrap name) = true := by
  obtain ⟨c, u, hcons⟩ :=
    List.exists_cons_of_ne_nil (mt List.reverse_eq_nil_iff.mp (wrap_ne_nil hn q))
  have hc := wrap_not_blank hn q c (List.mem_reverse.mp (hcons ▸ List.mem_cons_self))
  rw [endsSolid, hcons, startsSolid, hc]
  rfl

theorem isSegment_wrap (q : Quoting) {stop : Char → Bool}
    (hs : ∀ c, isWord c = true → stop c = false) (hl : stop '[' = false) (hr : stop ']' = false) :
    IsSegment stop (q.wrap name) := by
  have hback := isContent_of_notMem (hn.notMem (d := '`') (by decide +kernel))
    (hn.notMem (d := '\\') (by decide +kernel))
  have hdouble := isContent_of_notMem (hn.notMem (d := '"') (by decide +kernel))
    (hn.notMem (d := '\\') (by decide +kernel))
  have hname : ∀ c ∈ name, State.initial.step c = .initial ∧ stop c = false := fun c hc =>
    ⟨step_initial_of_isWord (hn.word c hc), hs c (hn.word c hc)⟩
  cases q with
  | bare =>
    rw [Quoting.wrap_bare]
    exact IsSegment.plain hname
  | backticks => exact IsSegment.literal (by decide) hback
  | doubleQuotes => exact IsSegment.literal (by decide) hdouble
  | brackets =>
    have hopening : ∀ c ∈ ['['], State.initial.step c = .initial ∧ stop c = false :=
      List.forall_mem_singleton.mpr ⟨rfl, hl⟩
    have hclosing : ∀ c ∈ [']'], State.initial.step c = .initial ∧ stop c = false :=
      List.forall_mem_singleton.mpr ⟨rfl, hr⟩
    exact IsSegment.plain (List.forall_mem_append.mpr
      ⟨hopening, List.forall_mem_append.mpr ⟨hname, hclosing⟩⟩)

end

end SchemaAtlas.Sql
