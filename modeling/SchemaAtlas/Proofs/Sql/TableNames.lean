import SchemaAtlas.Proofs.Sql.Headers
import SchemaAtlas.Proofs.Sql.Identifiers
import SchemaAtlas.Proofs.Sql.Parentheses
import SchemaAtlas.Proofs.Sql.WellFormed
import SchemaAtlas.Proofs.Text.Pieces

/-! # The names of tables

A header ends with the name of the table, and the body begins at the first parenthesis after it.
Nothing is asked of the text in between. So a name that goes on there is cut, and a query that has
parentheses is taken for a body.
-/
namespace SchemaAtlas.Sql
open Text

/-! What is read is the beginning of the text. -/

/-- Keywords in any letter case, with blanks between each two. -/
inductive IsFolded : List (List Char) → List Char → Prop
  | last {kw w : List Char} (hw : w.map caseless = kw) : IsFolded [kw] w
  | cons {kw w b u : List Char} {kws : List (List Char)} (hw : w.map caseless = kw)
      (hb : IsGap b) (hu : IsFolded kws u) : IsFolded (kw :: kws) (w ++ (b ++ u))

theorem keyword?_eq_some_iff {kw s rest : List Char} :
    keyword? kw s = some rest ↔ ∃ w, w.map caseless = kw ∧ s = w ++ rest := by
  constructor
  · intro h
    induction kw generalizing s with
    | nil => exact ⟨[], rfl, Option.some.inj h⟩
    | cons k kw ih =>
      cases s with
      | nil => cases h
      | cons c s =>
        rw [keyword?] at h
        split at h
        · next hc =>
          obtain ⟨w, hw, rfl⟩ := ih h
          exact ⟨c :: w, by rw [List.map_cons, hc, hw], rfl⟩
        · cases h
  · rintro ⟨w, rfl, rfl⟩
    induction w with
    | nil => rfl
    | cons c w ih =>
      rw [List.map_cons, List.cons_append, keyword?, if_pos rfl]
      exact ih

theorem exists_gap {s rest : List Char} (h : afterBlanks? s = some rest) :
    ∃ b, IsGap b ∧ s = b ++ rest := by
  cases s with
  | nil => cases h
  | cons c s =>
    rw [afterBlanks?] at h
    split at h
    · next hc =>
      have hrest : stripStart (c :: s) = rest := by
        rw [stripStart_of_blank hc]
        exact Option.some.inj h
      refine ⟨(c :: s).takeWhile isBlank, ⟨?_, List.all_takeWhile⟩, ?_⟩
      · rw [List.takeWhile_cons_of_pos hc]
        exact List.cons_ne_nil _ _
      · rw [← hrest, stripStart, List.takeWhile_append_dropWhile]
    · cases h

theorem exists_isFolded {kw s rest : List Char} {kws : List (List Char)}
    (h : phrase? (kw :: kws) s = some rest) : ∃ w, IsFolded (kw :: kws) w ∧ s = w ++ rest := by
  induction kws generalizing kw s with
  | nil =>
    obtain ⟨w, hw, hs⟩ := keyword?_eq_some_iff.mp h
    exact ⟨w, .last hw, hs⟩
  | cons kw' kws ih =>
    obtain ⟨x, hfirst, h⟩ := Option.bind_eq_some_iff.mp h
    obtain ⟨y, hgap, hmore⟩ := Option.bind_eq_some_iff.mp h
    obtain ⟨w, hw, rfl⟩ := keyword?_eq_some_iff.mp hfirst
    obtain ⟨b, hb, rfl⟩ := exists_gap hgap
    obtain ⟨u, hu, rfl⟩ := ih hmore
    exact ⟨w ++ (b ++ u), .cons hw hb hu, by rw [List.append_assoc, List.append_assoc]⟩

namespace IsFolded

variable {kws : List (List Char)} {w : List Char} (h : IsFolded kws w)

theorem startsSolid_of_map {kw : List Char} (hkw : startsSolid kw = true) {w : List Char}
    (hw : w.map caseless = kw) : startsSolid w = true := by
  subst hw
  cases w with
  | nil => cases hkw
  | cons c w =>
    rw [List.map_cons, startsSolid, Bool.not_eq_true'] at hkw
    rw [startsSolid, Bool.not_eq_true']
    cases hc : isBlank c with
    | false => rfl
    | true =>
      rw [caseless_of_isSeparator (isSeparator_of_isBlank hc), hc] at hkw
      cases hkw

include h

theorem startsSolid (hk : ∀ kw ∈ kws, startsSolid kw = true) : startsSolid w = true := by
  cases h with
  | last hw => exact startsSolid_of_map (hk _ List.mem_cons_self) hw
  | cons hw hb hu => exact startsSolid_append (startsSolid_of_map (hk _ List.mem_cons_self) hw) _

theorem phrase? (hk : ∀ kw ∈ kws, Text.startsSolid kw = true) (rest : List Char) :
    phrase? kws (w ++ rest) = some rest := by
  induction h with
  | last hw => exact keyword?_eq_some_iff.mpr ⟨_, hw, rfl⟩
  | @cons kw w b u kws hw hb hu ih =>
    obtain ⟨_, hk'⟩ := List.forall_mem_cons.mp hk
    obtain ⟨kw', more, rfl⟩ : ∃ kw' more, kws = kw' :: more := by cases hu <;> exact ⟨_, _, rfl⟩
    have hword : keyword? kw (w ++ (b ++ (u ++ rest))) = some (b ++ (u ++ rest)) :=
      keyword?_eq_some_iff.mpr ⟨w, hw, rfl⟩
    have hgap := afterBlanks?_append hb (hu.startsSolid hk') rest
    rw [List.append_assoc, List.append_assoc]
    change (keyword? kw _).bind (fun s => (afterBlanks? s).bind (Text.phrase? (kw' :: more))) = _
    rw [hword, Option.bind_some, hgap, Option.bind_some]
    exact ih hk'

theorem notMem {c : Char} (hblank : isBlank c = false) (hc : ∀ kw ∈ kws, caseless c ∉ kw) :
    c ∉ w := by
  have hword : ∀ {kw w : List Char}, w.map caseless = kw → caseless c ∉ kw → c ∉ w := by
    rintro kw w rfl hno hm
    exact hno (List.mem_map_of_mem hm)
  induction h with
  | last hw => exact hword hw (hc _ List.mem_cons_self)
  | cons hw hb hu ih =>
    obtain ⟨hfirst, hmore⟩ := List.forall_mem_cons.mp hc
    have hgap := notMem_of_allBlank hb.blank hblank
    simp only [List.mem_append, not_or]
    exact ⟨hword hw hfirst, hgap, ih hmore⟩

end IsFolded

/-- What stands before the name of a table. -/
inductive IsPreamble : List Char → Prop
  | plain {w b : List Char} (hw : IsFolded ["CREATE".toList, "TABLE".toList] w) (hb : IsGap b) :
      IsPreamble (w ++ b)
  | conditional {w b v d : List Char} (hw : IsFolded ["CREATE".toList, "TABLE".toList] w)
      (hb : IsGap b) (hv : IsFolded ["IF".toList, "NOT".toList, "EXISTS".toList] v)
      (hd : IsGap d) : IsPreamble (w ++ (b ++ (v ++ d)))

theorem IsPreamble.startsSolid {x : List Char} (h : IsPreamble x) : startsSolid x = true := by
  cases h with
  | plain hw hb => exact startsSolid_append (hw.startsSolid (by decide)) _
  | conditional hw hb hv hd => exact startsSolid_append (hw.startsSolid (by decide)) _

theorem IsPreamble.paren_notMem {x : List Char} (h : IsPreamble x) : '(' ∉ x := by
  have hword : ∀ {kws : List (List Char)} {w : List Char}, IsFolded kws w →
      (∀ kw ∈ kws, caseless '(' ∉ kw) → '(' ∉ w := fun hw hk => hw.notMem (by decide) hk
  have hgap : ∀ {b : List Char}, IsGap b → '(' ∉ b := fun hb =>
    notMem_of_allBlank hb.blank (by decide)
  cases h with
  | plain hw hb =>
    rw [List.mem_append, not_or]
    exact ⟨hword hw (by decide), hgap hb⟩
  | conditional hw hb hv hd =>
    rw [List.mem_append, List.mem_append, List.mem_append, not_or, not_or, not_or]
    exact ⟨hword hw (by decide), hgap hb, hword hv (by decide), hgap hd⟩

theorem exists_opening (s : List Char) :
    ∃ q : Quoting, s = q.opening ++ dropOne ['`', '"', '['] s := by
  cases s with
  | nil => exact ⟨.bare, rfl⟩
  | cons c s =>
    rw [dropOne]
    split
    · next hc =>
      simp only [List.contains_iff_mem, List.mem_cons, List.not_mem_nil, or_false] at hc
      rcases hc with rfl | rfl | rfl
      · exact ⟨.backticks, rfl⟩
      · exact ⟨.doubleQuotes, rfl⟩
      · exact ⟨.brackets, rfl⟩
    · exact ⟨.bare, rfl⟩

theorem exists_closing (s : List Char) :
    ∃ q : Quoting, s = q.closing ++ dropOne ['`', '"', ']'] s := by
  cases s with
  | nil => exact ⟨.bare, rfl⟩
  | cons c s =>
    rw [dropOne]
    split
    · next hc =>
      simp only [List.contains_iff_mem, List.mem_cons, List.not_mem_nil, or_false] at hc
      rcases hc with rfl | rfl | rfl
      · exact ⟨.backticks, rfl⟩
      · exact ⟨.doubleQuotes, rfl⟩
      · exact ⟨.brackets, rfl⟩
    · exact ⟨.bare, rfl⟩

theorem exists_quoted {s name rest : List Char} (h : identifier? s = some (name, rest)) :
    ∃ q q' : Quoting, s = q.opening ++ (name ++ (q'.closing ++ rest)) := by
  unfold identifier? at h
  simp only at h
  split at h
  · cases h
  · obtain ⟨hname, hrest⟩ := Prod.mk.inj (Option.some.inj h)
    obtain ⟨q, hq⟩ := exists_opening s
    obtain ⟨q', hq'⟩ := exists_closing ((dropOne ['`', '"', '['] s).dropWhile isWord)
    refine ⟨q, q', ?_⟩
    rw [← hrest, ← hq', ← hname, List.takeWhile_append_dropWhile, ← hq]

/-- A text with a header is what stands before the name, the name between its marks, and the
rest. -/
theorem exists_preamble {s name rest : List Char} (h : tableHeader? s = some (name, rest)) :
    ∃ x, ∃ q q' : Quoting, IsPreamble x ∧
      s = x ++ (q.opening ++ (name ++ (q'.closing ++ rest))) := by
  obtain ⟨y, hcreate, h⟩ := Option.bind_eq_some_iff.mp h
  obtain ⟨z, hgap, hname⟩ := Option.bind_eq_some_iff.mp h
  obtain ⟨w, hw, rfl⟩ := exists_isFolded hcreate
  obtain ⟨b, hb, rfl⟩ := exists_gap hgap
  rcases Option.or_eq_some_iff.mp hname with hname | ⟨_, hname⟩
  · obtain ⟨t, hcondition, hquoted⟩ := Option.bind_eq_some_iff.mp hname
    obtain ⟨r, hphrase, hgap'⟩ := Option.bind_eq_some_iff.mp hcondition
    obtain ⟨v, hv, rfl⟩ := exists_isFolded hphrase
    obtain ⟨d, hd, rfl⟩ := exists_gap hgap'
    obtain ⟨q, q', rfl⟩ := exists_quoted hquoted
    exact ⟨_, q, q', .conditional hw hb hv hd, by simp only [List.append_assoc]⟩
  · obtain ⟨q, q', rfl⟩ := exists_quoted hname
    exact ⟨_, q, q', .plain hw hb, by simp only [List.append_assoc]⟩

/-! From its own text alone a header is read in the same way. -/

section Quoted
variable {name : List Char} (hn : IsName name) (q q' : Quoting)
include hn

theorem startsSolid_quoted (rest : List Char) :
    startsSolid (q.opening ++ (name ++ rest)) = true := by
  obtain ⟨c, u, rfl⟩ := List.exists_cons_of_ne_nil hn.ne_nil
  cases q with
  | bare =>
    have hc := isBlank_of_isWord (hn.word c List.mem_cons_self)
    rw [Quoting.opening, List.nil_append, List.cons_append, startsSolid, hc]
    rfl
  | _ => rfl

theorem endsSolid_quoted (u : List Char) : endsSolid (u ++ (name ++ q'.closing)) = true := by
  refine endsSolid_append _ ?_
  cases q' with
  | bare => exact endsSolid_wrap hn .bare
  | _ => exact endsSolid_append _ (by decide)

theorem ifNotExists?_quoted : ifNotExists? (q.opening ++ (name ++ q'.closing)) = none := by
  have hphrase : phrase? ["IF".toList, "NOT".toList, "EXISTS".toList]
      (q.opening ++ (name ++ q'.closing)) = none := by
    refine Option.eq_none_iff_forall_ne_some.mpr fun x hx => ?_
    cases q with
    | bare =>
      have hout : ∀ c ∈ q'.closing.head?, caseless c ∉ letters := by
        intro c hc
        cases q' <;> cases hc <;> decide
      obtain ⟨s, hgap, _⟩ := phrase?_of_name hn.word (by decide) hout hx
      cases q' <;> cases hgap
    | _ => cases hx
  rw [ifNotExists?, hphrase]
  rfl

theorem IsPreamble.tableHeader? {x : List Char} (hx : IsPreamble x) :
    tableHeader? (x ++ (q.opening ++ (name ++ q'.closing))) = some (name, []) := by
  have hname := identifier?_quoted hn q q' (show separates [] = true from rfl)
  rw [List.append_nil] at hname
  have hstarts := startsSolid_quoted hn q
  cases hx with
  | @plain w b hw hb =>
    have hgap := afterBlanks?_append hb (hstarts q'.closing) []
    rw [List.append_nil] at hgap
    rw [List.append_assoc, Sql.tableHeader?, hw.phrase? (by decide)]
    simp only [Option.bind_eq_bind, Option.bind_some, hgap, ifNotExists?_quoted hn q q',
      Option.bind_none, Option.none_or, hname]
  | @conditional w b v d hw hb hv hd =>
    have hgap := afterBlanks?_append hb (hv.startsSolid (by decide))
      (d ++ (q.opening ++ (name ++ q'.closing)))
    have hgap' := afterBlanks?_append hd (hstarts q'.closing) []
    rw [List.append_nil] at hgap'
    have hcondition : ifNotExists? (v ++ (d ++ (q.opening ++ (name ++ q'.closing)))) =
        some (q.opening ++ (name ++ q'.closing)) := by
      rw [ifNotExists?, hv.phrase? (by decide)]
      exact hgap'
    rw [List.append_assoc, List.append_assoc, List.append_assoc, Sql.tableHeader?,
      hw.phrase? (by decide)]
    simp only [Option.bind_eq_bind, Option.bind_some, hgap, hcondition, hname, Option.some_or]

end Quoted

/-! The parts of a statement. -/

theorem exists_body {statement body options : List Char} {label : String}
    (h : sections? statement = some (label, .ok (body, options))) :
    ∃ name between, tableHeader? (strip statement) =
        some (name, between ++ '(' :: (body ++ ')' :: options)) ∧
      label = .ofList name ∧ '(' ∉ between ∧ IsBalanced body := by
  obtain ⟨⟨name, rest⟩, hheader, hread⟩ := Option.bind_eq_some_iff.mp h
  simp only at hread
  by_cases hopen : '(' ∈ rest
  · obtain ⟨between, after, rfl, hbetween⟩ := List.eq_append_cons_of_mem hopen
    have hdrop := dropWhile_ne_append hbetween after
    rw [hdrop, List.isEmpty_cons, if_neg Bool.false_ne_true] at hread
    cases hclosing : closing? ('(' :: after) with
    | none =>
      rw [hclosing] at hread
      cases hread
    | some n =>
      obtain ⟨u, v, rfl, rfl, hu⟩ := closing?_eq_some_iff.mp hclosing
      rw [sections?_of_header hheader hdrop hu.segment] at h
      cases h
      exact ⟨name, between, hheader, rfl, hbetween, hu⟩
  · rw [dropWhile_ne_eq_nil hopen] at hread
    cases hread

/-- The parts of a statement from which a table is read, in their order. -/
structure StatementParts where
  preamble : List Char
  opening : Quoting
  name : List Char
  closing : Quoting
  between : List Char
  body : List Char
  options : List Char

namespace StatementParts

section
variable (p : StatementParts)

/-- The name with the marks around it. -/
def identifier : List Char :=
  p.opening.opening ++ (p.name ++ p.closing.closing)

/-- All that stands in the place of the name. -/
def written : List Char :=
  p.identifier ++ p.between

/-- The body in its parentheses, and the options. -/
def definition : List Char :=
  '(' :: (p.body ++ ')' :: p.options)

def text : List Char :=
  p.preamble ++ (p.written ++ p.definition)

/-- The statement without what stands between the name and the body. -/
def joined : List Char :=
  p.preamble ++ (p.identifier ++ p.definition)

def meaning : TableDef :=
  .ofClauses (.ofList p.name) ((splitAt ',' p.body).map clause) p.options

end

/-- The parts are those of a statement: the name is the one in its header, and the body stands in
the first parentheses after it. -/
structure IsReadFrom (p : StatementParts) (statement : List Char) : Prop where
  text : strip statement = p.text
  header : tableHeader? (strip statement) = some (p.name, p.between ++ p.definition)
  preamble : IsPreamble p.preamble
  name : IsName p.name
  between : '(' ∉ p.between
  body : IsBalanced p.body

theorem exists_isReadFrom {statement : List Char} {d : TableDef}
    (h : (tableStatement statement).1 = some d) :
    ∃ p : StatementParts, p.IsReadFrom statement ∧ p.meaning = d := by
  obtain ⟨_, body, options, hsections, rfl⟩ := tableStatement_eq_some h
  obtain ⟨name, between, hheader, rfl, hbetween, hbody⟩ := exists_body hsections
  obtain ⟨x, q, q', hx, hstatement⟩ := exists_preamble hheader
  refine ⟨⟨x, q, name, q', between, body, options⟩, ?_, rfl⟩
  refine ⟨?_, hheader, hx, tableHeader?_isName hheader, hbetween, hbody⟩
  rw [hstatement]
  simp only [text, written, identifier, definition, List.append_assoc]

section Read
variable {p : StatementParts} {statement : List Char} (h : p.IsReadFrom statement)
include h

theorem IsReadFrom.stripEnd_options : stripEnd p.options = p.options := by
  have hstrip : stripEnd (strip statement) = strip statement := stripEnd_stripEnd _
  have hsplit : p.text = p.preamble ++ (p.written ++ '(' :: p.body) ++ ')' :: p.options := by
    simp only [StatementParts.text, definition, List.append_assoc, List.cons_append]
  rw [h.text, hsplit, stripEnd_append_cons (by decide)] at hstrip
  exact (List.cons_inj_right _).mp (List.append_cancel_left hstrip)

theorem IsReadFrom.paren_notMem : '(' ∉ p.preamble ++ p.identifier := by
  have hmarks : ∀ q : Quoting, '(' ∉ q.opening ∧ '(' ∉ q.closing := by
    intro q
    cases q <;> decide
  have hname : '(' ∉ p.name := h.name.notMem (by decide +kernel)
  rw [identifier, List.mem_append, List.mem_append, List.mem_append]
  simp only [h.preamble.paren_notMem, hmarks, hname, or_self, not_false_eq_true]

theorem IsReadFrom.tableStatement_eq : (tableStatement statement).1 = some p.meaning := by
  rw [tableStatement, sections?_of_header h.header (dropWhile_ne_append h.between _)
    h.body.segment]
  rfl

/-- What stands between the name and the body does not count at all. -/
theorem IsReadFrom.tableStatement_joined : (tableStatement p.joined).1 = some p.meaning := by
  have hjoined : p.joined = p.preamble ++ p.identifier ++ '(' :: (p.body ++ ')' :: p.options) := by
    rw [joined, definition, List.append_assoc]
  have hstart : stripStart (p.preamble ++ p.identifier) = p.preamble ++ p.identifier :=
    stripStart_of_startsSolid (startsSolid_append h.preamble.startsSolid _)
  rw [hjoined, tableStatement_paren h.paren_notMem h.body.segment, hstart, identifier,
    h.preamble.tableHeader? h.name, h.stripEnd_options]
  rfl

theorem IsReadFrom.strip_written : strip p.written = p.identifier ↔ allBlank p.between = true := by
  have hsolid : strip p.identifier = p.identifier :=
    strip_of_solid (startsSolid_quoted h.name _ _) (endsSolid_quoted h.name _ _)
  constructor
  · intro hstrip
    by_contra hnot
    obtain ⟨c, hc, hblank⟩ : ∃ c ∈ p.between, isBlank c = false := by
      simpa [allBlank] using hnot
    obtain ⟨u, v, hsplit⟩ := List.append_of_mem hc
    have hstart := startsSolid_quoted h.name p.opening p.closing.closing
    have hlonger : strip p.written = p.identifier ++ (u ++ c :: stripEnd v) := by
      have hhead : stripStart (p.identifier ++ u) = p.identifier ++ u :=
        stripStart_of_startsSolid (startsSolid_append hstart u)
      rw [written, hsplit, ← List.append_assoc, strip_append_cons hblank, hhead, List.append_assoc]
    rw [hlonger] at hstrip
    have hlength := congrArg List.length hstrip
    simp only [List.length_append, List.length_cons] at hlength
    omega
  · intro hblank
    rw [written, strip_append_blank hblank, hsolid]

end Read

end StatementParts

/-- A table is read from a statement exactly if it has these parts. The table has the name in the
header, and the body in the first parentheses after it. Only where blanks stand between the two, the
name is all that is written there; anything else in between is lost, without a change to the
table. -/
theorem tableStatement_eq_some_iff {statement : List Char} {d : TableDef} :
    (tableStatement statement).1 = some d ↔
      ∃ p : StatementParts, p.IsReadFrom statement ∧ d = p.meaning ∧ d.name = .ofList p.name ∧
        (strip p.written = p.identifier ↔ allBlank p.between = true) ∧
        (tableStatement p.joined).1 = some d := by
  constructor
  · intro h
    obtain ⟨p, hp, rfl⟩ := StatementParts.exists_isReadFrom h
    exact ⟨p, hp, rfl, rfl, hp.strip_written, hp.tableStatement_joined⟩
  · rintro ⟨p, hp, rfl, _⟩
    exact hp.tableStatement_eq

/-- A query makes a table without columns, and two names are cut at their first words. -/
theorem tableStatement_cut :
    (tableStatement "CREATE TABLE t AS SELECT (1)".toList).1.map (fun d => (d.name, d.columns)) =
        some ("t", []) ∧
      tableHeader? "CREATE TABLE t AS SELECT (1)".toList =
        some ("t".toList, " AS SELECT (1)".toList) ∧
      (tableStatement "CREATE TABLE shop.orders (id INT)".toList).1.map TableDef.name =
        some "shop" ∧
      tableHeader? "CREATE TABLE shop.orders (id INT)".toList =
        some ("shop".toList, ".orders (id INT)".toList) ∧
      (tableStatement "CREATE TABLE \"order items\" (id INT)".toList).1.map TableDef.name =
        some "order" ∧
      tableHeader? "CREATE TABLE \"order items\" (id INT)".toList =
        some ("order".toList, " items\" (id INT)".toList) := by
  decide +kernel

end SchemaAtlas.Sql
