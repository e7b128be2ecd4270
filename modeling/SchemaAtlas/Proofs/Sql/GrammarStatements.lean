import SchemaAtlas.Proofs.Sql.GrammarClauses

/-! # Statements are read in every rendering

Whatever the spelling of its keywords, the quoting of its names and the blanks between its parts,
a statement defines the table that it states, and there is nothing to note about it.
-/
namespace SchemaAtlas.Sql
open Text

/-! The comment of a table. -/

theorem needsHead_tableComment? : NeedsHead 'C' tableComment? := by
  intro c s hc
  have hword : keyword? "COMMENT".toList (c :: s) = none := if_neg hc
  rw [tableComment?, hword]
  rfl

theorem tableComment?_of_renders {s w b e b' : List Char} (hw : IsSpelling "COMMENT".toList w)
    (hb : allBlank b = true) (he : e = [] ∨ e = ['=']) (hb' : allBlank b' = true) :
    tableComment? (w ++ (b ++ (e ++ (b' ++ literalText s)))) = some (quoteLiteral s) := by
  have hsplit : w ++ (b ++ (e ++ (b' ++ literalText s))) =
      (w ++ (b ++ (e ++ b'))) ++ '\'' :: (quoteLiteral s ++ ['\'']) := by
    simp [literalText]
  rw [hsplit]
  exact (Introduces.table hw hb he hb').read_quoteLiteral s []

theorem RendersOptions.commentText_eq {o : Option (List Char)} {u : List Char}
    (h : RendersOptions o u) : commentText tableComment? u = o.getD [] := by
  cases h with
  | none => rfl
  | some hb hw hb₁ he hb₂ =>
    rw [commentText,
      search_skip needsHead_tableComment? (caseless_ne_of_allBlank hb (by decide)),
      search_of_eq_some (tableComment?_of_renders hw hb₁ he hb₂)]
    exact unescape_quoteLiteral _

theorem RendersOptions.endsSolid {o : Option (List Char)} {u : List Char}
    (h : RendersOptions o u) : endsSolid (')' :: u) = true := by
  cases h with
  | none => decide
  | some hb hw hb₁ he hb₂ =>
    exact endsSolid_cons _ (endsSolid_append _ (endsSolid_append _ (endsSolid_append _
      (endsSolid_append _ (endsSolid_append _ (endsSolid_literalText _))))))

/-! The header. -/

theorem eq_of_afterBlanks? {b u s : List Char} (hb : allBlank b = true)
    (hu : startsSolid u = true) (h : afterBlanks? (b ++ u) = some s) : s = u := by
  cases b with
  | nil =>
    cases u with
    | nil => cases h
    | cons c u =>
      have hc : isBlank c = false := by simpa [startsSolid] using hu
      rw [List.nil_append, afterBlanks?, hc] at h
      cases h
  | cons c b =>
    have hgap := afterBlanks?_append (v := []) ⟨List.cons_ne_nil c b, hb⟩ hu
    rw [List.append_nil, h] at hgap
    exact Option.some.inj hgap

/-- A table may be named like the first word of the condition on it. -/
theorem ifNotExists?_name {name b rest : List Char} (hn : IsName name) (q : Quoting)
    (hb : allBlank b = true) : ifNotExists? (q.wrap name ++ (b ++ '(' :: rest)) = none := by
  have hphrase : phrase? ["IF".toList, "NOT".toList, "EXISTS".toList]
      (q.wrap name ++ (b ++ '(' :: rest)) = none := by
    refine Option.eq_none_iff_forall_ne_some.mpr fun x hx => ?_
    cases q with
    | bare =>
      have hsep := separates_append hb (show separates ('(' :: rest) = true from rfl)
      rw [Quoting.wrap_bare] at hx
      obtain ⟨s, hgap, hnext⟩ :=
        phrase?_of_name hn.word (by decide) (caseless_of_separates hsep) hx
      rw [eq_of_afterBlanks? hb rfl hgap] at hnext
      cases hnext
    | _ => cases hx
  rw [ifNotExists?, hphrase]
  rfl

theorem tableHeader?_of_renders {name w b x b' rest : List Char} (hn : IsName name)
    (hw : IsPhrase ["CREATE".toList, "TABLE".toList] w) (hb : IsGap b)
    (hx : RendersCondition x) (q : Quoting) (hb' : allBlank b' = true) :
    tableHeader? (w ++ (b ++ (x ++ (q.wrap name ++ (b' ++ '(' :: rest))))) =
      some (name, b' ++ '(' :: rest) := by
  have hname := identifier?_wrap hn q
    (separates_append hb' (show separates ('(' :: rest) = true from rfl))
  rw [tableHeader?, hw.phrase? (by decide)]
  cases hx with
  | nil =>
    have hgap := afterBlanks?_append hb (startsSolid_wrap hn q) (b' ++ '(' :: rest)
    simp only [Option.bind_eq_bind, Option.bind_some, List.nil_append, hgap,
      ifNotExists?_name hn q hb', Option.bind_none, Option.none_or, hname]
  | @ifNotExists v d hv hd =>
    have hgap := afterBlanks?_append hb (hv.startsSolid (by decide))
      (d ++ (q.wrap name ++ (b' ++ '(' :: rest)))
    have hnext := afterBlanks?_append hd (startsSolid_wrap hn q) (b' ++ '(' :: rest)
    have hexists : ifNotExists? (v ++ (d ++ (q.wrap name ++ (b' ++ '(' :: rest)))) =
        some (q.wrap name ++ (b' ++ '(' :: rest)) := by
      rw [ifNotExists?, hv.phrase? (by decide)]
      exact hnext
    rw [List.append_assoc]
    simp only [Option.bind_eq_bind, Option.bind_some, hgap, hexists, hname, Option.some_or]

/-! What the clauses define together. -/

theorem note?_read (table : String) (c : ClauseSpec) : c.read.note? table = none := by
  cases c <;> rfl

theorem ofList_contains (ns : List (List Char)) (n : List Char) :
    (ns.map String.ofList).contains (String.ofList n) = ns.contains n := by
  rw [Bool.eq_iff_iff, List.contains_iff_mem, List.contains_iff_mem]
  exact List.mem_map_of_injective fun _ _ h => String.ofList_injective h

namespace TableSpec

variable (t : TableSpec)

theorem foreignKeys_read : (t.clauses.map ClauseSpec.read).filterMap
    (Clause.foreignKey? (.ofList t.name)) = t.foreignKeys := by
  rw [List.filterMap_map, foreignKeys]
  congr 1
  funext c
  cases c <;> rfl

theorem primaryNames_read : (t.clauses.map ClauseSpec.read).flatMap Clause.primaryNames =
    t.keyNames.map String.ofList := by
  rw [List.flatMap_map, keyNames, List.map_flatMap]
  congr 1
  funext c
  cases c <;> rfl

theorem columns_read : (t.clauses.map ClauseSpec.read).filterMap Clause.column? =
    t.columns.map ColumnSpec.alone := by
  rw [List.filterMap_map, columns, List.map_filterMap]
  congr 1
  funext c
  cases c <;> rfl

theorem ofClauses_read {options : List Char} (ho : RendersOptions t.comment options) :
    TableDef.ofClauses (.ofList t.name) (t.clauses.map ClauseSpec.read) options = t.meaning := by
  rw [TableDef.ofClauses, meaning, foreignKeys_read, primaryNames_read, columns_read,
    ho.commentText_eq, List.map_map]
  congr 2
  funext c
  rw [Function.comp_apply, ColumnDef.withKeys, ← ofList_contains]
  rfl

end TableSpec

section Statement
variable {t : TableSpec} (hp : t.IsProper) {text : List Char} (h : t.Renders text)
include hp h

theorem sections?_of_renders : ∃ body options, RendersBody t.clauses body ∧
    RendersOptions t.comment options ∧
      sections? text = some (.ofList t.name, .ok (body, options)) := by
  obtain @⟨b, w, b₁, x, b₂, body, options, b₃, q, hb, hw, hb₁, hx, hb₂, hbody, ho, hb₃⟩ := h
  refine ⟨body, options, hbody, ho, ?_⟩
  have hstarts := startsSolid_append (hw.startsSolid (by decide))
    (b₁ ++ (x ++ (q.wrap t.name ++ (b₂ ++ '(' :: (body ++ ')' :: options)))))
  have hends : endsSolid (w ++ (b₁ ++ (x ++ (q.wrap t.name ++
      (b₂ ++ '(' :: (body ++ ')' :: options)))))) = true :=
    endsSolid_append _ (endsSolid_append _ (endsSolid_append _ (endsSolid_append _
      (endsSolid_append _ (endsSolid_cons _ (endsSolid_append _ ho.endsSolid))))))
  have hparen : '(' ∉ b₂ := notMem_of_allBlank hb₂ (by decide)
  refine sections?_of_header ?_ (dropWhile_ne_append hparen _) (hbody.segment hp.clauses)
  rw [strip_blank_append hb, strip_append_blank hb₃, strip_of_solid hstarts hends]
  exact tableHeader?_of_renders hp.name hw hb₁ hx q hb₂

/-- A statement defines the table that it states, and nothing is noted about it. -/
theorem tableStatement_of_renders : tableStatement text = (some t.meaning, []) := by
  obtain ⟨body, options, hbody, ho, hsections⟩ := sections?_of_renders hp h
  have hnotes : (t.clauses.map ClauseSpec.read).filterMap (Clause.note? (.ofList t.name)) = [] := by
    refine List.filterMap_eq_nil_iff.mpr fun k hk => ?_
    obtain ⟨c, _, rfl⟩ := List.mem_map.mp hk
    exact note?_read _ c
  rw [tableStatement, hsections]
  dsimp only
  rw [hbody.map_clause hp.clauses, t.ofClauses_read ho, hnotes]

end Statement

def accounts : TableSpec where
  name := "accounts".toList
  clauses :=
    [.primaryKey ["id".toList],
      .column ⟨"id".toList, "int(11)".toList, []⟩,
      .index,
      .column ⟨"key".toList, "int".toList, [.comment "the owner's".toList, .required]⟩,
      .foreignKey "key".toList "if".toList "id".toList]
  comment := some "all".toList

def accountsBody : List Char :=
  "PRIMARY key(id), `id` int(11),
    Unique(id), [key] int Comment 'the owner\\'s' not null,
    constraint foreign FOREIGN\tkey ( \"key\" ) references`if`(id)".toList

def accountsText : List Char :=
  "create Table if not\nexists accounts(".toList ++ accountsBody ++ ")comment = 'all'".toList

theorem accountsBody_renders : RendersBody accounts.clauses accountsBody := by
  have hnil : allBlank [] = true := rfl
  have hspace : allBlank [' '] = true := rfl
  have hgap : IsGap [' '] := by decide
  have hline : allBlank "\n    ".toList = true := by decide
  have hprimary : IsPhrase primaryKeyWords _ :=
    .cons (w := "PRIMARY".toList) (by decide) hgap (.last (w := "key".toList) (by decide))
  have hkey : ClauseSpec.Renders (.primaryKey ["id".toList]) _ :=
    .primaryKey hprimary hnil (.last (.mk (q := .bare) hnil (by decide) hnil (by decide)))
  have hid : ClauseSpec.Renders (.column ⟨"id".toList, "int(11)".toList, []⟩) _ :=
    .column (.mk (q := .backticks) (by decide) hgap .nil)
  have hindex : ClauseSpec.Renders .index _ :=
    .index (show "UNIQUE".toList ∈ indexWords by decide) (w := "Unique".toList)
      (v := "(id)".toList) (by decide) ⟨by decide, by decide, by decide⟩ (by decide +kernel)
      (by decide)
  have hnull : Modifier.Renders .required _ :=
    .required (.cons (w := "not".toList) (by decide) hgap
      (.last (w := "null".toList) (by decide)))
  have hcomment : Modifier.Renders (.comment "the owner's".toList) _ :=
    .comment (w := "Comment".toList) (by decide) hgap
  have hown : ClauseSpec.Renders
      (.column ⟨"key".toList, "int".toList, [.comment "the owner's".toList, .required]⟩) _ :=
    .column (.mk (q := .brackets) (by decide) hgap (.cons hgap hcomment (.cons hgap hnull .nil)))
  have hforeign : IsPhrase referenceWords _ :=
    .cons (w := "FOREIGN".toList) (b := ['\t']) (by decide) (by decide)
      (.last (w := "key".toList) (by decide))
  have hreference : RendersReference "key".toList "if".toList "id".toList _ :=
    .mk (r := "references".toList) (q := .backticks) hforeign hspace
      (.mk (q := .doubleQuotes) hspace hspace) hspace (by decide) hnil hnil
      (.mk (q := .bare) hnil hnil)
  have hconstraint : ClauseSpec.Renders (.foreignKey "key".toList "if".toList "id".toList) _ :=
    .constraint (w := "constraint".toList) (n := "foreign".toList) (q := .bare)
      (by decide) hgap (by decide +kernel) hgap hreference
  convert RendersBody.cons hnil hkey hnil (by decide) (.cons hspace hid hnil (by decide)
    (.cons hline hindex hnil (by decide) (.cons hspace hown hnil (by decide)
      (.last hline hconstraint hnil)))) using 1
  · rfl
  · decide +kernel

theorem accounts_renders : accounts.Renders accountsText := by
  have hnil : allBlank [] = true := rfl
  have hspace : allBlank [' '] = true := rfl
  have hgap : IsGap [' '] := by decide
  have hoptions : RendersOptions accounts.comment _ :=
    .some (w := "comment".toList) hnil (by decide) hspace (.inr rfl) hspace
  have hcreate : IsPhrase ["CREATE".toList, "TABLE".toList] _ :=
    .cons (w := "create".toList) (by decide) hgap (.last (w := "Table".toList) (by decide))
  have hif : IsPhrase ["IF".toList, "NOT".toList, "EXISTS".toList] _ :=
    .cons (w := "if".toList) (by decide) hgap (.cons (w := "not".toList) (b := ['\n']) (by decide)
      (by decide) (.last (w := "exists".toList) (by decide)))
  convert TableSpec.Renders.mk (q := .bare) hnil hcreate hgap (.ifNotExists hif hgap) hnil
    accountsBody_renders hoptions hnil using 1
  decide +kernel

/-- A statement with the words of its grammar in other places than their own. -/
theorem tableStatement_of_renders_accounts : accounts.IsProper ∧ accounts.Renders accountsText ∧
    tableStatement accountsText = (some accounts.meaning, []) := by
  have hp : accounts.IsProper := by decide +kernel
  exact ⟨hp, accounts_renders, tableStatement_of_renders hp accounts_renders⟩

end SchemaAtlas.Sql
