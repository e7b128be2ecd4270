import SchemaAtlas.Proofs.Sql.GrammarClauses
import SchemaAtlas.Proofs.Sql.Headers
import Mathlib.Logic.Relation

/-! # The order of clauses

A table is defined by its columns in their order, by the names in its primary keys in any order,
and by its foreign keys in their order. Where the clauses stand among each other does not matter,
nor do indexes and what is left blank between two commas.
-/
namespace SchemaAtlas.Sql
open Text

/-! The kinds of clauses. No clause is of two kinds, because none of the words by which they are
told apart is the beginning of another. -/

theorem prefix_of_keyword? {kw s rest : List Char} (h : keyword? kw s = some rest) :
    kw <+: s.map caseless := by
  induction kw generalizing s with
  | nil => exact List.nil_prefix
  | cons k kw ih =>
    cases s with
    | nil => cases h
    | cons c s =>
      rw [keyword?] at h
      split at h
      · next hc => exact List.cons_prefix_cons.mpr ⟨hc.symm, ih h⟩
      · cases h

theorem prefix_of_startsWith {kw s : List Char} {kws : List (List Char)}
    (h : startsWith (kw :: kws) s = true) : kw <+: s.map caseless := by
  cases hkw : keyword? kw s with
  | none =>
    rw [startsWith_of_keyword?_eq_none hkw] at h
    cases h
  | some rest => exact prefix_of_keyword? hkw

theorem startsWith_eq_false {kw kw' s : List Char} {kws : List (List Char)}
    (h : kw <+: s.map caseless) (hne : ¬ kw <+: kw') (hne' : ¬ kw' <+: kw) :
    startsWith (kw' :: kws) s = false := by
  cases hs : startsWith (kw' :: kws) s with
  | false => rfl
  | true =>
    rcases List.prefix_or_prefix_of_prefix h (prefix_of_startsWith hs) with hp | hp
    · exact absurd hp hne
    · exact absurd hp hne'

theorem exists_indexWord {s : List Char} (h : isIndexClause s = true) :
    ∃ i ∈ indexWords, i <+: s.map caseless := by
  simp only [isIndexClause, Bool.or_eq_true] at h
  rcases h with ((h | h) | h) | h
  · exact ⟨_, by decide, prefix_of_startsWith h⟩
  · exact ⟨_, by decide, prefix_of_startsWith h⟩
  · exact ⟨_, by decide, prefix_of_startsWith h⟩
  · exact ⟨_, by decide, prefix_of_startsWith h⟩

theorem isPrimaryKeyClause_of_isIndexClause {s : List Char} (h : isIndexClause s = true) :
    isPrimaryKeyClause s = false ∧ isConstraintClause s = false := by
  obtain ⟨i, hi, hs⟩ := exists_indexWord h
  have hwords : ∀ i ∈ indexWords, ∀ kw ∈ ["PRIMARY".toList, "CONSTRAINT".toList, "FOREIGN".toList],
      ¬ i <+: kw ∧ ¬ kw <+: i := by decide
  have hno : ∀ kw ∈ ["PRIMARY".toList, "CONSTRAINT".toList, "FOREIGN".toList],
      ∀ kws, startsWith (kw :: kws) s = false := fun kw hkw kws =>
    startsWith_eq_false hs (hwords i hi kw hkw).1 (hwords i hi kw hkw).2
  refine ⟨hno _ (by decide) _, ?_⟩
  rw [isConstraintClause, hno _ (by decide), hno _ (by decide)]
  rfl

def isKeyClause (part : List Char) : Bool :=
  isPrimaryKeyClause (strip part)

def isReferenceClause (part : List Char) : Bool :=
  isConstraintClause (strip part) && (search reference? (strip part)).isSome

/-- A clause that declares nothing: it is blank or declares an index. -/
def isIdleClause (part : List Char) : Bool :=
  (strip part).isEmpty || isIndexClause (strip part)

def isColumnClause (part : List Char) : Bool :=
  !isIdleClause part && !isKeyClause part && !isConstraintClause (strip part)

theorem kinds_of_isIdleClause {part : List Char} (h : isIdleClause part = true) :
    isColumnClause part = false ∧ isKeyClause part = false ∧ isReferenceClause part = false := by
  have hkinds : isPrimaryKeyClause (strip part) = false ∧
      isConstraintClause (strip part) = false := by
    rcases Bool.or_eq_true_iff.mp h with hempty | hindex
    · rw [List.isEmpty_iff.mp hempty]
      exact ⟨rfl, rfl⟩
    · exact isPrimaryKeyClause_of_isIndexClause hindex
  refine ⟨?_, hkinds.1, ?_⟩
  · rw [isColumnClause, h]
    rfl
  · rw [isReferenceClause, hkinds.2]
    rfl

section Kinds
variable {part : List Char}

theorem column?_clause (h : isColumnClause part = false) : (clause part).column? = none := by
  simp only [isColumnClause, isIdleClause, isKeyClause, Bool.and_eq_false_iff, Bool.not_eq_false',
    Bool.or_eq_true] at h
  unfold clause
  simp only
  split_ifs with hempty hindex hkey hconstraint
  · rfl
  · rfl
  · rfl
  · split <;> rfl
  · rcases h with ((h | h) | h) | h
    · exact absurd h hempty
    · exact absurd h hindex
    · exact absurd h hkey
    · exact absurd h hconstraint

theorem foreignKey?_clause (table : String) (h : isReferenceClause part = false) :
    (clause part).foreignKey? table = none := by
  unfold clause
  simp only
  split_ifs with hempty hindex hkey hconstraint
  · rfl
  · rfl
  · rfl
  · rw [isReferenceClause, hconstraint, Bool.true_and] at h
    rw [Option.isSome_eq_false_iff.mp h |> Option.isNone_iff_eq_none.mp]
    rfl
  · split <;> rfl

theorem primaryNames_clause : (clause part).primaryNames =
    if isKeyClause part then primaryKeyNames (strip part) else [] := by
  by_cases hidle : isIdleClause part = true
  · rw [(kinds_of_isIdleClause hidle).2.1]
    unfold clause
    simp only
    rcases Bool.or_eq_true_iff.mp hidle with hempty | hindex
    · rw [if_pos hempty]
      rfl
    · rw [if_pos hindex]
      split <;> rfl
  · obtain ⟨hempty, hindex⟩ := not_or.mp (Bool.or_eq_true_iff.not.mp hidle)
    unfold clause
    simp only
    rw [if_neg hempty, if_neg hindex, isKeyClause]
    split_ifs
    · rfl
    · split <;> rfl
    · split <;> rfl

end Kinds

/-! What clauses declare together. -/

/-- The names in the primary keys among some clauses. -/
def declaredKeys (clauses : List (List Char)) : List String :=
  (clauses.filter isKeyClause).flatMap fun part => primaryKeyNames (strip part)

/-- Lists of clauses with the same columns and the same foreign keys, both in their order, and
with the same names in their primary keys. -/
structure SameDeclarations (cs ds : List (List Char)) : Prop where
  columns : cs.filter isColumnClause = ds.filter isColumnClause
  references : cs.filter isReferenceClause = ds.filter isReferenceClause
  keys : ∀ name, name ∈ declaredKeys cs ↔ name ∈ declaredKeys ds

theorem filterMap_filter_clauses {β : Type} {isKind : List Char → Bool} {read : Clause → Option β}
    (h : ∀ part, isKind part = false → read (clause part) = none) (cs : List (List Char)) :
    (cs.map clause).filterMap read =
      (cs.filter isKind).filterMap fun part => read (clause part) := by
  rw [List.filterMap_map, List.filterMap_filter]
  congr 1
  funext part
  cases hkind : isKind part with
  | true => rfl
  | false => exact h part hkind

theorem mem_primaryNames_clauses {cs : List (List Char)} {name : String} :
    name ∈ (cs.map clause).flatMap Clause.primaryNames ↔ name ∈ declaredKeys cs := by
  simp only [declaredKeys, List.flatMap_map, List.mem_flatMap, List.mem_filter, primaryNames_clause]
  constructor
  · rintro ⟨part, hpart, hname⟩
    split_ifs at hname with hkey
    · exact ⟨part, ⟨hpart, hkey⟩, hname⟩
    · cases hname
  · rintro ⟨part, ⟨hpart, hkey⟩, hname⟩
    exact ⟨part, hpart, by rwa [if_pos hkey]⟩

theorem withKeys_congr {ns ms : List String} (h : ∀ name, name ∈ ns ↔ name ∈ ms)
    (foreign : List String) : ColumnDef.withKeys ns foreign = ColumnDef.withKeys ms foreign := by
  funext c
  have hcontains : ns.contains c.name = ms.contains c.name := by
    rw [Bool.eq_iff_iff, List.contains_iff_mem, List.contains_iff_mem]
    exact h c.name
  rw [ColumnDef.withKeys, ColumnDef.withKeys, hcontains]

/-- The table depends on nothing else. -/
theorem SameDeclarations.ofClauses_eq {cs ds : List (List Char)} (h : SameDeclarations cs ds)
    (name : String) (options : List Char) :
    TableDef.ofClauses name (cs.map clause) options =
      TableDef.ofClauses name (ds.map clause) options := by
  have hforeign : (cs.map clause).filterMap (Clause.foreignKey? name) =
      (ds.map clause).filterMap (Clause.foreignKey? name) := by
    rw [filterMap_filter_clauses fun _ => foreignKey?_clause name, h.references,
      filterMap_filter_clauses fun _ => foreignKey?_clause name]
  have hcolumns : (cs.map clause).filterMap Clause.column? =
      (ds.map clause).filterMap Clause.column? := by
    rw [filterMap_filter_clauses fun _ => column?_clause, h.columns,
      filterMap_filter_clauses fun _ => column?_clause]
  have hkeys : ∀ n, n ∈ (cs.map clause).flatMap Clause.primaryNames ↔
      n ∈ (ds.map clause).flatMap Clause.primaryNames := by
    intro n
    rw [mem_primaryNames_clauses, mem_primaryNames_clauses]
    exact h.keys n
  rw [TableDef.ofClauses, TableDef.ofClauses, hforeign, hcolumns, withKeys_congr hkeys]

/-! Rearranging clauses. -/

/-- Two clauses change places, unless both are columns or both are foreign keys; or a clause that
declares nothing is put somewhere. -/
inductive Rearranges : List (List Char) → List (List Char) → Prop
  | swap (before after : List (List Char)) {u v : List Char} :
      ¬ (isColumnClause u = true ∧ isColumnClause v = true) →
      ¬ (isReferenceClause u = true ∧ isReferenceClause v = true) →
      Rearranges (before ++ u :: v :: after) (before ++ v :: u :: after)
  | insert (before after : List (List Char)) {u : List Char} : isIdleClause u = true →
      Rearranges (before ++ after) (before ++ u :: after)

theorem filter_swap {p : List Char → Bool} {u v : List Char} (h : ¬ (p u = true ∧ p v = true))
    (before after : List (List Char)) :
    (before ++ u :: v :: after).filter p = (before ++ v :: u :: after).filter p := by
  rw [List.filter_append, List.filter_append]
  congr 1
  by_cases hu : p u = true
  · have hv : ¬ p v = true := fun hv => h ⟨hu, hv⟩
    rw [List.filter_cons_of_pos hu, List.filter_cons_of_neg hv, List.filter_cons_of_neg hv,
      List.filter_cons_of_pos hu]
  · rw [List.filter_cons_of_neg hu, List.filter_cons, List.filter_cons]
    split
    · rw [List.filter_cons_of_neg hu]
    · rw [List.filter_cons_of_neg hu]

theorem filter_insert {p : List Char → Bool} {u : List Char} (h : p u = false)
    (before after : List (List Char)) :
    (before ++ after).filter p = (before ++ u :: after).filter p := by
  rw [List.filter_append, List.filter_append, List.filter_cons_of_neg (by simp [h])]

theorem Rearranges.same {cs ds : List (List Char)} (h : Rearranges cs ds) :
    SameDeclarations cs ds := by
  cases h with
  | @swap before after u v hcolumn hreference =>
    refine ⟨filter_swap hcolumn before after, filter_swap hreference before after, fun name => ?_⟩
    have hperm : (before ++ u :: v :: after).Perm (before ++ v :: u :: after) :=
      (List.Perm.swap v u after).append_left before
    exact ((hperm.filter _).flatMap_right _).mem_iff
  | insert before after hidle =>
    obtain ⟨hcolumn, hkey, hreference⟩ := kinds_of_isIdleClause hidle
    refine ⟨filter_insert hcolumn before after, filter_insert hreference before after,
      fun name => ?_⟩
    rw [declaredKeys, declaredKeys, filter_insert hkey before after]

theorem sameDeclarations_of_eqvGen {cs ds : List (List Char)}
    (h : Relation.EqvGen Rearranges cs ds) : SameDeclarations cs ds := by
  induction h with
  | rel _ _ h => exact h.same
  | refl _ => exact ⟨rfl, rfl, fun _ => Iff.rfl⟩
  | symm _ _ _ ih => exact ⟨ih.columns.symm, ih.references.symm, fun n => (ih.keys n).symm⟩
  | trans _ _ _ _ _ ih ih' =>
    exact ⟨ih.columns.trans ih'.columns, ih.references.trans ih'.references,
      fun n => (ih.keys n).trans (ih'.keys n)⟩

/-! Statements with clauses between commas. -/

/-- A statement with a body of clauses, what stands before it, and what follows. -/
def composed (head options : List Char) (clauses : List (List Char)) : List Char :=
  head ++ '(' :: ([','].intercalate clauses ++ ')' :: options)

theorem clause_of_allBlank {part : List Char} (h : allBlank part = true) :
    clause part = .blank := by
  unfold clause
  rw [strip_of_allBlank h]
  rfl

theorem filterMap_filter_blank {β : Type} (read : Clause → Option β) (h : read .blank = none)
    (clauses : List Clause) :
    (clauses.filter (· ≠ .blank)).filterMap read = clauses.filterMap read := by
  rw [List.filterMap_filter]
  congr 1
  funext c
  cases c <;> simp [h]

theorem primaryNames_filter_blank (clauses : List Clause) :
    (clauses.filter (· ≠ .blank)).flatMap Clause.primaryNames =
      clauses.flatMap Clause.primaryNames := by
  induction clauses with
  | nil => rfl
  | cons c clauses ih =>
    rw [List.filter_cons, List.flatMap_cons, ← ih]
    cases c <;> rfl

theorem ofClauses_filter_blank (name : String) (clauses : List Clause) (options : List Char) :
    TableDef.ofClauses name (clauses.filter (· ≠ .blank)) options =
      TableDef.ofClauses name clauses options := by
  have hforeign := filterMap_filter_blank (Clause.foreignKey? name) rfl clauses
  have hcolumns := filterMap_filter_blank Clause.column? rfl clauses
  rw [TableDef.ofClauses, TableDef.ofClauses, hforeign, hcolumns, primaryNames_filter_blank]

section Body
variable {cs : List (List Char)} (hcs : ∀ u ∈ cs, IsSegment (· = ',') u)
include hcs

theorem isSegment_intercalate : IsSegment (fun _ => false) ([','].intercalate cs) := by
  induction cs with
  | nil => exact .nil _
  | cons u us ih =>
    obtain ⟨hu, hus⟩ := List.forall_mem_cons.mp hcs
    cases us with
    | nil =>
      rw [List.intercalate_singleton]
      exact hu.mono fun _ _ => rfl
    | cons v us =>
      rw [List.intercalate_cons_cons, List.append_assoc]
      exact isSegment_append_comma hu (ih hus)

/-- A body is split into its clauses again, up to a blank one at its end. -/
theorem filter_splitAt_intercalate :
    ((splitAt ',' ([','].intercalate cs)).map clause).filter (· ≠ .blank) =
      (cs.map clause).filter (· ≠ .blank) := by
  induction cs with
  | nil => rfl
  | cons u us ih =>
    obtain ⟨hu, hus⟩ := List.forall_mem_cons.mp hcs
    cases us with
    | nil =>
      rw [List.intercalate_singleton, splitAt_segment hu]
      split
      · next hblank => simp [clause_of_allBlank hblank]
      · rfl
    | cons v us =>
      have hjoin : [','].intercalate (u :: v :: us) = u ++ ',' :: [','].intercalate (v :: us) := by
        rw [List.intercalate_cons_cons, List.append_assoc]
        rfl
      have hmap : ∀ parts, (u :: parts).map clause = clause u :: parts.map clause := fun _ => rfl
      rw [hjoin, splitAt_segment_append rfl hu, hmap, hmap, List.filter_cons, List.filter_cons,
        ih hus]

theorem tableStatement_composed {head : List Char} (hhead : '(' ∉ head) (options : List Char) :
    (tableStatement (composed head options cs)).1 = (tableHeader? (stripStart head)).map fun p =>
      .ofClauses (.ofList p.1) (cs.map clause) (stripEnd options) := by
  rw [composed, tableStatement_paren hhead (isSegment_intercalate hcs)]
  congr 1
  funext p
  rw [← ofClauses_filter_blank, filter_splitAt_intercalate hcs, ofClauses_filter_blank]

end Body

/-- Of the clauses of a table only the columns, the foreign keys and the names in the primary keys
count; so clauses of different kinds can change places, and those that declare nothing can be
added and left out. -/
theorem tableStatement_rearranged {head : List Char} (hhead : '(' ∉ head) (options : List Char)
    {cs ds : List (List Char)} (hcs : ∀ u ∈ cs, IsSegment (· = ',') u)
    (hds : ∀ u ∈ ds, IsSegment (· = ',') u) :
    (tableStatement (composed head options cs)).1.isSome =
        (tableHeader? (stripStart head)).isSome ∧
      (SameDeclarations cs ds → (tableStatement (composed head options cs)).1 =
        (tableStatement (composed head options ds)).1) ∧
      (Relation.EqvGen Rearranges cs ds → (tableStatement (composed head options cs)).1 =
        (tableStatement (composed head options ds)).1) := by
  have hsame : SameDeclarations cs ds → (tableStatement (composed head options cs)).1 =
      (tableStatement (composed head options ds)).1 := by
    intro h
    rw [tableStatement_composed hcs hhead, tableStatement_composed hds hhead]
    congr 1
    funext p
    exact h.ofClauses_eq _ _
  refine ⟨?_, hsame, fun h => hsame (sameDeclarations_of_eqvGen h)⟩
  rw [tableStatement_composed hcs hhead, Option.isSome_map]

def ordersHead : List Char := " create table `orders` ".toList

def idClause : List Char := "id INT".toList

def buyerClause : List Char := " buyer INT NOT NULL".toList

def buyerIndex : List Char := " Key k (id, buyer)".toList

def idKey : List Char := " primary key (id)".toList

def buyerReference : List Char := " FOREIGN KEY (buyer) REFERENCES users (id)".toList

def orders : List (List Char) := [idClause, buyerIndex, buyerClause, idKey, buyerReference]

def ordersRearranged : List (List Char) := [idKey, idClause, buyerReference, buyerClause, [' ']]

theorem orders_rearranges : Relation.EqvGen Rearranges orders ordersRearranged := by
  have hindex : Rearranges [idClause, buyerClause, idKey, buyerReference] orders :=
    .insert [idClause] _ (by decide +kernel)
  have hbuyer : Rearranges [idClause, buyerClause, idKey, buyerReference]
      [idClause, idKey, buyerClause, buyerReference] :=
    .swap [idClause] _ (by decide +kernel) (by decide +kernel)
  have hid : Rearranges [idClause, idKey, buyerClause, buyerReference]
      [idKey, idClause, buyerClause, buyerReference] :=
    .swap [] _ (by decide +kernel) (by decide +kernel)
  have hreference : Rearranges [idKey, idClause, buyerClause, buyerReference]
      [idKey, idClause, buyerReference, buyerClause] :=
    .swap [idKey, idClause] _ (by decide +kernel) (by decide +kernel)
  have hblank : Rearranges [idKey, idClause, buyerReference, buyerClause] ordersRearranged :=
    .insert [idKey, idClause, buyerReference, buyerClause] _ (by decide +kernel)
  exact ((Relation.EqvGen.rel _ _ hindex).symm).trans _ _ _
    ((Relation.EqvGen.rel _ _ hbuyer).trans _ _ _ ((Relation.EqvGen.rel _ _ hid).trans _ _ _
      ((Relation.EqvGen.rel _ _ hreference).trans _ _ _ (Relation.EqvGen.rel _ _ hblank))))

theorem isSegment_orders :
    (∀ u ∈ orders, IsSegment (· = ',') u) ∧ ∀ u ∈ ordersRearranged, IsSegment (· = ',') u := by
  have hall : ∀ u ∈ [idClause, buyerIndex, buyerClause, idKey, buyerReference, [' ']],
      State.initial.run u = .initial ∧ (∀ t ∈ tokens u, 0 ≤ t.depth) ∧
        ∀ t ∈ tokens u, t.isTopLevel = true → decide (t.char = ',') = false := by decide +kernel
  have hsegment : ∀ us ⊆ [idClause, buyerIndex, buyerClause, idKey, buyerReference, [' ']],
      ∀ u ∈ us, IsSegment (· = ',') u := by
    intro us hus u hu
    obtain ⟨hrun, hdepth, havoids⟩ := hall u (hus hu)
    exact ⟨hrun, hdepth, havoids⟩
  exact ⟨hsegment _ (by decide), hsegment _ (by decide)⟩

theorem tableStatement_rearranged_orders :
    '(' ∉ ordersHead ∧ (∀ u ∈ orders, IsSegment (· = ',') u) ∧
      (∀ u ∈ ordersRearranged, IsSegment (· = ',') u) ∧
      Relation.EqvGen Rearranges orders ordersRearranged ∧
      (tableStatement (composed ordersHead [] orders)).1.isSome = true ∧
      (tableStatement (composed ordersHead [] orders)).1 =
        (tableStatement (composed ordersHead [] ordersRearranged)).1 := by
  have hhead : '(' ∉ ordersHead := by decide +kernel
  obtain ⟨horders, hrearranged⟩ := isSegment_orders
  obtain ⟨hsome, _, heq⟩ := tableStatement_rearranged hhead [] horders hrearranged
  refine ⟨hhead, horders, hrearranged, orders_rearranges, ?_, heq orders_rearranges⟩
  rw [hsome]
  decide +kernel

end SchemaAtlas.Sql
