import SchemaAtlas.Proofs.Sql.ColumnIds
import SchemaAtlas.Proofs.Sql.GrammarStatements
import SchemaAtlas.Proofs.Sql.RespacedWalks

/-! # Statements with other blanks

A statement defines the same table however many blanks, tabs and line feeds keep its words apart.
There are three exceptions. The names in a primary key must stand on one line. A column whose name
holds a blank is read up to that blank, and the rest of its name and what follows as its type. And a
comment that begins inside another literal may go on where blanks count for nothing else.
-/
namespace SchemaAtlas.Sql
open Text

/-! Columns. -/

theorem startsSolid_of_isSolid {name : List Char} (hn : IsSolid name) (hne : name ≠ [])
    (v : List Char) : startsSolid (name ++ v) = true := by
  obtain ⟨c, u, rfl⟩ := List.exists_cons_of_ne_nil hne
  rw [List.cons_append, startsSolid, hn c List.mem_cons_self]
  rfl

section Column
variable {name g type m : List Char} (hn : IsSolid name) (hne : name ≠ []) (hg : IsGap g)
  (ht : IsTypeWord type)
include hn hne ht

theorem strip_columnText (m : List Char) :
    strip (name ++ (g ++ (type ++ m))) = name ++ (g ++ (type ++ stripEnd m)) := by
  have hend : stripEnd (name ++ (g ++ type)) = name ++ (g ++ type) := by
    have hsolid := endsSolid_append name (endsSolid_append g ht.endsSolid)
    have hstrip := strip_of_solid (startsSolid_of_isSolid hn hne (g ++ type)) hsolid
    rwa [strip, stripStart_of_startsSolid (startsSolid_of_isSolid hn hne _)] at hstrip
  have happend : ∀ w, name ++ (g ++ (type ++ w)) = name ++ (g ++ type) ++ w := fun w => by
    rw [List.append_assoc, List.append_assoc]
  rw [strip, stripStart_of_startsSolid (startsSolid_of_isSolid hn hne _), happend, happend,
    stripEnd_append]
  split
  · next hm => rw [hend, stripEnd_of_allBlank hm, List.append_nil]
  · rfl

include hg

theorem column?_columnText (hm : ∀ c ∈ m.head?, isBlank c = true) {b : List Char}
    (hb : allBlank b = true) :
    column? (strip (b ++ (name ++ (g ++ (type ++ m))))) = some {
      name := .ofList (bareName name)
      type := .ofList (upper type)
      isPrimary := mentionsPrimaryKey (strip m)
      isForeign := false
      comment := .ofList (commentText columnComment? (strip m))
      nullable := !mentionsNotNull (strip m) } := by
  have hstrip := strip_columnText (g := g) hn hne ht
  have hword := firstWord_append hn hne hg (startsSolid_append ht.startsSolid (stripEnd m))
  have hempty : (name.isEmpty || (type ++ stripEnd m).isEmpty) = false := by
    simp [hne, ht.ne_nil]
  rw [strip_blank_append hb, hstrip, column?, hstrip, stripEnd_stripEnd, hword]
  dsimp only
  rw [hempty, if_neg Bool.false_ne_true, typeEnd_word ht (head?_stripEnd hm), List.take_left,
    List.drop_left, strip_stripEnd]

end Column

/-! Clauses. -/

/-- Clauses that count the same for a table, up to names that no column has. -/
structure Clause.CountsAs (c d : Clause) : Prop where
  column : c.column? = d.column?
  foreignKey : ∀ table, c.foreignKey? table = d.foreignKey? table
  names : ∀ n : String, IsSolid n.toList → (n ∈ c.primaryNames ↔ n ∈ d.primaryNames)

/-- Clauses of a table that differ in their runs of blanks. A column is named by one word, its
type is left as it is, and the comment on it is no part of another literal. Of the other clauses
those of a primary key have their names on one line. -/
inductive RespacedClause : List Char → List Char → Prop
  | same (u : List Char) : RespacedClause u u
  | column {b b' name g g' type m m' : List Char}
      (hcolumn : isColumnClause (b ++ (name ++ (g ++ (type ++ m)))) = true)
      (hb : allBlank b = true) (hb' : allBlank b' = true) (hn : IsSolid name) (hne : name ≠ [])
      (hg : IsGap g) (hg' : IsGap g') (ht : IsTypeWord type)
      (hsep : ∀ c ∈ m.head?, isBlank c = true) (hm : State.initial.Respaced m m')
      (hc : findsOutside columnComment? .initial (strip m) = true)
      (hc' : findsOutside columnComment? .initial (strip m') = true) :
      RespacedClause (b ++ (name ++ (g ++ (type ++ m)))) (b' ++ (name ++ (g' ++ (type ++ m'))))
  | other {u v : List Char} (hu : (clause u).column? = none) (h : Alike (strip u) (strip v))
      (hk : isKeyClause u = true →
        keysOnOneLine (strip u) = true ∧ keysOnOneLine (strip v) = true) : RespacedClause u v

theorem column?_isSome_alike {u v : List Char} (h : Alike u v) :
    (column? u).isSome = (column? v).isSome := by
  have hstrip := h.strip isAtRest_unit
  have hrest := hstrip.firstWord_snd.isEmpty_eq
  have hname : (firstWord (strip u)).1 = (firstWord (strip v)).1 :=
    (hstrip.stripStart isAtRest_unit).takeWhile_eq fun c hc => by rw [hc]; rfl
  rw [column?, column?]
  dsimp only
  rw [hname, hrest]
  split
  · rfl
  · rw [Option.isSome_some, Option.isSome_some]

theorem countsAs_of_alike {u v : List Char} (h : Alike (strip u) (strip v))
    (hu : (clause u).column? = none)
    (hk : isKeyClause u = true → keysOnOneLine (strip u) = true ∧ keysOnOneLine (strip v) = true) :
    (clause u).CountsAs (clause v) := by
  have hcolumn := column?_isSome_alike h
  rw [isKeyClause] at hk
  unfold clause at hu ⊢
  simp only [← h.isEmpty_eq, ← isIndexClause_alike h, ← isPrimaryKeyClause_alike h,
    ← isConstraintClause_alike h, ← search_reference?_alike h] at hu ⊢
  split_ifs with hempty hindex hkey hconstraint
  · exact ⟨rfl, fun _ => rfl, fun _ _ => Iff.rfl⟩
  · exact ⟨rfl, fun _ => rfl, fun _ _ => Iff.rfl⟩
  · obtain ⟨hku, hkv⟩ := hk hkey
    exact ⟨rfl, fun _ => rfl, fun n hn =>
      ⟨mem_primaryKeyNames_alike h hku hkv hn, mem_primaryKeyNames_alike h.symm hkv hku hn⟩⟩
  · split
    · exact ⟨rfl, fun _ => rfl, fun _ _ => Iff.rfl⟩
    · exact ⟨rfl, fun _ => rfl, fun _ _ => Iff.rfl⟩
  · rw [if_neg hempty, if_neg hindex, if_neg hkey, if_neg hconstraint] at hu
    have hnone : column? (strip u) = none := by
      cases hread : column? (strip u) with
      | none => rfl
      | some c => rw [hread] at hu; cases hu
    have hnone' : column? (strip v) = none := by
      rw [hnone] at hcolumn
      exact Option.isNone_iff_eq_none.mp (Option.isSome_eq_false_iff.mp hcolumn.symm)
    rw [hnone, hnone']
    exact ⟨rfl, fun _ => rfl, fun _ _ => Iff.rfl⟩

theorem isColumnClause_alike {u v : List Char} (h : Alike (strip u) (strip v)) :
    isColumnClause u = isColumnClause v := by
  rw [isColumnClause, isColumnClause, isIdleClause, isIdleClause, isKeyClause, isKeyClause,
    h.isEmpty_eq, isIndexClause_alike h, isPrimaryKeyClause_alike h, isConstraintClause_alike h]

theorem clause_of_isColumnClause {u : List Char} (h : isColumnClause u = true) {c : ColumnDef}
    (hc : column? (strip u) = some c) : clause u = .column c := by
  simp only [isColumnClause, isIdleClause, isKeyClause, Bool.and_eq_true, Bool.not_eq_true',
    Bool.or_eq_false_iff] at h
  obtain ⟨⟨⟨hempty, hindex⟩, hkey⟩, hconstraint⟩ := h
  rw [clause, hempty, hindex, hkey, hconstraint, hc]
  rfl

theorem RespacedClause.alike {u v : List Char} (h : RespacedClause u v) :
    Alike (strip u) (strip v) := by
  cases h with
  | same => exact .refl () _
  | other _ h _ => exact h
  | @column b b' name g g' type m m' _ hb hb' hn hne hg hg' ht _ hm _ _ =>
    rw [strip_blank_append hb, strip_blank_append hb', strip_columnText hn hne ht,
      strip_columnText hn hne ht]
    exact .append_left name (.gap trivial hg hg' (.append_left type hm.stripEnd.alike))

theorem RespacedClause.countsAs {u v : List Char} (h : RespacedClause u v) :
    (clause u).CountsAs (clause v) := by
  have halike := h.alike
  cases h with
  | same => exact ⟨rfl, fun _ => rfl, fun _ _ => Iff.rfl⟩
  | other hu h hk => exact countsAs_of_alike h hu hk
  | @column b b' name g g' type m m' hcolumn hb hb' hn hne hg hg' ht hsep hm hc hc' =>
    have hwalk : IsAtRest State.step (fun s => s.quote = none) .initial := State.isAtRest rfl
    have hstrip : State.initial.Respaced (strip m) (strip m') := hm.strip hwalk
    have hcomment : search columnComment? (strip m) = search columnComment? (strip m') :=
      search_respaced needsHead_columnComment? (by decide)
        (fun _ _ _ hs he => columnComment?_respaced hs he) State.isSettled_initial hstrip hc hc'
    have hread := column?_columnText hn hne hg ht hsep hb
    have hread' := column?_columnText hn hne hg' ht (hm.alike.head?_blank hsep) hb'
    rw [← mentionsPrimaryKey_alike hstrip.alike, ← mentionsNotNull_alike hstrip.alike,
      commentText, ← hcomment] at hread'
    rw [clause_of_isColumnClause hcolumn hread,
      clause_of_isColumnClause (isColumnClause_alike halike ▸ hcolumn) hread']
    exact ⟨rfl, fun _ => rfl, fun _ _ => Iff.rfl⟩

/-! Statements. -/

theorem isSolid_of_mem_columns {cs : List (List Char)} {c : ColumnDef}
    (hc : c ∈ (cs.map clause).filterMap Clause.column?) : IsSolid c.name.toList := by
  obtain ⟨d, hd, hdc⟩ := List.mem_filterMap.mp hc
  obtain ⟨u, _, rfl⟩ := List.mem_map.mp hd
  have hname := clause_map_name u
  rw [hdc, Option.map_some, columnName?] at hname
  dsimp only at hname
  split_ifs at hname
  rw [Option.some.inj hname, String.toList_ofList]
  intro ch hch
  have hword := List.all_eq_true.mp List.all_takeWhile ch (List.mem_of_mem_filter hch)
  simpa using hword

theorem mem_primaryNames_of_forall₂ {cs ds : List Clause} (h : List.Forall₂ Clause.CountsAs cs ds)
    {n : String} (hn : IsSolid n.toList) :
    n ∈ cs.flatMap Clause.primaryNames ↔ n ∈ ds.flatMap Clause.primaryNames := by
  induction h with
  | nil => exact Iff.rfl
  | cons hcd _ ih =>
    rw [List.flatMap_cons, List.flatMap_cons, List.mem_append, List.mem_append, hcd.names n hn, ih]

theorem filterMap_eq_of_forall₂ {α β : Type} {f : α → Option β} {l m : List α}
    (h : List.Forall₂ (fun a b => f a = f b) l m) : l.filterMap f = m.filterMap f := by
  induction h with
  | nil => rfl
  | cons hab _ ih => rw [List.filterMap_cons, List.filterMap_cons, hab, ih]

theorem ofClauses_respaced {cs ds : List (List Char)} (h : List.Forall₂ RespacedClause cs ds)
    (name : String) {options options' : List Char}
    (ho : commentText tableComment? options = commentText tableComment? options') :
    TableDef.ofClauses name (cs.map clause) options =
      TableDef.ofClauses name (ds.map clause) options' := by
  have hcounts : List.Forall₂ Clause.CountsAs (cs.map clause) (ds.map clause) := by
    rw [List.forall₂_map_left_iff, List.forall₂_map_right_iff]
    exact h.imp fun _ _ h => h.countsAs
  have hsolid : ∀ c ∈ (cs.map clause).filterMap Clause.column?, IsSolid c.name.toList :=
    fun _ => isSolid_of_mem_columns
  generalize cs.map clause = clauses, ds.map clause = clauses' at hcounts hsolid ⊢
  have hcolumns := filterMap_eq_of_forall₂ (hcounts.imp fun _ _ h => h.column)
  have hforeign := filterMap_eq_of_forall₂ (hcounts.imp fun _ _ h => h.foreignKey name)
  have hnames : ∀ n : String, IsSolid n.toList → (clauses.flatMap Clause.primaryNames).contains n =
      (clauses'.flatMap Clause.primaryNames).contains n := by
    intro n hn
    rw [Bool.eq_iff_iff, List.contains_iff_mem, List.contains_iff_mem]
    exact mem_primaryNames_of_forall₂ hcounts hn
  rw [TableDef.ofClauses, TableDef.ofClauses, ho, ← hforeign, ← hcolumns]
  congr 1
  -- Names with blanks may differ in the two lists of keys, but no column has one of them.
  refine List.map_congr_left fun c hc => ?_
  rw [ColumnDef.withKeys, ColumnDef.withKeys, hnames _ (hsolid c hc)]

/-- Statements that differ in their runs of blanks define the same table. -/
theorem tableStatement_respaced {head head' options options' : List Char}
    {cs ds : List (List Char)} (hparen : '(' ∉ head) (hhead : Alike head head')
    (hcs : ∀ u ∈ cs, IsSegment (· = ',') u) (hclauses : List.Forall₂ RespacedClause cs ds)
    (hoptions : State.initial.Respaced options options')
    (hc : findsOutside tableComment? .initial (stripEnd options) = true)
    (hc' : findsOutside tableComment? .initial (stripEnd options') = true) :
    (tableStatement (composed head options cs)).1 =
      (tableStatement (composed head' options' ds)).1 := by
  have hparen' : '(' ∉ head' := (hhead.mem_iff (by decide)).not.mp hparen
  have hds : ∀ v ∈ ds, IsSegment (· = ',') v := by
    intro v hv
    obtain ⟨u, hu, huv⟩ := exists_of_forall₂ hclauses.flip hv
    exact (hcs u hu).respaced huv.alike
  have hcomment : commentText tableComment? (stripEnd options) =
      commentText tableComment? (stripEnd options') := by
    rw [commentText, commentText, search_respaced needsHead_tableComment? (by decide)
      (fun _ _ _ hs he => tableComment?_respaced hs he) State.isSettled_initial
      hoptions.stripEnd hc hc']
  have hheader := tableHeader?_alike (hhead.stripStart isAtRest_unit)
  rw [tableStatement_composed hcs hparen, tableStatement_composed hds hparen']
  generalize tableHeader? (stripStart head) = a, tableHeader? (stripStart head') = b at hheader ⊢
  cases hheader with
  | none => rfl
  | some hname =>
    rw [Option.map_some, Option.map_some, hname.1, ofClauses_respaced hclauses _ hcomment]

/-! A statement in the layout that a run of blanks gives it. -/

def orderHead (b : List Char) : List Char :=
  "CREATE".toList ++ (b ++ ("TABLE".toList ++ (b ++ "orders".toList)))

def orderModifiers (b : List Char) : List Char :=
  b ++ ("NOT".toList ++ (b ++ ("NULL".toList ++ (b ++ ("COMMENT".toList ++ (b ++
    "'one  key'".toList))))))

def orderColumn (b : List Char) : List Char :=
  b ++ ("id".toList ++ (b ++ ("INT".toList ++ orderModifiers b)))

/-- The blanks between the names are others, because they may hold no line feed. -/
def orderKey (b b' : List Char) : List Char :=
  b ++ ("PRIMARY".toList ++ (b ++ ("KEY".toList ++ (b ++ ("(id,".toList ++ (b' ++
    "id)".toList))))))

def orderOptions (b : List Char) : List Char :=
  b ++ ("COMMENT".toList ++ (b ++ "'all  of them'".toList))

theorem tableStatement_respaced_orders :
    (tableStatement (composed (orderHead [' ']) (orderOptions [' '])
        [orderColumn [' '], orderKey [' '] [' ']])).1.isSome = true ∧
      (tableStatement (composed (orderHead [' ']) (orderOptions [' '])
        [orderColumn [' '], orderKey [' '] [' ']])).1 =
      (tableStatement (composed (orderHead ['\n', ' ']) (orderOptions ['\n', ' '])
        [orderColumn ['\n', ' '], orderKey ['\n', ' '] ['\t']])).1 := by
  refine ⟨by decide +kernel, ?_⟩
  have hb : IsGap [' '] := by decide
  have hb' : IsGap ['\n', ' '] := by decide
  have hfree : ∀ {u v : List Char}, State.initial.Respaced u v →
      State.initial.Respaced ([' '] ++ u) (['\n', ' '] ++ v) := .gap rfl hb hb'
  have hhead : Alike (orderHead [' ']) (orderHead ['\n', ' ']) :=
    .append_left _ (.gap trivial hb hb' (.append_left _ (.gap trivial hb hb' (.refl _ _))))
  have hmodifiers : State.initial.Respaced (orderModifiers [' ']) (orderModifiers ['\n', ' ']) :=
    hfree (.append_left _ (hfree (.append_left _ (hfree (.append_left _ (hfree (.refl _ _)))))))
  have hoptions : State.initial.Respaced (orderOptions [' ']) (orderOptions ['\n', ' ']) :=
    hfree (.append_left _ (hfree (.refl _ _)))
  have hsep : ∀ c ∈ (orderModifiers [' ']).head?, isBlank c = true := by
    rintro c ⟨⟩
    decide
  have hcolumn : RespacedClause (orderColumn [' ']) (orderColumn ['\n', ' ']) :=
    .column (by decide +kernel) hb.blank hb'.blank (by decide) (by decide) hb hb' (by decide)
      hsep hmodifiers (by decide +kernel) (by decide +kernel)
  have hkey : RespacedClause (orderKey [' '] [' ']) (orderKey ['\n', ' '] ['\t']) := by
    have halike : Alike (orderKey [' '] [' ']) (orderKey ['\n', ' '] ['\t']) :=
      .gap trivial hb hb' (.append_left _ (.gap trivial hb hb' (.append_left _
        (.gap trivial hb hb' (.append_left _ (.gap trivial hb (by decide) (.refl _ _)))))))
    exact .other (by decide +kernel) (halike.strip isAtRest_unit) fun _ => by decide +kernel
  refine tableStatement_respaced (by decide) hhead ?_ (.cons hcolumn (.cons hkey .nil)) hoptions
    (by decide +kernel) (by decide +kernel)
  refine List.forall_mem_cons.mpr ⟨?_, List.forall_mem_singleton.mpr ?_⟩
  · exact ⟨by decide +kernel, by decide +kernel, by decide +kernel⟩
  · exact ⟨by decide +kernel, by decide +kernel, by decide +kernel⟩

/-- A line feed between the names of a primary key, and the columns are no keys. -/
theorem tableStatement_lineFeed :
    IsGap [' '] ∧ IsGap ['\n'] ∧
      (tableStatement ("CREATE TABLE t (a INT, b INT, PRIMARY KEY (a,".toList ++ ([' '] ++
        "b))".toList))).1.map (fun d => d.columns.map ColumnDef.isPrimary) =
          some [true, true] ∧
      (tableStatement ("CREATE TABLE t (a INT, b INT, PRIMARY KEY (a,".toList ++ (['\n'] ++
        "b))".toList))).1.map (fun d => d.columns.map ColumnDef.isPrimary) =
          some [false, false] := by
  decide +kernel

end SchemaAtlas.Sql
