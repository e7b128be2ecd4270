import SchemaAtlas.Sql.Script
import SchemaAtlas.Layout.Digraph
import Mathlib.Data.List.Basic
import Mathlib.Data.List.Induction

/-! # The definitions that a script leaves in force

A script is a list of definitions. The reader keeps a catalog and mends it at every
redefinition; what it holds in the end is said here without any order of steps: the last
definition of each name at the place of the first, and the foreign keys of the definitions
that are not replaced later.
-/
namespace SchemaAtlas.Sql

/-- The definitions that the statements of a script give, in order. -/
def definitions (sql : List Char) : List TableDef :=
  (statements sql).filterMap fun s => (tableStatement s).1

def lastNamed? (ds : List TableDef) (name : String) : Option TableDef :=
  ds.reverse.find? fun d => d.name = name

/-- One definition for each name: the last one, where the name came first. -/
def inForce (ds : List TableDef) : List TableDef :=
  (ds.map TableDef.name).eraseDups.filterMap (lastNamed? ds)

/-- The definitions that no later one replaces, in order. -/
def lasting : List TableDef → List TableDef
  | [] => []
  | d :: rest => if rest.any fun e => e.name = d.name then lasting rest else d :: lasting rest

/-- The foreign keys of the definitions that last. -/
def lastingKeys (ds : List TableDef) : List ForeignKey :=
  (lasting ds).flatMap TableDef.foreignKeys

theorem lastNamed?_concat (ds : List TableDef) (d : TableDef) (name : String) :
    lastNamed? (ds ++ [d]) name = if d.name = name then some d else lastNamed? ds name := by
  by_cases h : d.name = name <;> simp [lastNamed?, h]

theorem name_of_lastNamed? {ds : List TableDef} {d : TableDef} {name : String}
    (h : lastNamed? ds name = some d) : d.name = name := by
  simpa using List.find?_some h

theorem lastNamed?_mem {ds : List TableDef} {d : TableDef} {name : String}
    (h : lastNamed? ds name = some d) : d ∈ ds := by
  simpa using List.mem_of_find?_eq_some h

theorem exists_lastNamed? {ds : List TableDef} {name : String}
    (h : name ∈ ds.map TableDef.name) : ∃ d, lastNamed? ds name = some d := by
  obtain ⟨e, he, hn⟩ := List.mem_map.mp h
  cases hd : lastNamed? ds name with
  | some d => exact ⟨d, rfl⟩
  | none =>
    have := List.find?_eq_none.mp hd e (List.mem_reverse.mpr he)
    simp [hn] at this

theorem map_name_filterMap_lastNamed? (ds : List TableDef) {names : List String}
    (h : ∀ n ∈ names, n ∈ ds.map TableDef.name) :
    (names.filterMap (lastNamed? ds)).map TableDef.name = names := by
  induction names with
  | nil => rfl
  | cons n names ih =>
    obtain ⟨d, hd⟩ := exists_lastNamed? (h n List.mem_cons_self)
    rw [List.filterMap_cons_some hd, List.map_cons, name_of_lastNamed? hd,
      ih fun m hm => h m (List.mem_cons_of_mem _ hm)]

theorem inForce_names (ds : List TableDef) :
    (inForce ds).map TableDef.name = (ds.map TableDef.name).eraseDups :=
  map_name_filterMap_lastNamed? ds fun _ hn => List.mem_eraseDups.mp hn

theorem inForce_names_nodup (ds : List TableDef) : ((inForce ds).map TableDef.name).Nodup := by
  rw [inForce_names]
  exact Layout.nodup_eraseDups _

theorem mem_of_mem_inForce {ds : List TableDef} {d : TableDef} (h : d ∈ inForce ds) :
    d ∈ ds := by
  obtain ⟨name, _, hd⟩ := List.mem_filterMap.mp h
  exact lastNamed?_mem hd

theorem mem_inForce_names {ds : List TableDef} {name : String} :
    name ∈ (inForce ds).map TableDef.name ↔ name ∈ ds.map TableDef.name := by
  rw [inForce_names, List.mem_eraseDups]

theorem replaceTable_of_notMem {t : TableDef} {ts : List TableDef}
    (h : t.name ∉ ts.map TableDef.name) : replaceTable t ts = ts ++ [t] := by
  induction ts with
  | nil => rfl
  | cons u rest ih =>
    simp only [List.map_cons, List.mem_cons, not_or] at h
    rw [replaceTable, if_neg (Ne.symm h.1), ih h.2, List.cons_append]

theorem replaceTable_of_mem {t : TableDef} {ts : List TableDef}
    (hn : (ts.map TableDef.name).Nodup) (h : t.name ∈ ts.map TableDef.name) :
    replaceTable t ts = ts.map fun u => if u.name = t.name then t else u := by
  induction ts with
  | nil => simp at h
  | cons u rest ih =>
    obtain ⟨hu, hrest⟩ := List.nodup_cons.mp hn
    by_cases he : u.name = t.name
    · have hid : ∀ w ∈ rest, (if w.name = t.name then t else w) = w := by
        intro w hw
        rw [if_neg]
        intro hwt
        exact hu (List.mem_map.mpr ⟨w, hw, hwt.trans he.symm⟩)
      rw [replaceTable, if_pos he, List.map_cons, if_pos he, List.map_congr_left hid, List.map_id']
    · have hm : t.name ∈ rest.map TableDef.name := by
        simpa [Ne.symm he] using h
      rw [replaceTable, if_neg he, List.map_cons, if_neg he, ih hrest hm]

/-- Putting one more definition into the catalog is reading one more definition. -/
theorem inForce_concat (ds : List TableDef) (d : TableDef) :
    inForce (ds ++ [d]) = replaceTable d (inForce ds) := by
  -- Under the names known so far nothing changes but the definition of the new one's name.
  have hold : (ds.map TableDef.name).eraseDups.filterMap (lastNamed? (ds ++ [d])) =
      (inForce ds).map fun u => if u.name = d.name then d else u := by
    rw [inForce, List.map_filterMap]
    refine List.filterMap_congr fun name hname => ?_
    obtain ⟨e, he⟩ := exists_lastNamed? (List.mem_eraseDups.mp hname)
    rw [lastNamed?_concat, he, Option.map_some, name_of_lastNamed? he]
    by_cases hd : d.name = name
    · simp [hd]
    · simp [hd, Ne.symm hd]
  rw [inForce, List.map_append, List.eraseDups_append, List.filterMap_append, hold]
  by_cases hm : d.name ∈ ds.map TableDef.name
  · rw [replaceTable_of_mem (inForce_names_nodup ds) (mem_inForce_names.mpr hm)]
    simp [List.removeAll, List.mem_map.mp hm]
  · have hnot : d.name ∉ (inForce ds).map TableDef.name := fun h => hm (mem_inForce_names.mp h)
    have hid : ∀ u ∈ inForce ds, (if u.name = d.name then d else u) = u := by
      intro u hu
      rw [if_neg]
      intro he
      exact hnot (List.mem_map.mpr ⟨u, hu, he⟩)
    have hnew : [d.name].removeAll (ds.map TableDef.name) = [d.name] := by
      simpa [List.removeAll] using hm
    rw [replaceTable_of_notMem hnot, List.map_congr_left hid, List.map_id', List.map_cons,
      List.map_nil, hnew]
    simp [List.eraseDups_cons, lastNamed?_concat]

/-- Where no table is defined twice, all definitions stay in force. -/
theorem inForce_of_nodup {ds : List TableDef} (h : (ds.map TableDef.name).Nodup) :
    inForce ds = ds := by
  induction ds using List.reverseRecOn with
  | nil => rfl
  | append_singleton ds d ih =>
    rw [List.map_append, List.nodup_append] at h
    obtain ⟨hds, _, hd⟩ := h
    have hnot : d.name ∉ ds.map TableDef.name :=
      fun hm => hd d.name hm d.name (List.mem_singleton_self _) rfl
    rw [inForce_concat, ih hds, replaceTable_of_notMem hnot]

theorem lasting_concat (ds : List TableDef) (d : TableDef) :
    lasting (ds ++ [d]) = (lasting ds).filter (fun e => e.name ≠ d.name) ++ [d] := by
  induction ds with
  | nil => simp [lasting]
  | cons e ds ih =>
    rw [List.cons_append, lasting, lasting, List.any_append, ih]
    by_cases hr : ds.any (fun u => u.name = e.name) = true
    · simp [hr]
    · by_cases he : d.name = e.name <;> simp [hr, he, Ne.symm]

theorem mem_of_mem_lasting {ds : List TableDef} {d : TableDef} (h : d ∈ lasting ds) : d ∈ ds := by
  induction ds with
  | nil => simp [lasting] at h
  | cons e ds ih =>
    rw [lasting] at h
    split at h
    · exact List.mem_cons_of_mem _ (ih h)
    · rcases List.mem_cons.mp h with rfl | h
      · exact List.mem_cons_self
      · exact List.mem_cons_of_mem _ (ih h)

theorem lastingKeys_eq_nil {ds : List TableDef} (h : ∀ d ∈ ds, d.foreignKeys = []) :
    lastingKeys ds = [] :=
  List.flatMap_eq_nil_iff.mpr fun d hd => h d (mem_of_mem_lasting hd)

/-- The foreign keys of a definition are those of its own table. -/
def TableDef.OwnsKeys (d : TableDef) : Prop :=
  ∀ k ∈ d.foreignKeys, k.table = d.name

theorem filter_flatMap_foreignKeys {ds : List TableDef} (ho : ∀ d ∈ ds, d.OwnsKeys)
    (name : String) :
    (ds.flatMap TableDef.foreignKeys).filter (fun k => k.table ≠ name) =
      (ds.filter fun d => d.name ≠ name).flatMap TableDef.foreignKeys := by
  induction ds with
  | nil => rfl
  | cons d ds ih =>
    have hd := ho d List.mem_cons_self
    rw [List.flatMap_cons, List.filter_append, ih fun e he => ho e (List.mem_cons_of_mem _ he)]
    by_cases hn : d.name = name
    · have : d.foreignKeys.filter (fun k => k.table ≠ name) = [] := by
        apply List.filter_eq_nil_iff.mpr
        intro k hk
        simp [hd k hk, hn]
      rw [this, List.filter_cons_of_neg (by simp [hn]), List.nil_append]
    · have : d.foreignKeys.filter (fun k => k.table ≠ name) = d.foreignKeys := by
        apply List.filter_eq_self.mpr
        intro k hk
        simp [hd k hk, hn]
      rw [this, List.filter_cons_of_pos (by simp [hn]), List.flatMap_cons]

theorem lastingKeys_concat {ds : List TableDef} (ho : ∀ d ∈ ds, d.OwnsKeys) (d : TableDef) :
    lastingKeys (ds ++ [d]) =
      (lastingKeys ds).filter (fun k => k.table ≠ d.name) ++ d.foreignKeys := by
  rw [lastingKeys, lasting_concat, List.flatMap_append, lastingKeys,
    filter_flatMap_foreignKeys fun e he => ho e (mem_of_mem_lasting he)]
  simp

def Catalog.ofDefinitions (ds : List TableDef) : Catalog :=
  ⟨inForce ds, lastingKeys ds⟩

theorem Catalog.ofDefinitions_add {ds : List TableDef} (ho : ∀ d ∈ ds, d.OwnsKeys)
    (d : TableDef) : (ofDefinitions ds).add d = ofDefinitions (ds ++ [d]) := by
  rw [ofDefinitions, ofDefinitions, inForce_concat, lastingKeys_concat ho, Catalog.add]

theorem TableDef.ofClauses_ownsKeys (name : String) (clauses : List Clause)
    (options : List Char) : (TableDef.ofClauses name clauses options).OwnsKeys := by
  intro k hk
  obtain ⟨c, _, hc⟩ := List.mem_filterMap.mp hk
  cases c with
  | foreignKey own table column =>
    cases hc
    rfl
  | _ => simp [Clause.foreignKey?] at hc

/-- What a statement that defines a table consists of. -/
theorem tableStatement_eq_some {statement : List Char} {d : TableDef}
    (h : (tableStatement statement).1 = some d) :
    ∃ name body options, sections? statement = some (name, .ok (body, options)) ∧
      d = .ofClauses name ((splitAt ',' body).map clause) options := by
  unfold tableStatement at h
  split at h
  · cases h
  · cases h
  · next name body options hs => exact ⟨name, body, options, hs, (Option.some.inj h).symm⟩

theorem tableStatement_ownsKeys {statement : List Char} {d : TableDef}
    (h : (tableStatement statement).1 = some d) : d.OwnsKeys := by
  obtain ⟨name, body, options, _, rfl⟩ := tableStatement_eq_some h
  exact TableDef.ofClauses_ownsKeys _ _ _

theorem definitions_ownsKeys (sql : List Char) : ∀ d ∈ definitions sql, d.OwnsKeys := by
  intro d hd
  obtain ⟨s, _, hs⟩ := List.mem_filterMap.mp hd
  exact tableStatement_ownsKeys hs

theorem Catalog.addStatement_fst (c : Catalog) (s : List Char) :
    (c.addStatement s).1 = match (tableStatement s).1 with
      | some d => c.add d
      | none => c := by
  unfold Catalog.addStatement
  split <;> simp_all

/-- Reading statements one after the other keeps the catalog of all definitions so far. -/
theorem Catalog.addStatements_ofDefinitions (ss : List (List Char)) (ds : List TableDef)
    (ho : ∀ d ∈ ds, d.OwnsKeys) :
    ((ofDefinitions ds).addStatements ss).1 =
      ofDefinitions (ds ++ ss.filterMap fun s => (tableStatement s).1) := by
  induction ss generalizing ds with
  | nil => simp [Catalog.addStatements]
  | cons s ss ih =>
    rw [Catalog.addStatements]
    simp only [Catalog.addStatement_fst]
    cases hs : (tableStatement s).1 with
    | none => simpa [hs] using ih ds ho
    | some d =>
      have hod : ∀ e ∈ ds ++ [d], e.OwnsKeys := by
        intro e he
        rcases List.mem_append.mp he with he | he
        · exact ho e he
        · rw [List.mem_singleton.mp he]
          exact tableStatement_ownsKeys hs
      simpa [hs, ofDefinitions_add ho] using ih (ds ++ [d]) hod

/-- A script leaves the catalog of its definitions. -/
theorem Catalog.addStatements_statements (sql : List Char) :
    (empty.addStatements (statements sql)).1 = ofDefinitions (definitions sql) :=
  addStatements_ofDefinitions (statements sql) [] (by simp)

theorem parse_eq_graph (sql : String) :
    parse sql = (Catalog.ofDefinitions (definitions sql.toList)).graph.1 := by
  rw [← Catalog.addStatements_statements]
  rfl

end SchemaAtlas.Sql
