import SchemaAtlas.Proofs.Sql.Boundaries
import SchemaAtlas.Proofs.Sql.Continuation
import SchemaAtlas.Proofs.Sql.Quiet
import Mathlib.Data.List.Perm.Basic

/-! # The order of statements

Where no table is defined twice, a script may give its statements in any order. The tables
come in the order of their statements and are otherwise the same, and so are the
relationships but for the numbers in their ids, whether they are declared or inferred: a
statement may refer to tables that are only defined after it.
-/
namespace SchemaAtlas.Schema

def Relationship.unnamed (r : Relationship) : Relationship :=
  { r with id := .null }

theorem links_perm {ts us : List Table} (h : ts.Perm us) : (links ts).Perm (links us) := by
  refine h.flatMap fun source _ => ?_
  exact List.Perm.flatMap_left _ fun primary _ => h.filterMap (link? source primary)

/-- Which columns are flagged does not depend on the order of the ids. -/
theorem flagForeign_congr {ids ids' : List Value} (h : ids.Perm ids') :
    Table.flagForeign ids = Table.flagForeign ids' := by
  funext t
  have hcontains : ∀ c : Column, ids.contains c.id.key = ids'.contains c.id.key := by
    intro c
    rw [Bool.eq_iff_iff, List.contains_iff_mem, List.contains_iff_mem]
    exact h.mem_iff
  simp only [Table.flagForeign, hcontains]

theorem inferred_perm {ts us : List Table} (h : ts.Perm us) :
    (inferred ts).tables.Perm (inferred us).tables ∧
      (inferred ts).relationships.Perm (inferred us).relationships := by
  have hlinks := links_perm h
  refine ⟨?_, hlinks.map _⟩
  rw [inferred, inferred, flagForeign_congr (hlinks.map fun l => l.foreign.id.key)]
  exact h.map _

end SchemaAtlas.Schema

namespace SchemaAtlas.Sql
open Schema (Relationship)

/-! A text that has lost no character has no comment, so nothing of it is hidden from the walk
and it may be followed by anything. -/

theorem length_stripFrom_le (r : Region) (u : List Char) :
    (stripFrom r u).length ≤ u.length := by
  fun_induction stripFrom r u with
  | case1 => simp
  | case2 => simpa
  | case3 => simp only [List.length_cons]; omega
  | case4 => simpa
  | case5 => simp only [List.length_cons]; omega
  | case6 => simp only [List.length_cons]; omega
  | case7 => simp only [List.length_cons]; omega
  | case8 => simp only [List.length_cons]; omega
  | case9 => simpa

theorem length_stripFrom_of_mark {c : Char} {u : List Char} (h : startsMark c u = true) :
    (stripFrom .code (c :: u)).length ≤ u.length := by
  cases u with
  | nil => simp [startsMark] at h
  | cons d u =>
    have hmark : c = '/' ∧ d = '*' ∨ c = '-' ∧ d = '-' := by simpa [startsMark] using h
    rcases hmark with ⟨rfl, rfl⟩ | ⟨rfl, rfl⟩
    · exact (length_stripFrom_le (.blockComment false) u).trans (Nat.le_succ _)
    · exact (length_stripFrom_le .lineComment u).trans (Nat.le_succ _)

theorem opensComment_of_stripFrom {s : State} (hs : s.IsSettled) (i : Int) {u : List Char}
    (h : stripFrom (.ofState s) u = u) : opensComment (tokensFrom s i u) = false := by
  induction u generalizing s i with
  | nil => rfl
  | cons c u ih =>
    rw [tokensFrom_cons, opensComment, Bool.or_eq_false_iff, tokensFrom_map_char]
    cases hq : s.quote with
    | some q =>
      have hr : Region.ofState s = .literal q s.escaped := by rw [Region.ofState, hq]
      rw [hr, stripFrom, Region.ofState_step_literal hq, List.cons.injEq] at h
      exact ⟨by simp [State.quotes, hq], ih (hs.step c) (i + 1) h.2⟩
    | none =>
      have hr : Region.ofState s = .code := by rw [Region.ofState, hq]
      rw [hr] at h
      cases hmark : startsMark c u with
      | true =>
        have hlen := length_stripFrom_of_mark hmark
        rw [h, List.length_cons] at hlen
        omega
      | false =>
        rw [stripFrom_code_cons hmark] at h
        split at h
        · have hlen := length_stripFrom_le .lineComment u
          rw [h, List.length_cons] at hlen
          omega
        · next hhash =>
          rw [Region.ofState_step_code hs hq, List.cons.injEq] at h
          exact ⟨by simp [hhash], ih (hs.step c) (i + 1) h.2⟩

/-- A statement without comments that is closed, is not cut, and defines a table. -/
structure IsTableStatement (s : List Char) : Prop where
  uncommented : stripComments s = s
  closed : (State.initial.run s).isClosed = true
  undivided : ∀ t ∈ tokens s, t.delimits ';' = false
  defines : (tableStatement s).1.isSome = true

namespace IsTableStatement

variable {s : List Char} (h : IsTableStatement s)
include h

theorem isClosedScript : IsClosedScript s where
  region := by
    have hmark := opensComment_of_stripFrom State.isSettled_initial 0 h.uncommented
    have hregion := (stripFrom_of_uncommented State.isSettled_initial 0 hmark).2
    rw [State.run_eq_initial h.closed] at hregion
    exact hregion
  state := by
    rw [h.uncommented]
    exact h.closed

theorem definitions_eq : definitions s = (tableStatement s).1.toList := by
  have hcut : cut (Token.delimits ';') (tokens s) = ([], s) := by
    rw [cut_of_none h.undivided, tokens, tokensFrom_map_char]
  rw [Sql.definitions_eq, h.uncommented, hcut, List.nil_append]
  cases hd : (tableStatement s).1 <;> simp [hd]

end IsTableStatement

/-- The tables that some statements define, each by itself. -/
def tablesOf (ss : List (List Char)) : List TableDef :=
  ss.filterMap fun s => (tableStatement s).1

theorem definitions_intercalate {ss : List (List Char)} (h : ∀ s ∈ ss, IsTableStatement s) :
    definitions ([';'].intercalate ss) = tablesOf ss := by
  induction ss with
  | nil => rfl
  | cons s ss ih =>
    have hs := h s List.mem_cons_self
    have hrest := ih fun u hu => h u (List.mem_cons_of_mem _ hu)
    have hcons : tablesOf (s :: ss) = (tableStatement s).1.toList ++ tablesOf ss := by
      rw [tablesOf, List.filterMap_cons]
      cases (tableStatement s).1 <;> rfl
    cases ss with
    | nil => rw [List.intercalate_singleton, hs.definitions_eq, hcons, tablesOf, List.filterMap_nil,
        List.append_nil]
    | cons v ss =>
      rw [List.intercalate_cons_cons, List.append_assoc, List.singleton_append,
        hs.isClosedScript.definitions_append, hs.definitions_eq, hrest, hcons]

theorem lasting_of_nodup {ds : List TableDef} (h : (ds.map TableDef.name).Nodup) :
    lasting ds = ds := by
  induction ds with
  | nil => rfl
  | cons d ds ih =>
    obtain ⟨hd, hrest⟩ := List.nodup_cons.mp h
    have hno : ds.any (fun e => e.name = d.name) = false := by
      rw [List.any_eq_false]
      intro e he hname
      exact hd (List.mem_map.mpr ⟨e, he, of_decide_eq_true hname⟩)
    rw [lasting, hno, ih hrest]
    rfl

/-- Without their ids, the relationships of foreign keys do not tell in which order the keys
stand. -/
theorem declaredOf_unnamed (known : String → Bool) (keys : List ForeignKey) :
    (declaredOf known keys).map Relationship.unnamed =
      (keys.filter fun k => known k.referencedTable).map fun k => (k.relationship 0).unnamed := by
  have hkeys : keys.filter (fun k => known k.referencedTable) =
      (keys.zipIdx.filter fun k => known k.1.referencedTable).map Prod.fst := by
    conv_lhs => rw [← List.zipIdx_map_fst 0 keys]
    rw [List.filter_map]
    rfl
  rw [hkeys, declaredOf, List.map_map, List.map_map]
  rfl

theorem declaredOf_perm {known : String → Bool} {keys keys' : List ForeignKey}
    (h : keys.Perm keys') :
    ((declaredOf known keys).map Relationship.unnamed).Perm
      ((declaredOf known keys').map Relationship.unnamed) := by
  rw [declaredOf_unnamed, declaredOf_unnamed]
  exact (h.filter _).map _

/-- The graph of definitions of different tables does not depend on their order. -/
theorem graph_perm {ds es : List TableDef} (h : ds.Perm es) (hn : (ds.map TableDef.name).Nodup) :
    (Catalog.ofDefinitions ds).graph.1.tables.Perm (Catalog.ofDefinitions es).graph.1.tables ∧
      ((Catalog.ofDefinitions ds).graph.1.relationships.map Relationship.unnamed).Perm
        ((Catalog.ofDefinitions es).graph.1.relationships.map Relationship.unnamed) := by
  have hn' : (es.map TableDef.name).Nodup := (h.map _).nodup_iff.mp hn
  have hkeys : (lastingKeys ds).Perm (lastingKeys es) := by
    rw [lastingKeys, lastingKeys, lasting_of_nodup hn, lasting_of_nodup hn']
    exact h.flatMap_right _
  have hforce : ((inForce ds).map TableDef.toTable).Perm ((inForce es).map TableDef.toTable) := by
    rw [inForce_of_nodup hn, inForce_of_nodup hn']
    exact h.map _
  by_cases hnil : lastingKeys ds = []
  · have hnil' : lastingKeys es = [] := (hnil ▸ hkeys).nil_eq.symm
    rw [Catalog.graph_of_keys_eq_nil hnil, Catalog.graph_of_keys_eq_nil hnil']
    obtain ⟨htables, hrelationships⟩ := Schema.inferred_perm hforce
    exact ⟨htables, hrelationships.map _⟩
  · have hnil' : lastingKeys es ≠ [] := by
      intro he
      exact hnil (he ▸ hkeys).eq_nil
    have hknown : (fun name => ds.any fun d => d.name = name) =
        fun name => es.any fun d => d.name = name := by
      funext name
      rw [Bool.eq_iff_iff, List.any_eq_true, List.any_eq_true]
      exact exists_congr fun d => and_congr_left' h.mem_iff
    rw [Catalog.graph_of_keys_ne_nil hnil, Catalog.graph_of_keys_ne_nil hnil', hknown]
    dsimp only
    exact ⟨hforce, declaredOf_perm hkeys⟩

theorem definitions_script {ss : List String} (h : ∀ s ∈ ss, IsTableStatement s.toList) :
    definitions (";".intercalate ss).toList = tablesOf (ss.map String.toList) := by
  have hsep : ";".toList = [';'] := rfl
  rw [String.toList_intercalate, hsep]
  refine definitions_intercalate fun s hs => ?_
  obtain ⟨t, ht, rfl⟩ := List.mem_map.mp hs
  exact h t ht

/-- Scripts of the same statements in another order have the same tables and, apart from their
ids, the same relationships. -/
theorem parse_perm {ss ss' : List String} (hp : ss.Perm ss')
    (hs : ∀ s ∈ ss, IsTableStatement s.toList)
    (hn : ((tablesOf (ss.map String.toList)).map TableDef.name).Nodup) :
    (parse (";".intercalate ss)).tables.Perm (parse (";".intercalate ss')).tables ∧
      ((parse (";".intercalate ss)).relationships.map Relationship.unnamed).Perm
        ((parse (";".intercalate ss')).relationships.map Relationship.unnamed) := by
  have hs' : ∀ s ∈ ss', IsTableStatement s.toList := fun s hmem => hs s (hp.mem_iff.mpr hmem)
  rw [parse_eq_graph, parse_eq_graph, definitions_script hs, definitions_script hs']
  exact graph_perm ((hp.map _).filterMap _) hn

def forwardReference : List String :=
  ["create table b (id int, a_id int, foreign key (a_id) references a (id))",
    "create table a (id int)"]

/-- A statement may refer to a table that is defined after it. -/
theorem parse_perm_forwardReference :
    (parse (";".intercalate forwardReference)).tables.Perm
        (parse (";".intercalate forwardReference.reverse)).tables ∧
      ((parse (";".intercalate forwardReference)).relationships.map Relationship.unnamed).Perm
        ((parse (";".intercalate forwardReference.reverse)).relationships.map
          Relationship.unnamed) :=
  parse_perm (List.reverse_perm _).symm
    (by
      simp only [forwardReference, List.forall_mem_cons]
      exact ⟨⟨by decide +kernel, by decide +kernel, by decide +kernel, by decide +kernel⟩,
        ⟨by decide +kernel, by decide +kernel, by decide +kernel, by decide +kernel⟩,
        by simp⟩)
    (by decide +kernel)

end SchemaAtlas.Sql
