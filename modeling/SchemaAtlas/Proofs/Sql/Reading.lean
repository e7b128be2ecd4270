import SchemaAtlas.Proofs.Sql.Definitions
import SchemaAtlas.Proofs.Schema.Inference

/-! # Scripts read as a whole

The graph of a script follows from its definitions alone: the tables in force, and either the
relationships of the foreign keys in force or, if there are none, those that inference finds.
How many tables there are plays no part.
-/
namespace SchemaAtlas.Sql
open Schema (Table Column Relationship Graph Kind infer inferred)

/-- The relationships of those foreign keys that refer to known tables. Each is numbered by
its place among all keys. -/
def declaredOf (known : String → Bool) (keys : List ForeignKey) : List Relationship :=
  (keys.zipIdx.filter fun k => known k.1.referencedTable).map fun k => k.1.relationship k.2

def graphOf (ds : List TableDef) : Except Fault Graph :=
  let tables := (inForce ds).map TableDef.toTable
  if lastingKeys ds = [] then infer tables
  else .ok ⟨tables, declaredOf (fun name => ds.any fun d => d.name = name) (lastingKeys ds)⟩

theorem declared_eq (known : String → Bool) (keys : List ForeignKey) (i : Nat) :
    (declared known i keys).1 =
      ((keys.zipIdx i).filter fun k => known k.1.referencedTable).map fun k =>
        k.1.relationship k.2 := by
  induction keys generalizing i with
  | nil => rfl
  | cons k rest ih =>
    rw [declared, List.zipIdx_cons, ← List.singleton_append, List.filter_append, List.map_append,
      ← ih (i + 1)]
    cases hk : known k.referencedTable <;> simp [hk]

theorem Catalog.defines_ofDefinitions (ds : List TableDef) (name : String) :
    (ofDefinitions ds).defines name = ds.any fun d => d.name = name := by
  have h := @mem_inForce_names ds name
  simp only [List.mem_map] at h
  rw [Bool.eq_iff_iff]
  simpa [ofDefinitions, defines] using h

theorem TableDef.toTable_isTextual (d : TableDef) : d.toTable.IsTextual := by
  refine ⟨⟨d.name, rfl⟩, ?_⟩
  intro c hc
  obtain ⟨e, _, rfl⟩ := List.mem_map.mp hc
  exact ⟨⟨_, rfl⟩, _, rfl⟩

theorem isTextual_of_mem_map_toTable {ds : List TableDef} :
    ∀ t ∈ ds.map TableDef.toTable, t.IsTextual := by
  intro t ht
  obtain ⟨d, _, rfl⟩ := List.mem_map.mp ht
  exact d.toTable_isTextual

/-- Without foreign keys the graph is inferred, be there many tables, one or none. -/
theorem Catalog.graph_of_keys_eq_nil {ds : List TableDef} (h : lastingKeys ds = []) :
    (ofDefinitions ds).graph.1 = inferred ((inForce ds).map TableDef.toTable) := by
  simp only [graph, ofDefinitions, h, List.isEmpty_nil, Bool.true_and, decide_eq_true_eq]
  split
  · rfl
  · next hlen =>
    rw [Schema.inferred_of_links_eq_nil (Schema.links_of_length_le_one (by omega))]
    rfl

theorem Catalog.graph_of_keys_ne_nil {ds : List TableDef} (h : lastingKeys ds ≠ []) :
    (ofDefinitions ds).graph.1 = ⟨(inForce ds).map TableDef.toTable,
      declaredOf (fun name => ds.any fun d => d.name = name) (lastingKeys ds)⟩ := by
  have hempty : (lastingKeys ds).isEmpty = false := by simpa using h
  have hknown : (ofDefinitions ds).defines = fun name => ds.any fun d => d.name = name :=
    funext (defines_ofDefinitions ds)
  simp only [graph, hknown]
  simp only [ofDefinitions, hempty, Bool.false_and, Bool.false_eq_true, ↓reduceIte, declared_eq]
  rfl

theorem graphOf_eq (ds : List TableDef) :
    graphOf ds = .ok (Catalog.ofDefinitions ds).graph.1 := by
  by_cases h : lastingKeys ds = []
  · rw [Catalog.graph_of_keys_eq_nil h, graphOf, if_pos h,
      Schema.infer_eq_inferred isTextual_of_mem_map_toTable]
  · rw [Catalog.graph_of_keys_ne_nil h, graphOf, if_neg h]

theorem kind_of_mem_declaredOf {known : String → Bool} {keys : List ForeignKey}
    {r : Relationship} (h : r ∈ declaredOf known keys) : r.kind = .explicit := by
  obtain ⟨k, _, rfl⟩ := List.mem_map.mp h
  rfl

theorem kind_of_mem_inferred {tables : List Table} {r : Relationship}
    (h : r ∈ (inferred tables).relationships) : r.kind = .inferred := by
  obtain ⟨l, _, rfl⟩ := List.mem_map.mp h
  rfl

theorem parse_of_keys_eq_nil {sql : String} (h : lastingKeys (definitions sql.toList) = []) :
    parse sql = inferred ((inForce (definitions sql.toList)).map TableDef.toTable) := by
  rw [parse_eq_graph, Catalog.graph_of_keys_eq_nil h]

theorem parse_of_keys_ne_nil {sql : String} (h : lastingKeys (definitions sql.toList) ≠ []) :
    parse sql = ⟨(inForce (definitions sql.toList)).map TableDef.toTable,
      declaredOf (fun name => (definitions sql.toList).any fun d => d.name = name)
        (lastingKeys (definitions sql.toList))⟩ := by
  rw [parse_eq_graph, Catalog.graph_of_keys_ne_nil h]

/-- A script has the graph of its definitions, in which all relationships are declared or all
are inferred. -/
theorem graphOf_definitions (sql : String) :
    graphOf (definitions sql.toList) = .ok (parse sql) ∧
      ∀ r ∈ (parse sql).relationships,
        r.kind = if lastingKeys (definitions sql.toList) = [] then .inferred else .explicit := by
  refine ⟨by rw [graphOf_eq, parse_eq_graph], ?_⟩
  intro r hr
  by_cases h : lastingKeys (definitions sql.toList) = []
  · rw [parse_of_keys_eq_nil h] at hr
    rw [if_pos h, kind_of_mem_inferred hr]
  · rw [parse_of_keys_ne_nil h] at hr
    dsimp only at hr
    rw [if_neg h, kind_of_mem_declaredOf hr]

end SchemaAtlas.Sql
