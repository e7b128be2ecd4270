import SchemaAtlas.Proofs.Sql.Reading
import SchemaAtlas.Proofs.Schema.WellFormed
import SchemaAtlas.Proofs.Text.Word
import Mathlib.Data.List.Sigma

/-! # Scripts describe well-formed graphs

The label of a table is what the header of its statement names, a text of word characters.
All ids are made from labels and column names, whether the relationships are declared or
inferred.
-/
namespace SchemaAtlas.Sql
open Schema (Table Column Relationship Graph tableId columnId IsUnhyphenated)

theorem identifier?_isName {s name rest : List Char} (h : identifier? s = some (name, rest)) :
    Text.IsName name := by
  unfold identifier? at h
  simp only at h
  split at h
  · cases h
  · next hne =>
    obtain ⟨rfl, _⟩ := Prod.mk.inj (Option.some.inj h)
    exact Text.isName_takeWhile rfl hne

theorem tableHeader?_isName {s name rest : List Char} (h : tableHeader? s = some (name, rest)) :
    Text.IsName name := by
  obtain ⟨u, _, h⟩ := Option.bind_eq_some_iff.mp h
  obtain ⟨v, _, h⟩ := Option.bind_eq_some_iff.mp h
  rcases Option.or_eq_some_iff.mp h with h | ⟨_, h⟩
  · obtain ⟨w, _, h⟩ := Option.bind_eq_some_iff.mp h
    exact identifier?_isName h
  · exact identifier?_isName h

theorem sections?_isName {s : List Char} {name : String} {e : Except Note (List Char × List Char)}
    (h : sections? s = some (name, e)) : Text.IsName name.toList := by
  obtain ⟨⟨word, rest⟩, hw, h⟩ := Option.bind_eq_some_iff.mp h
  have hname : name = String.ofList word := by
    simp only at h
    split at h
    · exact (Prod.mk.inj (Option.some.inj h)).1.symm
    · split at h
      · exact (Prod.mk.inj (Option.some.inj h)).1.symm
      · exact (Prod.mk.inj (Option.some.inj h)).1.symm
  rw [hname, String.toList_ofList]
  exact tableHeader?_isName hw

/-- Tables are named by words. -/
theorem definitions_isName {sql : List Char} {d : TableDef} (h : d ∈ definitions sql) :
    Text.IsName d.name.toList := by
  obtain ⟨s, _, hs⟩ := List.mem_filterMap.mp h
  obtain ⟨name, body, options, hsections, rfl⟩ := tableStatement_eq_some hs
  exact sections?_isName hsections

theorem isUnhyphenated_of_isName {s : String} (h : Text.IsName s.toList) : IsUnhyphenated s :=
  h.notMem (by decide)

theorem TableDef.toTable_hasOwnIds (d : TableDef) : d.toTable.HasOwnIds := by
  refine ⟨d.name, rfl, rfl, ?_⟩
  intro c hc
  obtain ⟨e, _, rfl⟩ := List.mem_map.mp hc
  exact ⟨e.name, rfl, rfl⟩

section
variable (ds : List TableDef)

theorem inForce_ids_nodup : (((inForce ds).map TableDef.toTable).map Table.id).Nodup := by
  have hid : ((inForce ds).map TableDef.toTable).map Table.id =
      ((inForce ds).map TableDef.name).map fun name => Value.str (tableId name) := by
    simp [TableDef.toTable]
  rw [hid]
  refine (inForce_names_nodup ds).map ?_
  intro a b hab
  exact Schema.tableId_injective (Value.str.inj hab)

theorem inForce_hasOwnIds : ∀ t ∈ (inForce ds).map TableDef.toTable, t.HasOwnIds := by
  intro t ht
  obtain ⟨d, _, rfl⟩ := List.mem_map.mp ht
  exact d.toTable_hasOwnIds

variable {ds}

theorem exists_table_of_name {name : String} (h : name ∈ ds.map TableDef.name) :
    ∃ t ∈ (inForce ds).map TableDef.toTable, t.label = .str name ∧ t.id = .str (tableId name) := by
  obtain ⟨d, hd, rfl⟩ := List.mem_map.mp (mem_inForce_names.mpr h)
  exact ⟨d.toTable, List.mem_map.mpr ⟨d, hd, rfl⟩, rfl, rfl⟩

theorem mem_lastingKeys {k : ForeignKey} (ho : ∀ d ∈ ds, d.OwnsKeys) (h : k ∈ lastingKeys ds) :
    k.table ∈ ds.map TableDef.name := by
  obtain ⟨d, hd, hk⟩ := List.mem_flatMap.mp h
  have hm := mem_of_mem_lasting hd
  exact List.mem_map.mpr ⟨d, hm, (ho d hm k hk).symm⟩

theorem declaredOf_joins (ho : ∀ d ∈ ds, d.OwnsKeys) {r : Relationship}
    (h : r ∈ declaredOf (fun name => ds.any fun d => d.name = name) (lastingKeys ds)) :
    ∃ s ∈ (inForce ds).map TableDef.toTable, ∃ t ∈ (inForce ds).map TableDef.toTable,
      r.Joins s t := by
  obtain ⟨⟨k, i⟩, hk, rfl⟩ := List.mem_map.mp h
  obtain ⟨hk, hknown⟩ := List.mem_filter.mp hk
  have hsource : k.referencedTable ∈ ds.map TableDef.name := by simpa using hknown
  have htarget := mem_lastingKeys ho (List.fst_mem_of_mem_zipIdx hk)
  obtain ⟨s, hs, hsl, hsi⟩ := exists_table_of_name hsource
  obtain ⟨t, ht, htl, hti⟩ := exists_table_of_name htarget
  exact ⟨s, hs, t, ht, hsi.symm, hti.symm, ⟨_, _, hsl, rfl⟩, _, _, htl, rfl⟩

/-- The number of a key tells its relationship from all others. -/
theorem relationship_id_ne {j k : ForeignKey} {m n : Nat} (h : m ≠ n) :
    (j.relationship m).id ≠ (k.relationship n).id := by
  intro he
  have hl := congrArg String.toList (Value.str.inj he)
  simp only [String.toList_append, List.append_assoc] at hl
  have hnum := Schema.eq_of_append_separator (Schema.isUnhyphenated_toString m)
    (Schema.isUnhyphenated_toString n) (List.append_cancel_left hl)
  exact h (Schema.toString_nat_injective (String.toList_inj.mp hnum.1))

theorem declaredOf_ids_nodup (known : String → Bool) (keys : List ForeignKey) :
    ((declaredOf known keys).map Relationship.id).Nodup := by
  -- Dropping keys leaves gaps between the numbers, but no two become equal.
  have hnum : (keys.zipIdx.filter fun k => known k.1.referencedTable).Pairwise fun j k =>
      j.2 ≠ k.2 := (List.pairwise_map.mp (List.nodup_zipIdx_map_snd keys)).filter _
  rw [declaredOf, List.map_map]
  exact List.pairwise_map.mpr (hnum.imp fun hne => relationship_id_ne hne)

theorem declared_wellFormed (ho : ∀ d ∈ ds, d.OwnsKeys) :
    Graph.WellFormed ⟨(inForce ds).map TableDef.toTable,
      declaredOf (fun name => ds.any fun d => d.name = name) (lastingKeys ds)⟩ where
  tableIds := inForce_ids_nodup ds
  ownIds := inForce_hasOwnIds ds
  joins _ hr := declaredOf_joins ho hr
  relationshipIds _ := by
    dsimp only
    exact declaredOf_ids_nodup _ _

end

/-- Every script describes a well-formed graph. -/
theorem parse_wellFormed (sql : String) : (parse sql).WellFormed := by
  have ho := definitions_ownsKeys sql.toList
  have hw : ∀ t ∈ (inForce (definitions sql.toList)).map TableDef.toTable, ∀ l,
      t.label = .str l → IsUnhyphenated l := by
    intro t ht l hl
    obtain ⟨d, hd, rfl⟩ := List.mem_map.mp ht
    rw [← Value.str.inj hl]
    exact isUnhyphenated_of_isName (definitions_isName (mem_of_mem_inForce hd))
  by_cases h : lastingKeys (definitions sql.toList) = []
  · rw [parse_of_keys_eq_nil h]
    exact Schema.inferred_wellFormed (inForce_ids_nodup _) (inForce_hasOwnIds _) hw
  · rw [parse_of_keys_ne_nil h]
    exact declared_wellFormed ho

end SchemaAtlas.Sql
