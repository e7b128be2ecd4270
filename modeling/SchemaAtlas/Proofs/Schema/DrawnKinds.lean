import SchemaAtlas.Proofs.Schema.Editing
import SchemaAtlas.Proofs.Schema.Reloading

/-! # Kinds told by the way edges are drawn

An edge names its kind, but shows it as well: only inferred relationships are dashed, and only
those drawn by hand have a label. No edit changes that, so a document whose edges do not name
their kinds is loaded as the graph that it was written for.
-/
namespace SchemaAtlas.Value

/-- An object without the fields of a name. -/
def without (name : String) : Value → Value
  | .object fields => .object (fields.filter fun f => f.1 ≠ name)
  | v => v

/-- An object with the fields of a name changed. -/
def mapField (name : String) (f : Value → Value) : Value → Value
  | .object fields => .object (fields.map fun p => if p.1 = name then (p.1, f p.2) else p)
  | v => v

def mapItems (f : Value → Value) : Value → Value
  | .list items => .list (items.map f)
  | v => v

end SchemaAtlas.Value

namespace SchemaAtlas.Schema
open Layout (layout)

/-- A document whose edges do not name their kinds. -/
def withoutKinds (document : Value) : Value :=
  document.mapField "edges" (Value.mapItems (Value.without "data"))

/-- The kind that style and label of a relationship suggest. -/
def Relationship.drawnKind (r : Relationship) : Kind :=
  if r.kind = .inferred then .inferred else if r.label.truthy then .manual else .explicit

theorem Kind.ofEdge_without (r : Relationship) :
    Kind.ofEdge (r.toValue.without "data") = .ok r.drawnKind := by
  have hnull : Value.null.truthy = false := rfl
  by_cases hlabel : r.label.truthy = true <;> cases hk : r.kind <;>
    simp [Relationship.toValue, Value.without, Kind.ofEdge, Kind.ofValue?, Kind.style,
      Style.toValue, Value.getD, Value.get?, Value.field?, Relationship.drawnKind, hk, hlabel,
      hnull, ok_bind, pure, Except.pure]

theorem Relationship.ofValue_without (r : Relationship) :
    Relationship.ofValue (r.toValue.without "data") =
      .ok { r.reloaded with kind := r.drawnKind } := by
  rw [Relationship.ofValue, Kind.ofEdge_without]
  simp [Relationship.toValue, Value.without, Value.need, Value.getD, Value.get?, Value.field?,
    Relationship.reloaded, ok_bind, pure, Except.pure]

theorem withoutKinds_toDocument (g : Graph) (name : Value) :
    withoutKinds (g.toDocument name) = .object [
      ("name", name),
      ("nodes", .list (g.tables.map Table.toValue)),
      ("edges", .list (g.relationships.map fun r => r.toValue.without "data"))] := by
  simp [withoutKinds, Graph.toDocument, Value.mapField, Value.mapItems, Function.comp_def]

theorem ofDocument_withoutKinds (g : Graph) (name : Value) :
    Graph.ofDocument (withoutKinds (g.toDocument name)) =
      .ok ⟨g.tables.map Table.reloaded,
        g.relationships.map fun r => { r.reloaded with kind := r.drawnKind }⟩ := by
  have htables : (g.tables.map Table.toValue).mapM Table.ofValue =
      .ok (g.tables.map Table.reloaded) := by
    rw [List.mapM_map]
    exact mapM_eq_ok fun t _ => t.ofValue_toValue
  have hrelationships :
      (g.relationships.map fun r => r.toValue.without "data").mapM Relationship.ofValue =
        .ok (g.relationships.map fun r => { r.reloaded with kind := r.drawnKind }) := by
    rw [List.mapM_map]
    exact mapM_eq_ok fun r _ => r.ofValue_without
  rw [withoutKinds_toDocument]
  simp [Graph.ofDocument, Value.getD, Value.get?, Value.field?, Value.parts, htables,
    hrelationships, ok_bind, pure, Except.pure]

def Table.comments (t : Table) : List Value :=
  t.comment :: t.columns.map Column.comment

/-- The texts of a table are written so that they are read back. -/
def Table.IsKept (t : Table) : Prop :=
  ∀ v ∈ t.comments, v.orEmpty = v

structure Relationship.ShowsKind (r : Relationship) : Prop where
  sourceHandle : r.sourceHandle.orEmpty = r.sourceHandle
  targetHandle : r.targetHandle.orEmpty = r.targetHandle
  label : r.label.orEmpty = r.label
  labelled : r.label.truthy = true ↔ r.kind = .manual

structure Graph.ShowsKinds (g : Graph) : Prop where
  tables : ∀ t ∈ g.tables, t.IsKept
  relationships : ∀ r ∈ g.relationships, r.ShowsKind

theorem Table.IsKept.reloaded_eq {t : Table} (h : t.IsKept) : t.reloaded = t := by
  refine Table.reloaded_eq_self (fun c hc => ?_) (h _ List.mem_cons_self)
  exact Column.reloaded_eq_self (h _ (List.mem_cons_of_mem _ (List.mem_map_of_mem hc)))

theorem Relationship.ShowsKind.drawnKind_eq {r : Relationship} (h : r.ShowsKind) :
    r.drawnKind = r.kind := by
  have hlabelled := h.labelled
  unfold Relationship.drawnKind
  cases hk : r.kind <;> simp_all

theorem Relationship.ShowsKind.reloaded_eq {r : Relationship} (h : r.ShowsKind) :
    { r.reloaded with kind := r.drawnKind } = r := by
  rw [h.drawnKind_eq, Relationship.reloaded_eq_self h.sourceHandle h.targetHandle h.label]

theorem Graph.ShowsKinds.ofDocument_eq {g : Graph} (h : g.ShowsKinds) (name : Value) :
    Graph.ofDocument (withoutKinds (g.toDocument name)) = .ok g := by
  have htables : g.tables.map Table.reloaded = g.tables :=
    (List.map_congr_left fun t ht => (h.tables t ht).reloaded_eq).trans (List.map_id' g.tables)
  have hrelationships :
      (g.relationships.map fun r => { r.reloaded with kind := r.drawnKind }) = g.relationships :=
    (List.map_congr_left fun r hr => (h.relationships r hr).reloaded_eq).trans
      (List.map_id' g.relationships)
  rw [ofDocument_withoutKinds, htables, hrelationships]

/-! Which tables and relationships are drawn that way. -/

theorem Table.IsTyped.isKept {t : Table} (h : t.IsTyped) : t.IsKept := by
  intro v hv
  rcases List.mem_cons.mp hv with rfl | hv
  · exact h.comment.orEmpty_eq
  · obtain ⟨c, hc, rfl⟩ := List.mem_map.mp hv
    exact (h.columns c hc).comment.orEmpty_eq

theorem Table.isKept_of_reloaded_eq {t : Table} (h : t.reloaded = t) : t.IsKept := by
  intro v hv
  rw [← h] at hv
  rcases List.mem_cons.mp hv with rfl | hv
  · exact Value.orEmpty_orEmpty t.comment
  · obtain ⟨c, hc, rfl⟩ := List.mem_map.mp hv
    obtain ⟨d, _, rfl⟩ := List.mem_map.mp hc
    exact Value.orEmpty_orEmpty d.comment

theorem Table.IsKept.of_comments {t u : Table} (h : t.IsKept) (hc : u.comments = t.comments) :
    u.IsKept := by
  intro v hv
  exact h v (hc ▸ hv)

theorem isKept_toTable (d : Sql.TableDef) : d.toTable.IsKept := by
  intro v hv
  rcases List.mem_cons.mp hv with rfl | hv
  · exact Value.orEmpty_str d.comment
  · obtain ⟨c, hc, rfl⟩ := List.mem_map.mp hv
    obtain ⟨e, _, rfl⟩ := List.mem_map.mp hc
    exact Value.orEmpty_str e.comment

/-- Handles that are texts and no label, unless it is drawn by hand. -/
theorem showsKind_of_label_eq {r : Relationship} (hs : r.sourceHandle.IsText)
    (ht : r.targetHandle.IsText) (hl : r.label = .str "") (hk : r.kind ≠ .manual) :
    r.ShowsKind where
  sourceHandle := hs.orEmpty_eq
  targetHandle := ht.orEmpty_eq
  label := by rw [hl, Value.orEmpty_str]
  labelled := by simp [hl, hk]

theorem showsKind_link (l : Link) : l.relationship.ShowsKind :=
  showsKind_of_label_eq ⟨_, rfl⟩ ⟨_, rfl⟩ rfl nofun

theorem showsKind_foreignKey (k : Sql.ForeignKey) (i : Nat) : (k.relationship i).ShowsKind :=
  showsKind_of_label_eq ⟨_, rfl⟩ ⟨_, rfl⟩ rfl nofun

theorem showsKind_drawn (s t : Table) (a b : Value) (c : Cardinality) :
    (Relationship.drawn s t a b c).ShowsKind where
  sourceHandle := Value.orEmpty_str _
  targetHandle := Value.orEmpty_str _
  label := Value.orEmpty_str _
  labelled := by cases c <;> simp [Relationship.drawn, Cardinality.label]

theorem Relationship.ShowsKind.reloaded {r : Relationship} (h : r.ShowsKind) :
    r.reloaded.ShowsKind := by
  rw [Relationship.reloaded_eq_self h.sourceHandle h.targetHandle h.label]
  exact h

theorem showsKinds_inferred {tables : List Table} (h : ∀ t ∈ tables, t.IsKept) :
    (inferred tables).ShowsKinds where
  tables := by
    intro t ht
    obtain ⟨u, hu, rfl⟩ := List.mem_map.mp ht
    refine (h u hu).of_comments ?_
    simp [Table.comments, Table.flagForeign, Function.comp_def]
  relationships := by
    intro r hr
    obtain ⟨l, _, rfl⟩ := List.mem_map.mp hr
    exact showsKind_link l

theorem showsKinds_parse (sql : String) : (Sql.parse sql).ShowsKinds := by
  have htables : ∀ t ∈ (Sql.inForce (Sql.definitions sql.toList)).map Sql.TableDef.toTable,
      t.IsKept := by
    intro t ht
    obtain ⟨d, _, rfl⟩ := List.mem_map.mp ht
    exact isKept_toTable d
  by_cases hkeys : Sql.lastingKeys (Sql.definitions sql.toList) = []
  · rw [Sql.parse_of_keys_eq_nil hkeys]
    exact showsKinds_inferred htables
  · rw [Sql.parse_of_keys_ne_nil hkeys]
    constructor
    · dsimp only
      exact htables
    · intro r hr
      dsimp only at hr
      obtain ⟨⟨k, i⟩, _, rfl⟩ := List.mem_map.mp hr
      exact showsKind_foreignKey k i

/-! What the operations keep. -/

/-- The tables that an operation is given satisfy a condition. -/
def Edit.Takes (p : Table → Prop) : Edit → Prop
  | .addTable t | .updateTable t => p t
  | _ => True

theorem Edit.Takes.mono {p q : Table → Prop} (h : ∀ t, p t → q t) {e : Edit} (he : e.Takes p) :
    e.Takes q := by
  cases e with
  | addTable t => exact h t he
  | updateTable t => exact h t he
  | _ => trivial

/-- A table of the right types, or one that a node of a document describes. -/
def Table.IsRegular (t : Table) : Prop :=
  t.IsTyped ∨ ∃ v, Table.ofValue v = .ok t

theorem Table.IsRegular.isKept {t : Table} (h : t.IsRegular) : t.IsKept := by
  rcases h with h | ⟨v, h⟩
  · exact h.isKept
  · exact Table.isKept_of_reloaded_eq (Table.reloaded_of_ofValue h)

namespace Graph.ShowsKinds

variable {g g' : Graph} (h : g.ShowsKinds)
include h

theorem of_map_comments (hc : g'.tables.map Table.comments = g.tables.map Table.comments)
    (hr : g'.relationships = g.relationships) : g'.ShowsKinds := by
  constructor
  · intro t ht
    have hmem : t.comments ∈ g.tables.map Table.comments := by
      rw [← hc]
      exact List.mem_map_of_mem ht
    obtain ⟨u, hu, heq⟩ := List.mem_map.mp hmem
    exact (h.tables u hu).of_comments heq.symm
  · intro r hmem
    exact h.relationships r (hr ▸ hmem)

theorem addTable {t : Table} (ht : t.IsKept) (ha : g.addTable t = .ok g') : g'.ShowsKinds := by
  obtain ⟨_, rfl⟩ := addTable_eq_ok ha
  refine ⟨fun u hu => ?_, h.relationships⟩
  rcases List.mem_append.mp hu with hu | hu
  · exact h.tables u hu
  · rw [List.mem_singleton.mp hu]
    exact ht

theorem addRelationship {r : Relationship} (hr : r.ShowsKind) :
    (g.addRelationship r).ShowsKinds := by
  unfold Graph.addRelationship
  split
  · exact h
  · refine ⟨h.tables, fun s hs => ?_⟩
    rcases List.mem_append.mp hs with hs | hs
    · exact h.relationships s hs
    · rw [List.mem_singleton.mp hs]
      exact hr

theorem reloaded : g.reloaded.ShowsKinds := by
  constructor
  · intro t ht
    obtain ⟨u, hu, rfl⟩ := List.mem_map.mp ht
    rw [(h.tables u hu).reloaded_eq]
    exact h.tables u hu
  · intro r hr
    obtain ⟨s, hs, rfl⟩ := List.mem_map.mp hr
    exact (h.relationships s hs).reloaded

theorem apply {e : Edit} (he : e.Takes Table.IsKept) (ha : e.apply g = .ok g') :
    g'.ShowsKinds := by
  cases e with
  | addTable t => exact h.addTable he ha
  | updateTable t =>
    rw [updateTable_eq_ok ha]
    refine ⟨fun u hu => ?_, h.relationships⟩
    obtain ⟨w, hw, rfl⟩ := List.mem_map.mp hu
    split
    · exact he
    · exact h.tables w hw
  | duplicateTable id offset =>
    obtain ⟨t, ht, p, ha⟩ := duplicateTable_eq_ok ha
    refine h.addTable ((h.tables t ht).of_comments ?_) ha
    simp [Table.comments, Table.relabel, Function.comp_def]
  | removeTable id =>
    rw [removeTable_eq_ok ha]
    exact ⟨fun t ht => h.tables t (List.mem_filter.mp ht).1,
      fun r hr => h.relationships r (List.mem_filter.mp hr).1⟩
  | prune =>
    rw [prune_eq_ok ha]
    exact ⟨h.tables, fun r hr => h.relationships r (List.mem_filter.mp hr).1⟩
  | connect source target cardinality =>
    obtain ⟨c, _, s, _, t, _, rfl⟩ := connect_eq_ok.mp ha
    exact h.addRelationship (showsKind_drawn s t source target c)
  | highlight selection =>
    obtain ⟨⟨dimmed, ids⟩, hdim, ha⟩ := bind_eq_ok.mp ha
    cases ha
    rw [highlight_eq_ok hdim]
    refine h.of_map_comments ?_ rfl
    rw [Graph.dim, List.map_map]
    rfl
  | layout settings direction =>
    obtain ⟨s, _, ha⟩ := bind_eq_ok.mp ha
    obtain ⟨positions, hlen, rfl⟩ := layout_eq_ok ha
    exact h.of_map_comments (map_moveTables hlen fun _ _ => rfl) rfl
  | infer =>
    rw [infer_eq_ok ha]
    exact showsKinds_inferred h.tables
  | reload name =>
    rw [Edit.apply, Graph.ofDocument_toDocument] at ha
    cases ha
    exact h.reloaded

theorem edited {edits : List Edit} (he : ∀ e ∈ edits, e.Takes Table.IsKept) :
    (g.edited edits).ShowsKinds :=
  edited_induction h fun e hmem _ _ h => h.apply (he e hmem)

end Graph.ShowsKinds

/-- However the graph of a script is edited, it is read back from its document without the kinds
that the edges name. -/
theorem edited_ofDocument_withoutKinds (sql : String) (edits : List Edit)
    (hedits : ∀ e ∈ edits, e.Takes Table.IsRegular) (name : Value) :
    Graph.ofDocument (withoutKinds (((Sql.parse sql).edited edits).toDocument name)) =
      .ok ((Sql.parse sql).edited edits) := by
  have hkept : ∀ e ∈ edits, e.Takes Table.IsKept :=
    fun e he => (hedits e he).mono fun _ => Table.IsRegular.isKept
  exact ((showsKinds_parse sql).edited hkept).ofDocument_eq name

/-- A node that leaves most fields open, and the table that it describes. -/
def notesNode : Value :=
  .object [("id", .str "node-notes"),
    ("data", .object [("label", .str "notes"), ("comment", .null)])]

def notes : Table where
  id := .str "node-notes"
  label := .str "notes"

def noteScript : String :=
  "CREATE TABLE users (id INT PRIMARY KEY); CREATE TABLE orders (user_id INT)"

/-- A run after which one relationship is inferred and another drawn. -/
def noteEdits : List Edit := [
  .addTable notes,
  .updateTable (.fresh (.str "notes") .origin),
  .connect (.str (columnId "notes" "id")) (.str (columnId "users" "id")) (.str "N:1"),
  .reload (.str "notes")]

theorem edited_ofDocument_withoutKinds_notes :
    (∀ e ∈ noteEdits, e.Takes Table.IsRegular) ∧
      (((Sql.parse noteScript).edited noteEdits).relationships.map Relationship.kind =
        [.inferred, .manual]) ∧
      Graph.ofDocument (withoutKinds
        (((Sql.parse noteScript).edited noteEdits).toDocument (.str "notes"))) =
          .ok ((Sql.parse noteScript).edited noteEdits) := by
  have hnotes : notes.IsRegular := .inr ⟨notesNode, rfl⟩
  have hfresh : (Table.fresh (.str "notes") .origin).IsRegular :=
    .inr ⟨(Table.fresh (.str "notes") .origin).toValue, rfl⟩
  have hedits : ∀ e ∈ noteEdits, e.Takes Table.IsRegular := by
    simp only [noteEdits, List.forall_mem_cons, List.not_mem_nil, false_implies, implies_true]
    exact ⟨hnotes, hfresh, trivial, trivial, trivial⟩
  exact ⟨hedits, by decide +kernel, edited_ofDocument_withoutKinds noteScript noteEdits hedits _⟩

end SchemaAtlas.Schema
