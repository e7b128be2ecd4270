import SchemaAtlas.Proofs.Command.Diagrams
import SchemaAtlas.Proofs.Command.Paths
import SchemaAtlas.Proofs.Layout.Dependence
import SchemaAtlas.Proofs.Schema.DrawnKinds
import SchemaAtlas.Proofs.Sql.CommentTexts

/-! # Working on with a saved diagram

The document that a script is imported as holds all there is of the graph. The script that is
written from it is the one that an import writes at once, and laying it out anew in the same way
gives the same document.
-/
namespace SchemaAtlas.Schema
open Layout (layout)

/-- What a script says of a table: comments, the label, and the names and types of the columns. -/
def Table.said (t : Table) : List Value :=
  t.comments ++ t.shown

theorem said_of_mem_inferred {tables : List Table} {t : Table}
    (h : t ∈ (inferred tables).tables) : ∃ u ∈ tables, t.said = u.said := by
  obtain ⟨u, hu, rfl⟩ := List.mem_map.mp h
  refine ⟨u, hu, ?_⟩
  simp [Table.said, Table.comments, Table.shown, Table.flagForeign, List.flatMap_map,
    Function.comp_def]

theorem said_isText_toTable (d : Sql.TableDef) : ∀ v ∈ d.toTable.said, v.IsText := by
  have hcomments : ∀ v ∈ d.toTable.comments, v.IsText := by
    intro v hv
    rcases List.mem_cons.mp hv with rfl | hv
    · exact ⟨d.comment, rfl⟩
    · obtain ⟨c, hc, rfl⟩ := List.mem_map.mp hv
      obtain ⟨e, _, rfl⟩ := List.mem_map.mp hc
      exact ⟨e.comment, rfl⟩
  have hshown : ∀ v ∈ d.toTable.shown, v.IsText := by
    intro v hv
    rcases List.mem_cons.mp hv with rfl | hv
    · exact ⟨d.name, rfl⟩
    · obtain ⟨c, hc, hv⟩ := List.mem_flatMap.mp hv
      obtain ⟨e, _, rfl⟩ := List.mem_map.mp hc
      rcases List.mem_pair.mp hv with rfl | rfl
      · exact ⟨e.name, rfl⟩
      · exact ⟨e.type, rfl⟩
  intro v hv
  exact (List.mem_append.mp hv).elim (hcomments v) (hshown v)

theorem said_isText_of_mem_parse {sql : String} {t : Table} (h : t ∈ (Sql.parse sql).tables) :
    ∀ v ∈ t.said, v.IsText := by
  by_cases hkeys : Sql.lastingKeys (Sql.definitions sql.toList) = []
  · rw [Sql.parse_of_keys_eq_nil hkeys] at h
    obtain ⟨u, hu, hsaid⟩ := said_of_mem_inferred h
    obtain ⟨d, _, rfl⟩ := List.mem_map.mp hu
    rw [hsaid]
    exact said_isText_toTable d
  · rw [Sql.parse_of_keys_ne_nil hkeys] at h
    dsimp only at h
    obtain ⟨d, _, rfl⟩ := List.mem_map.mp h
    exact said_isText_toTable d

theorem Table.hasTextComments_of_said {t : Table} (h : ∀ v ∈ t.said, v.IsText) :
    t.HasTextComments := by
  have hcomments : ∀ v ∈ t.comments, v.IsText := fun v hv => h v (List.mem_append_left _ hv)
  exact ⟨hcomments _ List.mem_cons_self,
    fun _ hc _ => hcomments _ (List.mem_cons_of_mem _ (List.mem_map_of_mem hc))⟩

section LaidOut

variable {sql : String} {s : Layout.Settings Value} {g : Graph}

theorem map_comments_layout {g g' : Graph} (h : layout g s = .ok g') :
    g'.tables.map Table.comments = g.tables.map Table.comments := by
  obtain ⟨positions, hlen, rfl⟩ := layout_eq_ok h
  exact map_moveTables hlen fun _ _ => rfl

/-- A script says texts of the tables of another script, wherever they are. -/
theorem said_isText_of_layout (h : layout (Sql.parse sql) s = .ok g) :
    ∀ t ∈ g.tables, ∀ v ∈ t.said, v.IsText := by
  have hsaid : g.tables.map Table.said = (Sql.parse sql).tables.map Table.said := by
    obtain ⟨positions, hlen, rfl⟩ := layout_eq_ok h
    exact map_moveTables hlen fun _ _ => rfl
  intro t ht
  obtain ⟨u, hu, hut⟩ := List.mem_map.mp (hsaid ▸ List.mem_map_of_mem ht)
  rw [← hut]
  exact said_isText_of_mem_parse hu

theorem Graph.ShowsKinds.reloaded_eq (h : g.ShowsKinds) : g.reloaded = g := by
  refine Graph.reloaded_eq_self (fun t ht => (h.tables t ht).reloaded_eq) fun r hr => ?_
  have hr := h.relationships r hr
  exact Relationship.reloaded_eq_self hr.sourceHandle hr.targetHandle hr.label

theorem reloaded_of_layout (h : layout (Sql.parse sql) s = .ok g) : g.reloaded = g := by
  have hrelationships : g.relationships = (Sql.parse sql).relationships := by
    obtain ⟨positions, _, rfl⟩ := layout_eq_ok h
    rfl
  exact ((showsKinds_parse sql).of_map_comments (map_comments_layout h) hrelationships).reloaded_eq

end LaidOut

end SchemaAtlas.Schema

namespace SchemaAtlas.Command
open Schema (Graph Table)
open Layout (Settings)

/-- The graph that a script is imported as: what the file says, which settings the options call for,
and what the layout gives. -/
structure Imports (host : Host) (files : Files) (p : Path) (o : Options) (g : Graph) : Prop where
  laidOut : ∃ content sql s, files.target p = .file content ∧ content.text = .ok sql ∧
    o.CallsFor host files s ∧ (Sql.parse sql).tables.isEmpty = false ∧
    Layout.layout (Sql.parse sql) s = .ok g
  suffix : scriptSuffixes.contains p.suffix = true
  shown : IsShown "i" ("Source script: " ++ p.text)

section Importing

variable {host : Host} {files : Files} {p : Path} {o : Options} {g : Graph} {sql format : String}
  {s : Settings Value} {c d : Console}

theorem importScript_of_tables (h : (Sql.parse sql).tables.isEmpty = false) :
    importScript sql s = (do
      inform s!"Parsed {(Sql.parse sql).tables.length} tables and {
        (Sql.parse sql).relationships.length} relationships"
      orStop (Layout.layout (Sql.parse sql) s)) := by
  unfold importScript
  simp only [h]
  rw [if_neg Bool.false_ne_true]

theorem importScript_on_eq_ok (h : (importScript sql s).on c = (.ok g, d)) :
    (Sql.parse sql).tables.isEmpty = false ∧ Layout.layout (Sql.parse sql) s = .ok g := by
  cases hempty : (Sql.parse sql).tables.isEmpty with
  | true =>
    unfold importScript at h
    dsimp only at h
    rw [if_pos hempty] at h
    obtain ⟨_, _, h, _⟩ := bind_on_eq_ok.mp h
    exact absurd h refuse_on_ne_ok
  | false =>
    rw [importScript_of_tables hempty] at h
    obtain ⟨_, _, _, h⟩ := bind_on_eq_ok.mp h
    exact ⟨rfl, (orStop_on_eq_ok.mp h).1⟩

theorem isShown_counts (g : Graph) : IsShown "i"
    s!"Parsed {g.tables.length} tables and {g.relationships.length} relationships" := by
  refine isShown_of_not_mem ?_ "i"
  simp only [String.toList_append, List.mem_append, not_or, not_mem_toString, not_false_eq_true,
    and_true]
  decide

theorem importScript_on (hempty : (Sql.parse sql).tables.isEmpty = false)
    (hlayout : Layout.layout (Sql.parse sql) s = .ok g) (c : Console) :
    ∃ text, (importScript sql s).on c = (.ok g, c.told text) := by
  obtain ⟨text, htext⟩ := isShown_counts (Sql.parse sql)
  rw [importScript_of_tables hempty, bind_on_ok (inform_on_ok htext c), orStop_on, hlayout]
  exact ⟨text, rfl⟩

/-- An import that gets through has come to a graph and written it. -/
theorem imports_of_parse (h : (parse host files p format o).on c = (.ok (), d)) :
    ∃ g, Imports host files p o g ∧
      ∃ before after, (emitGraph host g p.stem format).on before = (.ok (), after) := by
  obtain ⟨content, _, hopen, h⟩ := bind_on_eq_ok.mp h
  obtain ⟨htarget, hsuffix, -⟩ := openFile_on_eq_ok hopen
  obtain ⟨_, _, hsource, h⟩ := bind_on_eq_ok.mp h
  obtain ⟨_, _, _, h⟩ := bind_on_eq_ok.mp h
  obtain ⟨sql, _, htext, h⟩ := bind_on_eq_ok.mp h
  obtain ⟨s, _, hsettings, h⟩ := bind_on_eq_ok.mp h
  obtain ⟨g, _, hg, h⟩ := bind_on_eq_ok.mp h
  obtain ⟨_, _, hwritten, _⟩ := bind_on_eq_ok.mp h
  obtain ⟨hempty, hlayout⟩ := importScript_on_eq_ok hg
  have hcalls := (Options.callsFor_of_on hsettings).2
  have hsql := (orStop_on_eq_ok.mp htext).1
  exact ⟨g, ⟨⟨content, sql, s, htarget, hsql, hcalls, hempty, hlayout⟩, hsuffix,
    isShown_of_tell hsource⟩, _, _, hwritten⟩

/-- All imports of a file go the same way until the graph is written. -/
theorem Imports.parse_on (h : Imports host files p o g)
    (hformat : IsShown "i" ("Output format: " ++ format)) (c : Console) :
    ∃ d, d.output = c.output ∧ (parse host files p format o).on c = (emitGraph host g p.stem format
      >>= fun _ => succeed "Import completed successfully").on d := by
  obtain ⟨content, sql, s, htarget, htext, hcalls, hempty, hlayout⟩ := h.laidOut
  obtain ⟨source, hsource⟩ := h.shown
  obtain ⟨note, hnote⟩ := hformat
  obtain ⟨counts, hcounts⟩ := importScript_on hempty hlayout ((c.told source).told note)
  refine ⟨((c.told source).told note).told counts, rfl, ?_⟩
  have hread (d : Console) : (orStop content.text).on d = (.ok sql, d) := by
    rw [orStop_on, htext]
    rfl
  rw [parse, bind_on_ok (openFile_on htarget h.suffix c), bind_on_ok (inform_on_ok hsource c),
    bind_on_ok (inform_on_ok hnote _), bind_on_ok (hread _), bind_on_ok (hcalls _),
    bind_on_ok hcounts]

end Importing

section Writing

variable {host : Host} {files : Files} {name : String} {o : Options} {g : Graph} {sql : String}

theorem Imports.writes_document (h : Imports host files (.ofName name) o g)
    (hdepth : (documentOf g (.ofName name)).depth ≤ host.writable) :
    (Request.parse name "json" o).Writes host files
      (Json.pretty (documentOf g (.ofName name))) := by
  have hformat : IsShown "i" ("Output format: " ++ "json") := isShown_of_not_mem (by decide) "i"
  obtain ⟨d, houtput, hrun⟩ := h.parse_on hformat ⟨[], []⟩
  obtain ⟨text, hdone⟩ :=
    succeed_on (by decide : '[' ∉ "Import completed successfully".toList) (d.wrote _)
  have hemit := emitDocument_on hdepth d
  refine Request.writes_iff.mpr ⟨_, hrun.trans ((bind_on_ok hemit _).trans hdone), ?_⟩
  simp [houtput, documentOf]

theorem Imports.writes_script (h : Imports host files (.ofName name) o g)
    (hsql : scriptOf host g.tables = .ok sql) :
    (Request.parse name "sql" o).Writes host files sql := by
  have hformat : IsShown "i" ("Output format: " ++ "sql") := isShown_of_not_mem (by decide) "i"
  obtain ⟨d, houtput, hrun⟩ := h.parse_on hformat ⟨[], []⟩
  obtain ⟨text, hdone⟩ :=
    succeed_on (by decide : '[' ∉ "Import completed successfully".toList) (d.wrote sql)
  have hemit : (emitGraph host g (Path.ofName name).stem "sql").on d = (.ok (), d.wrote sql) := by
    rw [emitGraph, hsql]
    rfl
  refine Request.writes_iff.mpr ⟨_, hrun.trans ((bind_on_ok hemit _).trans hdone), ?_⟩
  simp [houtput]

/-- What is written as a document can be written as a script. -/
theorem Imports.exists_scriptOf (h : Imports host files (.ofName name) o g) :
    ∃ sql, scriptOf host g.tables = .ok sql := by
  obtain ⟨_, _, _, _, _, _, _, hlayout⟩ := h.laidOut
  have hsaid := Schema.said_isText_of_layout hlayout
  refine Command.exists_scriptOf.mpr fun t ht => ⟨Table.hasTextComments_of_said (hsaid t ht), ?_⟩
  intro v hv
  obtain ⟨s, rfl⟩ := hsaid t ht v (List.mem_append_right _ hv)
  exact Nat.zero_le _

end Writing

section Saved

variable {host : Host} {files later : Files} {script diagram text sql : String} {o : Options}
  {g : Graph}

/-- What an import writes as a document is the document of a graph. -/
theorem exists_imports_of_writes (h : (Request.parse script "json" o).Writes host files text) :
    ∃ g, Imports host files (.ofName script) o g ∧
      (documentOf g (.ofName script)).depth ≤ host.writable ∧
        Json.pretty (documentOf g (.ofName script)) = text := by
  obtain ⟨d, hrun, _⟩ := Request.writes_iff.mp h
  obtain ⟨g, hg, _, _, hwritten⟩ := imports_of_parse hrun
  have hdepth : (documentOf g (.ofName script)).depth ≤ host.writable :=
    depth_le_of_emitDocument_on hwritten
  exact ⟨g, hg, hdepth, (hg.writes_document hdepth).2.symm.trans h.2⟩

/-- The document of an import is loaded as the graph that it has been saved for, if it is read as
what has been written. -/
theorem Imports.graphOfText_saved (h : Imports host files (.ofName script) o g)
    (hjson : Json.read host.readable (Json.pretty (documentOf g (.ofName script))).toList =
      .ok (some (documentOf g (.ofName script)))) :
    (Content.bytes (Text.utf8Bytes (Json.pretty (documentOf g (.ofName script))))).text.bind
      (graphOfText host) = .ok g := by
  obtain ⟨_, _, _, _, _, _, _, hlayout⟩ := h.laidOut
  have hgraph : graphOfText host (Json.pretty (documentOf g (.ofName script))) = .ok g := by
    rw [graphOfText, hjson, Except.mapError, ok_bind, documentOf]
    dsimp only
    rw [Graph.ofDocument_toDocument, Schema.reloaded_of_layout hlayout]
  rw [text_utf8Bytes (Json.hasNoReturn_pretty (documentOf g (.ofName script))), Except.bind, hgraph]

/-- Where the document that an import of a script writes is stored under the same stem, the commands
on diagrams go on as if from the script: the one writes what an import as a script does, as long as
the terminal can show where the document is, and the other writes the document once more. -/
theorem rerun_saved (hparse : (Request.parse script "json" o).Writes host files text)
    (hsaved : later.target (.ofName diagram) = .file (.bytes (Text.utf8Bytes text)))
    (hstem : (Path.ofName diagram).stem = (Path.ofName script).stem)
    (hsuffix : (Path.ofName diagram).suffix = ".json")
    (hconfig : ∀ name ∈ o.config, later.target (.ofName name) = files.target (.ofName name))
    (hjson : ∀ g, Imports host files (.ofName script) o g →
      Json.read host.readable (Json.pretty (documentOf g (.ofName script))).toList =
        .ok (some (documentOf g (.ofName script)))) :
    ∃ sql, (Request.parse script "sql" o).Writes host files sql ∧
      ((Request.generate diagram).Writes host later sql ↔
        IsShown "i" ("Source diagram: " ++ (Path.ofName diagram).text)) ∧
      (Request.layout diagram o).Writes host later text := by
  obtain ⟨g, hg, hdepth, rfl⟩ := exists_imports_of_writes hparse
  obtain ⟨_, sql, s, _, _, hcalls, _, hlayout⟩ := hg.laidOut
  obtain ⟨out, hout⟩ := hg.exists_scriptOf
  have hagain : Layout.layout g s = .ok g := by
    have htwice := Layout.layout_layout (Sql.parse sql) s
    rwa [hlayout, ok_bind] at htwice
  have hsame : documentOf g (.ofName diagram) = documentOf g (.ofName script) := by
    rw [documentOf, hstem, documentOf]
  have hread := hg.graphOfText_saved (hjson g hg)
  have hcalls' := hcalls.of_target hconfig
  refine ⟨out, hg.writes_script hout, ⟨?_, ?_⟩, ?_⟩
  · exact isShown_of_generate_writes hsaved hsuffix hread
  · exact fun hshown => generate_writes hsaved hsuffix hread hshown hout
  · have hwrites := relayout_writes hsaved hsuffix hread hcalls' hagain (hsame ▸ hdepth)
    rwa [hsame] at hwrites

end Saved

/-- A script whose only table refers to itself. -/
def staffScript : String :=
  "CREATE TABLE staff (id INT, boss INT COMMENT 'é', FOREIGN KEY (boss) REFERENCES staff(id))"

/-- Its graph, whose table stays in the corner. -/
def staffGraph : Graph where
  tables := [{
    id := .str "node-staff"
    label := .str "staff"
    columns := [
      { id := .str "staff-id", name := .str "id", type := .str "INT", nullable := .bool true },
      { id := .str "staff-boss", name := .str "boss", type := .str "INT", isForeign := true
        comment := .str "é", nullable := .bool true }] }]
  relationships := [{
    id := .str "e-0-staff-staff", source := .str "node-staff", target := .str "node-staff"
    sourceHandle := .str "staff-id-source", targetHandle := .str "staff-boss-target" }]

def staffFiles : Files :=
  [("staff.sql", .bytes (Text.utf8Bytes staffScript))]

def staffOptions : Options where
  direction := some "TB"

/-- What is written when it is imported. -/
def staffText : String :=
  ((Request.parse "staff.sql" "json" staffOptions).run smallHost staffFiles).output

def staffDiagrams : Files :=
  [("staff.json", .bytes (Text.utf8Bytes staffText))]

theorem read_staff : Json.read smallHost.readable
    (Json.pretty (documentOf staffGraph (.ofName "staff.sql"))).toList =
      .ok (some (documentOf staffGraph (.ofName "staff.sql"))) := by
  have hstem : (Path.ofName "staff.sql").stem = "staff" := by decide +kernel
  rw [documentOf, hstem, staffGraph]
  -- A long text is slow to take apart, so the parts are put together as lists of characters.
  simp only [Graph.toDocument, List.map_cons, List.map_nil, Table.toValue, Schema.Column.toValue,
    Schema.Relationship.toValue, Schema.optionalField, Schema.Style.toValue, Schema.Kind.style,
    Schema.Kind.name, Option.map, Option.toList, List.cons_append, List.nil_append, List.append_nil,
    Json.pretty, Json.indented, Json.indentedItems, Json.indentedFields, String.toList_append]
  decide +kernel

theorem imports_staff {g : Graph}
    (h : Imports smallHost staffFiles (.ofName "staff.sql") staffOptions g) : g = staffGraph := by
  obtain ⟨content, sql, s, htarget, htext, hcalls, _, hlayout⟩ := h.laidOut
  obtain rfl : .bytes (Text.utf8Bytes staffScript) = content := Target.file.inj htarget
  obtain rfl : staffScript = sql := by
    rw [text_utf8Bytes (by decide +kernel)] at htext
    exact Except.ok.inj htext
  have hsettings : (staffOptions.settings smallHost staffFiles).on ⟨[], []⟩ =
      (.ok { Settings.usual with direction := .topToBottom }, ⟨[], []⟩) := rfl
  obtain rfl : { Settings.usual with direction := .topToBottom } = s :=
    Except.ok.inj (congrArg Prod.fst (hsettings.symm.trans (hcalls ⟨[], []⟩)))
  have hgraph : Layout.layout (Sql.parse staffScript)
      { Settings.usual with direction := .topToBottom } = .ok staffGraph := by
    decide +kernel
  exact Except.ok.inj (hlayout.symm.trans hgraph)

theorem writes_staff :
    (Request.parse "staff.sql" "json" staffOptions).Writes smallHost staffFiles staffText := by
  have hstop : ((Request.parse "staff.sql" "json" staffOptions).run smallHost staffFiles).stop =
      none := by
    decide +kernel
  refine ⟨hstop, ?_⟩
  rw [staffText]

theorem rerun_saved_staff :
    (Request.parse "staff.sql" "json" staffOptions).Writes smallHost staffFiles staffText ∧
      ∃ sql, (Request.parse "staff.sql" "sql" staffOptions).Writes smallHost staffFiles sql ∧
        (Request.generate "staff.json").Writes smallHost staffDiagrams sql ∧
        (Request.layout "staff.json" staffOptions).Writes smallHost staffDiagrams staffText := by
  have hsaved : staffDiagrams.target (.ofName "staff.json") =
      .file (.bytes (Text.utf8Bytes staffText)) := rfl
  have hstem : (Path.ofName "staff.json").stem = (Path.ofName "staff.sql").stem := by
    decide +kernel
  have hsuffix : (Path.ofName "staff.json").suffix = ".json" := by decide +kernel
  have hconfig : ∀ name ∈ staffOptions.config,
      staffDiagrams.target (.ofName name) = staffFiles.target (.ofName name) := by
    intro name hname
    cases hname
  obtain ⟨sql, hsql, hgenerate, hlayout⟩ := rerun_saved writes_staff hsaved hstem hsuffix hconfig
    (fun g hg => imports_staff hg ▸ read_staff)
  have hshown : IsShown "i" ("Source diagram: " ++ (Path.ofName "staff.json").text) :=
    isShown_of_not_mem (by decide +kernel) "i"
  exact ⟨writes_staff, sql, hsql, hgenerate.mpr hshown, hlayout⟩

/-- A document that is stored beside the script gives the script back, if where the script is has
taken one line of the terminal. -/
theorem generate_beside {host : Host} {files later : Files} {script diagram text : String}
    {o : Options} (hparse : (Request.parse script "json" o).Writes host files text)
    (hsaved : later.target (.ofName diagram) = .file (.bytes (Text.utf8Bytes text)))
    (hbeside : (Path.ofName diagram).IsBeside (.ofName script))
    (hsuffix : (Path.ofName diagram).suffix = ".json")
    (hline : TakesOneLine "i" ("Source script: " ++ (Path.ofName script).text))
    (hjson : ∀ g, Imports host files (.ofName script) o g →
      Json.read host.readable (Json.pretty (documentOf g (.ofName script))).toList =
        .ok (some (documentOf g (.ofName script)))) :
    ∃ sql, (Request.parse script "sql" o).Writes host files sql ∧
      (Request.generate diagram).Writes host later sql := by
  obtain ⟨g, hg, _, rfl⟩ := exists_imports_of_writes hparse
  obtain ⟨sql, hsql⟩ := hg.exists_scriptOf
  have hread := hg.graphOfText_saved (hjson g hg)
  have hshown := hbeside.isShown hsuffix hg.suffix hg.shown hline
  exact ⟨sql, hg.writes_script hsql, generate_writes hsaved hsuffix hread hshown hsql⟩

example : ∃ sql, (Request.parse "staff.sql" "sql" staffOptions).Writes smallHost staffFiles sql ∧
    (Request.generate "staff.json").Writes smallHost staffDiagrams sql := by
  have hbeside : (Path.ofName "staff.json").IsBeside (.ofName "staff.sql") :=
    ⟨rfl, by decide +kernel, by decide +kernel⟩
  have hsaved : staffDiagrams.target (.ofName "staff.json") =
      .file (.bytes (Text.utf8Bytes staffText)) := rfl
  have hsuffix : (Path.ofName "staff.json").suffix = ".json" := by decide +kernel
  have hscript : (Path.ofName "staff.sql").text = "staff.sql" := by decide +kernel
  have hline : TakesOneLine "i" ("Source script: " ++ (Path.ofName "staff.sql").text) :=
    Path.takesOneLine_source (by simp [hscript]) (by simp [hscript])
  exact generate_beside writes_staff hsaved hbeside hsuffix hline
    (fun g hg => imports_staff hg ▸ read_staff)

end SchemaAtlas.Command
