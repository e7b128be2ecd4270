import SchemaAtlas.Proofs.Command.Running
import SchemaAtlas.Proofs.Json.Printed
import SchemaAtlas.Proofs.Sql.CommentTexts
import SchemaAtlas.Proofs.Text.Utf8

/-! # Commands on diagrams

What the commands do that read a document: they write what is asked for as a whole, or they say what
is wrong with the document and write nothing.
-/
namespace SchemaAtlas.Command
open Schema (Graph Table)
open Layout (Settings)

theorem text_utf8Bytes {s : String} (h : Json.HasNoReturn s.toList) :
    (Content.bytes (Text.utf8Bytes s)).text = .ok s := by
  rw [Content.text, Content.textBytes, Text.decodeUtf8_utf8Bytes]
  change Except.ok (String.ofList (Text.unifyLineEnds s.toList)) = .ok s
  rw [Text.unifyLineEnds_eq_self h, String.ofList_toList]

/-- The document of a graph that a path names. -/
def documentOf (g : Graph) (p : Path) : Value :=
  g.toDocument (.str p.stem)

/-- What a script shows of a table nests no deeper than the host can show it. -/
def IsShowable (host : Host) (t : Table) : Prop :=
  ∀ v ∈ t.shown, v.depth ≤ host.showable

theorem scriptOf_eq_ok {host : Host} {tables : List Table} {sql : String} :
    scriptOf host tables = .ok sql ↔
      Sql.write tables = .ok sql ∧ ∀ t ∈ tables, IsShowable host t := by
  have hall : (tables.all fun t => t.shown.all fun v => v.depth ≤ host.showable) = true ↔
      ∀ t ∈ tables, IsShowable host t := by
    simp only [List.all_eq_true, decide_eq_true_eq, IsShowable]
  rw [← hall, scriptOf, bind_eq_ok]
  constructor
  · rintro ⟨script, hscript, h⟩
    split at h
    · next hshown =>
      obtain rfl := Except.ok.inj h
      exact ⟨hscript, hshown⟩
    · cases h
  · rintro ⟨hsql, hshown⟩
    exact ⟨sql, hsql, if_pos hshown⟩

/-- A script can be written just when all comments in it can, and everything else can be shown. -/
theorem exists_scriptOf {host : Host} {tables : List Table} :
    (∃ sql, scriptOf host tables = .ok sql) ↔
      ∀ t ∈ tables, t.HasTextComments ∧ IsShowable host t := by
  simp only [scriptOf_eq_ok, exists_and_right, Sql.exists_write, ← forall_and]

theorem emitDocument_on {host : Host} {document : Value} (h : document.depth ≤ host.writable)
    (c : Console) :
    (emitDocument host document).on c = (.ok (), c.wrote (Json.pretty document)) := by
  rw [emitDocument, if_pos h, emit_on]

theorem depth_le_of_emitDocument_on {host : Host} {document : Value} {c d : Console}
    (h : (emitDocument host document).on c = (.ok (), d)) : document.depth ≤ host.writable := by
  by_contra hdeep
  rw [emitDocument, if_neg hdeep] at h
  cases congrArg Prod.fst h

/-- A host with room for small documents, where nothing more is said of errors. -/
def smallHost : Host where
  readable := 20
  writable := 20
  showable := 20
  openable := 20
  databasePath := 200
  background _ := ""

section

variable {host : Host} {files : Files} {name : String} {content : Content}
  (htarget : files.target (.ofName name) = .file content)
  (hsuffix : (Path.ofName name).suffix = ".json")
include htarget hsuffix

theorem openDiagram_on (c : Console) :
    (openFile files (.ofName name) diagramSuffixes).on c = (.ok content, c) := by
  refine openFile_on htarget ?_ c
  rw [hsuffix]
  decide

section Read

variable {g : Graph} (hread : content.text.bind (graphOfText host) = .ok g)
include hread

theorem readDiagram_on (c : Console) :
    (readDiagram host files (.ofName name)).on c = (.ok g, c) := by
  rw [readDiagram, bind_on_ok (openDiagram_on htarget hsuffix c), hread]
  rfl

theorem isShown_of_generate_writes {sql : String}
    (h : (Request.generate name).Writes host files sql) :
    IsShown "i" ("Source diagram: " ++ (Path.ofName name).text) := by
  obtain ⟨d, hrun, _⟩ := Request.writes_iff.mp h
  rw [Request.task, generate, bind_on_ok (readDiagram_on htarget hsuffix hread _)] at hrun
  obtain ⟨_, _, hsource, _⟩ := bind_on_eq_ok.mp hrun
  exact isShown_of_tell hsource

theorem generate_writes {sql : String}
    (hshown : IsShown "i" ("Source diagram: " ++ (Path.ofName name).text))
    (hsql : scriptOf host g.tables = .ok sql) : (Request.generate name).Writes host files sql := by
  obtain ⟨source, hsource⟩ := hshown
  obtain ⟨text, hdone⟩ := succeed_on
    (by decide : '[' ∉ "SQL generation completed successfully".toList)
    ((Console.told ⟨[], []⟩ source).wrote sql)
  have hscript (d : Console) : (orStop (scriptOf host g.tables)).on d = (.ok sql, d) := by
    rw [orStop_on, hsql]
    rfl
  have hrun : ((Request.generate name).task host files).on ⟨[], []⟩ =
      (.ok (), ((Console.told ⟨[], []⟩ source).wrote sql).told text) := by
    rw [Request.task, generate, bind_on_ok (readDiagram_on htarget hsuffix hread _),
      bind_on_ok (inform_on_ok hsource _), bind_on_ok (hscript _), bind_on_ok (emit_on _ _), hdone]
  exact Request.writes_iff.mpr ⟨_, hrun, by simp⟩

theorem relayout_writes {o : Options} {s : Settings Value} {g' : Graph}
    (hsettings : o.CallsFor host files s) (hlayout : Layout.layout g s = .ok g')
    (hdepth : (documentOf g' (.ofName name)).depth ≤ host.writable) :
    (Request.layout name o).Writes host files (Json.pretty (documentOf g' (.ofName name))) := by
  have hdirection : IsShown "i" ("Direction: " ++ s.direction.name) := by
    apply isShown_of_not_mem
    cases s.direction <;> decide
  obtain ⟨direction, hdirection⟩ := hdirection
  obtain ⟨text, hdone⟩ := succeed_on (by decide : '[' ∉ "Layout completed successfully".toList)
    ((Console.told ⟨[], []⟩ direction).wrote (Json.pretty (documentOf g' (.ofName name))))
  have hplaced (d : Console) : (orStop (Layout.layout g s)).on d = (.ok g', d) := by
    rw [orStop_on, hlayout]
    rfl
  have hrun : ((Request.layout name o).task host files).on ⟨[], []⟩ =
      (.ok (), ((Console.told ⟨[], []⟩ direction).wrote
        (Json.pretty (documentOf g' (.ofName name)))).told text) := by
    rw [Request.task, relayout, bind_on_ok (readDiagram_on htarget hsuffix hread _),
      bind_on_ok (hsettings _), bind_on_ok (inform_on_ok hdirection _), bind_on_ok (hplaced _)]
    exact (bind_on_ok (emitDocument_on hdepth _) _).trans hdone
  exact Request.writes_iff.mpr ⟨_, hrun, by simp⟩

end Read

end

end SchemaAtlas.Command
