import SchemaAtlas.Proofs.Command.Diagrams
import SchemaAtlas.Proofs.Layout.Totality
import SchemaAtlas.Proofs.Schema.Shapes
import SchemaAtlas.Proofs.Sql.CommentTexts

/-! # Documents that cannot be used

The commands that read a document write all that is asked for or nothing. Where the text is not a
document they tell what is wrong, if that is a matter of its syntax or of fields that are missing;
everything else that can be wrong with it ends them without a word.
-/
namespace SchemaAtlas.Command
open Schema (Graph IsDocument IsShapeFault)
open Layout (IsNodeId)

/-- A task writes nothing. -/
def Task.IsQuiet {α : Type} (t : Task α) : Prop :=
  ∀ c, (t.on c).2.output = c.output

namespace Task.IsQuiet

variable {α β : Type}

theorem bind {t : Task α} {f : α → Task β} (h : t.IsQuiet) (hf : ∀ a, (f a).IsQuiet) :
    (t >>= f).IsQuiet := by
  intro c
  rw [bind_on]
  cases ht : t.on c with
  | mk answer d =>
    have hd : d.output = c.output := by
      rw [← h c, ht]
    cases answer with
    | error s => exact hd
    | ok a => exact (hf a d).trans hd

theorem orStop (answer : Except Fault α) : (Command.orStop answer).IsQuiet := by
  intro c
  rw [orStop_on]

theorem tell (mark message : String) : (Command.tell mark message).IsQuiet := by
  unfold Command.tell
  exact (orStop _).bind fun _ _ => rfl

theorem refuse (message : String) : (Command.refuse message : Task α).IsQuiet :=
  (tell _ _).bind fun _ _ => rfl

theorem openFile (files : Files) (p : Path) (suffixes : List String) :
    (Command.openFile files p suffixes).IsQuiet := by
  unfold Command.openFile
  split
  · split
    · exact fun _ => rfl
    · exact refuse _
  · exact fun _ => rfl
  all_goals exact refuse _

theorem readDiagram (host : Host) (files : Files) (p : Path) :
    (Command.readDiagram host files p).IsQuiet := by
  refine (openFile files p diagramSuffixes).bind fun content => ?_
  split
  · exact fun _ => rfl
  · split
    · exact refuse _
    · exact fun _ => rfl

theorem readSettings (host : Host) (files : Files) (config : Option String) :
    (Command.readSettings host files config).IsQuiet := by
  cases config with
  | none => exact fun _ => rfl
  | some name =>
    unfold Command.readSettings
    dsimp only
    split
    · split
      · exact fun _ => rfl
      · split
        · exact fun _ => rfl
        · exact refuse _
    · split <;> exact refuse _

theorem settings (o : Options) (host : Host) (files : Files) :
    (o.settings host files).IsQuiet := by
  refine (readSettings host files o.config).bind fun s => ?_
  split
  · exact fun _ => rfl
  · exact fun _ => rfl
  · split
    · exact fun _ => rfl
    · exact refuse _

end Task.IsQuiet

/-- A task that stops early has written nothing. -/
def Task.IsWhole (t : Task Unit) : Prop :=
  ∀ c s, (t.on c).1 = .error s → (t.on c).2.output = c.output

theorem Task.IsQuiet.bind_isWhole {α : Type} {t : Task α} {f : α → Task Unit} (h : t.IsQuiet)
    (hf : ∀ a, (f a).IsWhole) : (t >>= f).IsWhole := by
  intro c s
  rw [bind_on]
  cases ht : t.on c with
  | mk answer d =>
    have hd : d.output = c.output := by
      rw [← h c, ht]
    cases answer with
    | error s => exact fun _ => hd
    | ok a => exact fun hs => (hf a d s hs).trans hd

/-- Nothing goes wrong once a task has come to write. -/
theorem isWhole_emit_succeed (text : String) {message : String} (h : '[' ∉ message.toList) :
    (emit text >>= fun _ => succeed message : Task Unit).IsWhole := by
  intro c s hs
  obtain ⟨shown, hshown⟩ := succeed_on h (c.wrote text)
  rw [bind_on_ok (emit_on text c), hshown] at hs
  cases hs

/-- A document that nests too deeply to be written is not begun. -/
theorem isWhole_emitDocument_succeed (host : Host) (document : Value) {message : String}
    (h : '[' ∉ message.toList) :
    (emitDocument host document >>= fun _ => succeed message : Task Unit).IsWhole := by
  unfold emitDocument
  split
  · exact isWhole_emit_succeed _ h
  · exact fun _ _ _ => rfl

/-- The commands that read the document with a name. -/
def Request.ReadsDiagram (r : Request) (name : String) : Prop :=
  r = .generate name ∨ ∃ o, r = .layout name o

theorem Request.ReadsDiagram.exists_task {r : Request} {name : String} (h : r.ReadsDiagram name)
    (host : Host) (files : Files) :
    ∃ rest, r.task host files = readDiagram host files (.ofName name) >>= rest := by
  rcases h with rfl | ⟨o, rfl⟩
  · exact ⟨_, rfl⟩
  · exact ⟨_, rfl⟩

theorem Request.ReadsDiagram.isWhole_task {r : Request} {name : String} (h : r.ReadsDiagram name)
    (host : Host) (files : Files) : (r.task host files).IsWhole := by
  rcases h with rfl | ⟨o, rfl⟩
  · refine (Task.IsQuiet.readDiagram host files _).bind_isWhole fun g => ?_
    refine (Task.IsQuiet.tell _ _).bind_isWhole fun _ => ?_
    refine (Task.IsQuiet.orStop _).bind_isWhole fun text => ?_
    exact isWhole_emit_succeed text (by decide)
  · refine (Task.IsQuiet.readDiagram host files _).bind_isWhole fun g => ?_
    refine (Task.IsQuiet.settings o host files).bind_isWhole fun s => ?_
    refine (Task.IsQuiet.tell _ _).bind_isWhole fun _ => ?_
    refine (Task.IsQuiet.orStop _).bind_isWhole fun g => ?_
    exact isWhole_emitDocument_succeed host _ (by decide)

theorem Request.Writes.unique {r : Request} {host : Host} {files : Files} {a b : String}
    (ha : r.Writes host files a) (hb : r.Writes host files b) : a = b :=
  ha.2.symm.trans hb.2

theorem Request.output_of_stop {r : Request} {host : Host} {files : Files}
    (h : (r.task host files).IsWhole) (hstop : (r.run host files).stop ≠ none) :
    (r.run host files).output = "" := by
  rcases hrun : (r.task host files).on ⟨[], []⟩ with ⟨answer, d⟩
  rw [run_of_on hrun] at hstop ⊢
  cases answer with
  | ok _ => exact absurd rfl hstop
  | error s =>
    have houtput : d.output = [] := by
      have hempty := h ⟨[], []⟩ s
      rw [hrun] at hempty
      exact hempty rfl
    simp [houtput]

/-- A text in which no string has half of a surrogate pair. -/
def HasWholeTexts (host : Host) (text : String) : Prop :=
  Json.read host.readable text.toList ≠ .ok none

/-- A text that is a document, or of which it can be told why it is none. No more is said of texts
that nest too deeply for the host or write an integer with too many digits. -/
structure IsTellable (host : Host) (text : String) : Prop where
  document : ∀ d, Json.read host.readable text.toList = .ok (some d) → IsDocument d
  problem : ∀ e, Json.read host.readable text.toList = .error e →
    e.problem ≠ .tooDeep ∧ ∀ n, e.problem ≠ .tooManyDigits n

section Loading

variable {host : Host} {text : String}

theorem graphOfText_eq_ok {g : Graph} : graphOfText host text = .ok g ↔
    ∃ d, Json.read host.readable text.toList = .ok (some d) ∧ Graph.ofDocument d = .ok g := by
  unfold graphOfText
  rw [bind_eq_ok]
  constructor
  · rintro ⟨found, hfound, h⟩
    cases hread : Json.read host.readable text.toList with
    | error e =>
      rw [hread] at hfound
      cases hfound
    | ok read =>
      obtain rfl : read = found := Except.ok.inj ((hread ▸ hfound :))
      cases read with
      | none => cases h
      | some d => exact ⟨d, rfl, h⟩
  · rintro ⟨d, hread, h⟩
    exact ⟨some d, by rw [hread]; rfl, h⟩

theorem isTellable_of_graphOfText {g : Graph} (h : graphOfText host text = .ok g) :
    IsTellable host text := by
  obtain ⟨d, hread, hg⟩ := graphOfText_eq_ok.mp h
  refine ⟨fun d' hd' => ?_, fun e he => ?_⟩
  · obtain rfl := Option.some.inj (Except.ok.inj (hread.symm.trans hd'))
    exact Schema.isDocument_of_ofDocument hg
  · cases hread.symm.trans he

end Loading

theorem not_mem_message_notJson {e : Json.SyntaxError} (h : ∀ n, e.problem ≠ .tooManyDigits n) :
    '[' ∉ e.message.toList := by
  obtain ⟨problem, line, column, offset⟩ := e
  have hproblem : '[' ∉ (toString problem.message).toList := by
    cases problem with
    | tooManyDigits n => exact absurd rfl (h n)
    | _ => decide
  have hmessage : Json.SyntaxError.message ⟨problem, line, column, offset⟩ =
      s!"{problem.message}: line {line} column {column} (char {offset})" := by
    cases problem with
    | tooManyDigits n => exact absurd rfl (h n)
    | _ => rfl
  rw [hmessage]
  simp only [String.toList_append, List.mem_append, not_or, hproblem, not_mem_toString,
    not_false_eq_true, and_true, true_and]
  decide

theorem told_of_isShapeFault {f : Fault} (h : IsShapeFault f) :
    isDocumentFault f = true ∧ '[' ∉ f.message.toList := by
  rcases h with ⟨name, hname, rfl⟩ | ⟨kind, rfl⟩
  · have hwords : ∀ name ∈ Schema.neededFields, '[' ∉ (Fault.missingField name).message.toList := by
      decide
    exact ⟨rfl, hwords name hname⟩
  · refine ⟨rfl, ?_⟩
    cases kind with
    | moment shape => cases shape <;> decide
    | _ => decide

theorem told_of_isTellable {host : Host} {text : String} {f : Fault}
    (hwhole : HasWholeTexts host text) (h : IsTellable host text)
    (hf : graphOfText host text = .error f) :
    isDocumentFault f = true ∧ '[' ∉ f.message.toList := by
  unfold graphOfText at hf
  cases hread : Json.read host.readable text.toList with
  | error e =>
    rw [hread] at hf
    cases hf
    obtain ⟨hdeep, hdigits⟩ := h.problem e hread
    refine ⟨?_, not_mem_message_notJson hdigits⟩
    obtain ⟨problem, line, column, offset⟩ := e
    cases problem with
    | tooDeep => exact absurd rfl hdeep
    | tooManyDigits n => exact absurd rfl (hdigits n)
    | _ => rfl
  | ok found =>
    cases found with
    | none => exact absurd hread hwhole
    | some d =>
      rw [hread] at hf
      have hends := Schema.Graph.ends_ofDocument (h.document d hread)
      have hload : Graph.ofDocument d = .error f := hf
      rw [hload] at hends
      exact told_of_isShapeFault hends

section Read

variable {host : Host} {files : Files} {name : String} {content : Content}
  (htarget : files.target (.ofName name) = .file content)
  (hsuffix : (Path.ofName name).suffix = ".json")
include htarget hsuffix

theorem graphOfText_of_readDiagram_on {g : Graph} {c d : Console}
    (h : (readDiagram host files (.ofName name)).on c = (.ok g, d)) :
    content.text.bind (graphOfText host) = .ok g := by
  rw [readDiagram, bind_on_ok (openDiagram_on htarget hsuffix c)] at h
  split at h
  · next found hfound =>
    obtain ⟨rfl, _⟩ := pure_on_eq_ok.mp h
    exact hfound
  · split at h
    · exact absurd h refuse_on_ne_ok
    · cases congrArg Prod.fst h

/-- A command that has got through to its end has loaded a document. -/
theorem exists_graph_of_writes {r : Request} (hr : r.ReadsDiagram name) {out : String}
    (h : r.Writes host files out) : ∃ g, content.text.bind (graphOfText host) = .ok g := by
  obtain ⟨d, hrun, _⟩ := Request.writes_iff.mp h
  obtain ⟨rest, htask⟩ := hr.exists_task host files
  rw [htask] at hrun
  obtain ⟨g, _, hread, _⟩ := bind_on_eq_ok.mp hrun
  exact ⟨g, graphOfText_of_readDiagram_on htarget hsuffix hread⟩

theorem readDiagram_on_error {f : Fault} (hread : content.text.bind (graphOfText host) = .error f)
    (hf : isDocumentFault f = true) {told : String} (htold : messageText "Error:"
      ("Invalid diagram file " ++ (Path.ofName name).text ++ ": " ++ f.message) = .ok told)
    (c : Console) :
    (readDiagram host files (.ofName name)).on c = (.error .refused, c.told told) := by
  rw [readDiagram, bind_on_ok (openDiagram_on htarget hsuffix c), hread]
  dsimp only
  rw [if_pos hf]
  exact refuse_on htold c

theorem run_refused {r : Request} (hr : r.ReadsDiagram name) {f : Fault}
    (hread : content.text.bind (graphOfText host) = .error f) (hf : isDocumentFault f = true)
    {told : String} (htold : messageText "Error:"
      ("Invalid diagram file " ++ (Path.ofName name).text ++ ": " ++ f.message) = .ok told) :
    r.run host files = ⟨"", told, some .refused⟩ := by
  obtain ⟨rest, htask⟩ := hr.exists_task host files
  have hrefused := readDiagram_on_error htarget hsuffix hread hf htold ⟨[], []⟩
  have hrun : (r.task host files).on ⟨[], []⟩ =
      (.error .refused, (Console.mk [] []).told told) := by
    rw [htask]
    exact bind_on_error hrefused rest
  rw [Request.run_of_on hrun]
  simp [stopOf]

section Loaded

variable {g : Graph} (hread : content.text.bind (graphOfText host) = .ok g)
include hread

theorem generate_writes_iff
    (hshown : IsShown "i" ("Source diagram: " ++ (Path.ofName name).text)) {sql : String} :
    (Request.generate name).Writes host files sql ↔ scriptOf host g.tables = .ok sql := by
  constructor
  · intro h
    obtain ⟨d, hrun, _⟩ := Request.writes_iff.mp h
    rw [Request.task, generate, bind_on_ok (readDiagram_on htarget hsuffix hread _)] at hrun
    obtain ⟨_, _, _, hrun⟩ := bind_on_eq_ok.mp hrun
    obtain ⟨written, _, hwritten, _⟩ := bind_on_eq_ok.mp hrun
    have hsql := (orStop_on_eq_ok.mp hwritten).1
    rwa [h.unique (generate_writes htarget hsuffix hread hshown hsql)]
  · exact generate_writes htarget hsuffix hread hshown

theorem relayout_writes_iff {o : Options} {s : Layout.Settings Value}
    (hsettings : o.CallsFor host files s) {text : String} :
    (Request.layout name o).Writes host files text ↔ ∃ g', Layout.layout g s = .ok g' ∧
      (documentOf g' (.ofName name)).depth ≤ host.writable ∧
        Json.pretty (documentOf g' (.ofName name)) = text := by
  constructor
  · intro h
    obtain ⟨d, hrun, _⟩ := Request.writes_iff.mp h
    rw [Request.task, relayout, bind_on_ok (readDiagram_on htarget hsuffix hread _),
      bind_on_ok (hsettings _)] at hrun
    obtain ⟨_, _, _, hrun⟩ := bind_on_eq_ok.mp hrun
    obtain ⟨g', _, hplaced, hrun⟩ := bind_on_eq_ok.mp hrun
    obtain ⟨_, _, hwritten, _⟩ := bind_on_eq_ok.mp hrun
    have hlayout := (orStop_on_eq_ok.mp hplaced).1
    have hdepth := depth_le_of_emitDocument_on hwritten
    have hwrites := relayout_writes htarget hsuffix hread hsettings hlayout hdepth
    exact ⟨g', hlayout, hdepth, hwrites.unique h⟩
  · rintro ⟨g', hlayout, hdepth, rfl⟩
    exact relayout_writes htarget hsuffix hread hsettings hlayout hdepth

end Loaded

end Read

/-- A document that hardly says anything, but is one. -/
def bareText : String :=
  "\x7b\"nodes\": [\x7b\"id\": 7, \"data\": \x7b\"label\": [null], " ++
    "\"columns\": [\x7b\"id\": \x7b\x7d, \"name\": 1.5\x7d]\x7d\x7d], \"edges\": \"\"\x7d"

def bareGraph : Graph where
  tables := [{
    id := .int 7
    label := .list [.null]
    columns := [{ id := .object [], name := .float 1.5, type := .str "" }] }]

def bareFiles : Files :=
  [("d.json", .bytes (Text.utf8Bytes bareText))]

theorem graphOfText_bareText : graphOfText smallHost bareText = .ok bareGraph := by
  decide +kernel

/-- A document whose nodes are a number. -/
def countText : String :=
  "\x7b\"nodes\": 5\x7d"

def countFiles : Files :=
  [("d.json", .bytes (Text.utf8Bytes countText))]

end SchemaAtlas.Command
