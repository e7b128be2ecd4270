import SchemaAtlas.Command.Request
import SchemaAtlas.Proofs.Command.Messages

/-! # Commands at work

What the steps of a command leave on the console. A step goes on from the console of the step before
it, or the command stops there.
-/
namespace SchemaAtlas.Command
open Schema (Graph)
open Layout (Settings)

/-- What a task answers, and the console that it leaves. -/
def Task.on {α : Type} (t : Task α) (c : Console) : Except Stop α × Console :=
  t.run.run c

namespace Console

/-- A console with one more output. -/
def wrote (c : Console) (text : String) : Console :=
  { c with output := c.output ++ [text] }

/-- A console with one more message. -/
def told (c : Console) (text : String) : Console :=
  { c with messages := c.messages ++ [text] }

@[simp] theorem output_wrote (c : Console) (text : String) :
    (c.wrote text).output = c.output ++ [text] := rfl

@[simp] theorem output_told (c : Console) (text : String) : (c.told text).output = c.output := rfl

@[simp] theorem messages_told (c : Console) (text : String) :
    (c.told text).messages = c.messages ++ [text] := rfl

end Console

section Steps

variable {α β : Type} {t : Task α} {f : α → Task β} {c d e : Console} {a : α} {b : β}

theorem bind_on (t : Task α) (f : α → Task β) (c : Console) :
    (t >>= f).on c = match t.on c with
      | (.ok a, d) => (f a).on d
      | (.error s, d) => (.error s, d) := by
  unfold Task.on ExceptT.run StateT.run
  simp only [bind, ExceptT.bind, ExceptT.mk, StateT.bind, ExceptT.bindCont]
  cases t c with
  | mk answer d => cases answer <;> rfl

theorem bind_on_ok (h : t.on c = (.ok a, d)) (f : α → Task β) : (t >>= f).on c = (f a).on d := by
  rw [bind_on, h]

theorem bind_on_error {s : Stop} (h : t.on c = (.error s, d)) (f : α → Task β) :
    (t >>= f).on c = (.error s, d) := by
  rw [bind_on, h]

theorem bind_on_eq_ok :
    (t >>= f).on c = (.ok b, e) ↔ ∃ a d, t.on c = (.ok a, d) ∧ (f a).on d = (.ok b, e) := by
  rw [bind_on]
  obtain ⟨answer, d⟩ := t.on c
  cases answer <;> simp

theorem pure_on_eq_ok {a' : α} : (pure a : Task α).on c = (.ok a', d) ↔ a = a' ∧ c = d := by
  change ((.ok a, c) : Except Stop α × Console) = (.ok a', d) ↔ _
  simp

theorem orStop_on (answer : Except Fault α) (c : Console) :
    (orStop answer).on c = (answer.mapError .fault, c) := by
  cases answer <;> rfl

theorem orStop_on_eq_ok {answer : Except Fault α} :
    (orStop answer).on c = (.ok a, d) ↔ answer = .ok a ∧ c = d := by
  rw [orStop_on]
  cases answer <;> simp [Except.mapError]

theorem emit_on (text : String) (c : Console) : (emit text).on c = (.ok (), c.wrote text) := rfl

theorem tell_on_ok {mark message text : String} (h : messageText mark message = .ok text)
    (c : Console) : (tell mark message).on c = (.ok (), c.told text) := by
  rw [tell, h]
  rfl

theorem inform_on_ok {message text : String} (h : messageText "i" message = .ok text)
    (c : Console) : (inform message).on c = (.ok (), c.told text) :=
  tell_on_ok h c

theorem succeed_on {message : String} (h : '[' ∉ message.toList) (c : Console) :
    ∃ text, (succeed message).on c = (.ok (), c.told text) := by
  obtain ⟨text, htext⟩ := isShown_of_not_mem h "✓"
  exact ⟨text, tell_on_ok htext c⟩

theorem tell_on_error {mark message : String} {m : Terminal.MarkupError}
    (h : messageText mark message = .error m) (c : Console) :
    (tell mark message).on c = (.error (.fault (.badMarkup m)), c) := by
  rw [tell, h]
  rfl

theorem refuse_on {message text : String} (h : messageText "Error:" message = .ok text)
    (c : Console) : (refuse message : Task α).on c = (.error .refused, c.told text) := by
  rw [refuse, bind_on_ok (tell_on_ok h c)]
  rfl

theorem isShown_of_tell {mark message : String} (h : (tell mark message).on c = (.ok (), d)) :
    IsShown mark message := by
  cases hm : messageText mark message with
  | ok text => exact ⟨text, hm⟩
  | error m =>
    rw [tell_on_error hm] at h
    cases congrArg Prod.fst h

theorem refuse_on_ne_ok {message : String} : (refuse message : Task α).on c ≠ (.ok a, d) := by
  intro h
  obtain ⟨_, _, _, h⟩ := bind_on_eq_ok.mp h
  cases congrArg Prod.fst h

end Steps

/-- Why a task has stopped early, if it has. -/
def stopOf : Except Stop Unit → Option Stop
  | .ok _ => none
  | .error s => some s

theorem Request.run_of_on {r : Request} {host : Host} {files : Files} {answer : Except Stop Unit}
    {d : Console} (h : (r.task host files).on ⟨[], []⟩ = (answer, d)) :
    r.run host files = ⟨String.join d.output, String.join d.messages, stopOf answer⟩ := by
  unfold Task.on at h
  unfold run
  rw [h]
  cases answer <;> rfl

/-- A command gets through to its end with some output. -/
def Request.Writes (r : Request) (host : Host) (files : Files) (text : String) : Prop :=
  (r.run host files).stop = none ∧ (r.run host files).output = text

theorem Request.writes_iff {r : Request} {host : Host} {files : Files} {text : String} :
    r.Writes host files text ↔
      ∃ d, (r.task host files).on ⟨[], []⟩ = (.ok (), d) ∧ String.join d.output = text := by
  rcases hrun : (r.task host files).on ⟨[], []⟩ with ⟨answer, d⟩
  rw [Writes, run_of_on hrun]
  cases answer <;> simp [stopOf]

/-! Files and options. -/

section Reading

variable {host : Host} {files : Files} {p : Path} {suffixes : List String} {content : Content}
  {c d : Console}

theorem openFile_on (htarget : files.target p = .file content)
    (hsuffix : suffixes.contains p.suffix = true) (c : Console) :
    (openFile files p suffixes).on c = (.ok content, c) := by
  rw [openFile, htarget]
  dsimp only
  rw [if_pos hsuffix]
  rfl

theorem openFile_on_eq_ok (h : (openFile files p suffixes).on c = (.ok content, d)) :
    files.target p = .file content ∧ suffixes.contains p.suffix = true ∧ d = c := by
  unfold openFile at h
  split at h
  · next found htarget =>
    by_cases hsuffix : suffixes.contains p.suffix = true
    · rw [if_pos hsuffix] at h
      obtain ⟨rfl, rfl⟩ := pure_on_eq_ok.mp h
      exact ⟨htarget, hsuffix, rfl⟩
    · rw [if_neg hsuffix] at h
      exact absurd h refuse_on_ne_ok
  · cases congrArg Prod.fst h
  all_goals exact absurd h refuse_on_ne_ok

/-- Options call for settings, whatever has been written before. -/
def Options.CallsFor (o : Options) (host : Host) (files : Files) (s : Settings Value) : Prop :=
  ∀ c, (o.settings host files).on c = (.ok s, c)

theorem readSettings_on_eq_ok {config : Option String} {s : Settings Value}
    (h : (readSettings host files config).on c = (.ok s, d)) :
    d = c ∧ ∀ e, (readSettings host files config).on e = (.ok s, e) := by
  cases config with
  | none =>
    obtain ⟨rfl, rfl⟩ := pure_on_eq_ok.mp h
    exact ⟨rfl, fun _ => rfl⟩
  | some name =>
    unfold readSettings at h ⊢
    dsimp only at h ⊢
    cases htarget : files.target (Path.ofName name) with
    | file content =>
      rw [htarget] at h
      dsimp only at h ⊢
      cases hfile : Settings.ofFile host.openable (Path.ofName name).text content.textBytes with
      | ok found =>
        rw [hfile] at h
        obtain ⟨rfl, rfl⟩ := pure_on_eq_ok.mp h
        exact ⟨rfl, fun _ => rfl⟩
      | error f =>
        rw [hfile] at h
        dsimp only at h
        split at h
        · cases congrArg Prod.fst h
        · exact absurd h refuse_on_ne_ok
    | _ =>
      rw [htarget] at h
      dsimp only at h
      split at h <;> exact absurd h refuse_on_ne_ok

theorem Options.callsFor_of_on {o : Options} {s : Settings Value}
    (h : (o.settings host files).on c = (.ok s, d)) : d = c ∧ o.CallsFor host files s := by
  obtain ⟨found, e, hread, hturn⟩ := bind_on_eq_ok.mp h
  obtain ⟨rfl, hall⟩ := readSettings_on_eq_ok hread
  unfold CallsFor settings
  simp only [bind_on_ok (hall _)]
  cases hdirection : o.direction with
  | none =>
    rw [hdirection] at hturn
    obtain ⟨rfl, rfl⟩ := pure_on_eq_ok.mp hturn
    exact ⟨rfl, fun _ => rfl⟩
  | some direction =>
    rw [hdirection] at hturn
    by_cases hempty : direction = ""
    · subst hempty
      obtain ⟨rfl, rfl⟩ := pure_on_eq_ok.mp hturn
      exact ⟨rfl, fun _ => rfl⟩
    · cases hfound : found.withDirection (.str direction) with
      | ok turned =>
        simp only [hfound] at hturn ⊢
        obtain ⟨rfl, rfl⟩ := pure_on_eq_ok.mp hturn
        exact ⟨rfl, fun _ => rfl⟩
      | error f =>
        simp only [hfound] at hturn
        exact absurd hturn refuse_on_ne_ok

/-- Options that name a file call for the same as long as the file stays as it is. -/
theorem Options.CallsFor.of_target {o : Options} {later : Files} {s : Settings Value}
    (h : o.CallsFor host files s)
    (hconfig : ∀ name ∈ o.config, later.target (.ofName name) = files.target (.ofName name)) :
    o.CallsFor host later s := by
  have hread : readSettings host later o.config = readSettings host files o.config := by
    cases hc : o.config with
    | none => rfl
    | some name =>
      unfold readSettings
      dsimp only
      rw [hconfig name hc]
  unfold CallsFor settings at *
  rw [hread]
  exact h

end Reading

end SchemaAtlas.Command
