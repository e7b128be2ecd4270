import SchemaAtlas.Command.Console
import SchemaAtlas.Proofs.Terminal.Fitting
import SchemaAtlas.Proofs.Terminal.Tags

/-! # Messages

A message can be shown if its tags are right and the styles of its lines can be read. Breaking it
into lines can only lose styles, so what is shown on one line tells what other messages with the
same tags can be shown.
-/
namespace SchemaAtlas.Command
open Terminal

/-- A message that can be shown after a mark. -/
def IsShown (mark message : String) : Prop :=
  ∃ text, messageText mark message = .ok text

/-- What a message shows after a mark, as one line. -/
def messageLine (mark : String) (line : Line) : Line :=
  Line.append ⟨mark.toList ++ [' '], []⟩ line

theorem styledBy_messageLine {mark : String} {line : Line} {p : List Char → Prop} :
    (messageLine mark line).StyledBy p ↔ line.StyledBy p := by
  simp [messageLine, Line.append, Line.StyledBy]

theorem isShown_iff {mark message : String} : IsShown mark message ↔
    ∃ line, marked message.toList = .ok line ∧
      ∀ l ∈ wrapped .fold terminalWidth (messageLine mark line), l.StyledBy IsStyleName := by
  simp only [← Line.check_eq_ok, ← forM_eq_ok]
  constructor
  · rintro ⟨text, h⟩
    obtain ⟨line, hline, h⟩ := bind_eq_ok.mp h
    obtain ⟨_, hcheck, _⟩ := bind_eq_ok.mp h
    exact ⟨line, hline, hcheck⟩
  · rintro ⟨line, hline, hcheck⟩
    exact ⟨_, bind_eq_ok.mpr ⟨line, hline, bind_eq_ok.mpr ⟨(), hcheck, rfl⟩⟩⟩

/-- A message can be shown after any mark if all of its styles can be read. -/
theorem isShown_of_styledBy {message : String} {line : Line}
    (hmarked : marked message.toList = .ok line) (h : line.StyledBy IsStyleName) (mark : String) :
    IsShown mark message :=
  isShown_iff.mpr ⟨line, hmarked, (styledBy_messageLine.mpr h).wrapped .fold terminalWidth⟩

/-- A message without an opening bracket can be shown after any mark. -/
theorem isShown_of_not_mem {message : String} (h : '[' ∉ message.toList) (mark : String) :
    IsShown mark message := by
  obtain ⟨line, hmarked, hbare⟩ := marked_of_not_mem h
  exact isShown_of_styledBy hmarked (hbare.mono fun _ h => h.elim) mark

/-- A message whose line is not broken after a mark. -/
def TakesOneLine (mark message : String) : Prop :=
  ∀ line, marked message.toList = .ok line →
    wrapped .fold terminalWidth (messageLine mark line) = [messageLine mark line]

/-- Half of the cells are enough for a message, as no character takes more than two. -/
theorem takesOneLine {mark message : String} (hmark : ∀ c ∈ ['\n', '\t'], c ∉ mark.toList)
    (hmessage : ∀ c ∈ ['\n', '\t'], c ∉ message.toList) (hcolon : message.toList.count ':' ≤ 1)
    (hsize : 2 * (mark.toList.length + 1 + message.toList.length) ≤ terminalWidth) :
    TakesOneLine mark message := by
  intro line hline
  have hshown := chars_sublist_of_marked hcolon hline
  have hchars : (messageLine mark line).chars = mark.toList ++ [' '] ++ line.chars := rfl
  have hfree : ∀ c ∈ ['\n', '\t'], c ∉ (messageLine mark line).chars := by
    intro c hc
    rw [hchars, List.mem_append, List.mem_append, not_or, not_or]
    refine ⟨⟨hmark c hc, ?_⟩, fun hmem => hmessage c hc (hshown.subset hmem)⟩
    intro hblank
    obtain rfl := List.mem_singleton.mp hblank
    exact absurd hc (by decide)
  refine wrapped_eq_self (hfree _ (by decide)) (hfree _ (by decide)) ?_
  have hlength := hshown.length_le
  rw [Line.size, hchars, List.length_append, List.length_append, List.length_singleton]
  omega

/-- A message that is shown on one line tells that others with the same tags can be shown. -/
theorem IsShown.of_tags {mark message other : String} (h : IsShown mark message)
    (hline : TakesOneLine mark message) (htags : tags message.toList = tags other.toList)
    (mark' : String) : IsShown mark' other := by
  obtain ⟨line, hmarked, hstyled⟩ := isShown_iff.mp h
  rw [hline line hmarked] at hstyled
  have hnames := styledBy_messageLine.mp (hstyled _ List.mem_cons_self)
  obtain ⟨line', hmarked', hnames'⟩ := marked_of_tags htags hmarked hnames
  exact isShown_of_styledBy hmarked' hnames' mark'

theorem not_mem_toString (n : Nat) : '[' ∉ (toString n).toList := by
  rw [Nat.toString_eq_ofList_toDigits, String.toList_ofList]
  intro h
  cases Nat.isDigit_of_mem_toDigits (by decide) (by decide) h

end SchemaAtlas.Command
