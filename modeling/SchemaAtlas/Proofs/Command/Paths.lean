import Mathlib.Data.List.TakeWhile
import SchemaAtlas.Command.Input
import SchemaAtlas.Proofs.Command.Messages

/-! # Paths beside each other

Paths in one directory whose names differ in the suffix only are the same text up to the suffix. The
suffixes of files that commands take have no markup in them, so messages about such paths have the
same tags.
-/
namespace SchemaAtlas.Text

theorem toLower_mem_lowerAfter {c : Char} (hc : c.toNat < 128) {s : List Char} (h : c ∈ s)
    (before : List Char) : c.toLower ∈ lowerAfter before s := by
  induction s generalizing before with
  | nil => cases h
  | cons d rest ih =>
    rw [lowerAfter, List.mem_append]
    rcases List.mem_cons.mp h with rfl | h
    · left
      rw [lowerChar, if_pos hc]
      exact List.mem_singleton_self _
    · exact .inr (ih h _)

end SchemaAtlas.Text

namespace SchemaAtlas.Command.Path

theorem splitSuffix_append (name : List Char) :
    (splitSuffix name).1 ++ (splitSuffix name).2 = name := by
  unfold splitSuffix
  dsimp only
  split
  · exact List.append_nil name
  · next h =>
    have hname : name = (name.reverse.dropWhile (· ≠ '.')).reverse ++
        (name.reverse.takeWhile (· ≠ '.')).reverse := by
      rw [← List.reverse_append, List.takeWhile_append_dropWhile, List.reverse_reverse]
    have hdot := List.head?_dropWhile_not (· ≠ '.') name.reverse
    generalize (name.reverse.takeWhile (· ≠ '.')).reverse = suffix at h hname ⊢
    cases hbefore : name.reverse.dropWhile (· ≠ '.') with
    | nil =>
      -- Without a dot the name would be its suffix.
      rw [hbefore] at hname
      simp [hname] at h
    | cons d before =>
      rw [hbefore] at hdot hname
      obtain rfl : d = '.' := by simpa using hdot
      obtain rfl : name = before.reverse ++ '.' :: suffix := by simpa using hname
      have hlength : (before.reverse ++ '.' :: suffix).length - suffix.length - 1 =
          before.reverse.length := by
        rw [List.length_append, List.length_cons]
        omega
      rw [hlength, List.take_left]

theorem intercalate_append_last {sep : List Char} (parts : List (List Char)) (a b : List Char) :
    sep.intercalate (parts ++ [a ++ b]) = sep.intercalate (parts ++ [a]) ++ b := by
  induction parts with
  | nil => simp
  | cons part parts ih =>
    cases parts with
    | nil => simp
    | cons next parts => simpa using ih

/-- A path in the same directory as another one and with the same name but for the suffix. -/
structure IsBeside (p q : Path) : Prop where
  root : p.root = q.root
  directory : p.parts.dropLast = q.parts.dropLast
  stem : p.stem = q.stem

/-- The text of a path without the suffix. -/
def unsuffixed (p : Path) : List Char :=
  p.root ++ ['/'].intercalate (p.parts.dropLast ++ [p.stem.toList])

def writtenSuffix (p : Path) : List Char :=
  (splitSuffix p.name).2

variable {p q : Path}

theorem writtenSuffix_ne_nil (h : p.suffix ≠ "") : p.writtenSuffix ≠ [] := by
  intro hnil
  rw [writtenSuffix] at hnil
  rw [suffix, hnil] at h
  exact h rfl

theorem toList_text (h : p.suffix ≠ "") : p.text.toList = p.unsuffixed ++ p.writtenSuffix := by
  have hsuffix := writtenSuffix_ne_nil h
  have hname : p.stem.toList ++ p.writtenSuffix = p.name := by
    rw [stem, String.toList_ofList, writtenSuffix, splitSuffix_append]
  have hparts : p.parts.dropLast ++ [p.stem.toList ++ p.writtenSuffix] = p.parts := by
    cases hp : p.parts with
    | nil =>
      rw [name, hp] at hname
      exact absurd (List.append_eq_nil_iff.mp hname).2 hsuffix
    | cons part parts =>
      have hne : part :: parts ≠ [] := List.cons_ne_nil _ _
      rw [hname, name, hp, List.getLastD_eq_getLast?, List.getLast?_eq_some_getLast hne]
      exact List.dropLast_concat_getLast hne
  have htext : p.root ++ ['/'].intercalate p.parts = p.unsuffixed ++ p.writtenSuffix := by
    rw [← hparts, intercalate_append_last, unsuffixed, List.append_assoc]
  rw [text, htext]
  split
  · next hnil => exact absurd (List.append_eq_nil_iff.mp hnil).2 hsuffix
  · exact String.toList_ofList

theorem IsBeside.unsuffixed_eq (h : p.IsBeside q) : p.unsuffixed = q.unsuffixed := by
  rw [unsuffixed, h.root, h.directory, h.stem, unsuffixed]

theorem not_mem_writtenSuffix {c : Char} (hc : c.toNat < 128) (h : c.toLower ∉ p.suffix.toList) :
    c ∉ p.writtenSuffix := by
  intro hmem
  rw [suffix, String.toList_ofList] at h
  exact h (Text.toLower_mem_lowerAfter hc hmem [])

/-- All tags of a message about a path are in front of its suffix. -/
theorem tags_message {before : String} (hopen : '[' ∉ before.toList) (hslash : '\\' ∉ before.toList)
    (h : p.suffix ∈ diagramSuffixes ++ scriptSuffixes) :
    Terminal.tags (before ++ p.text).toList = Terminal.tags p.unsuffixed := by
  have hplain : ∀ suffix ∈ diagramSuffixes ++ scriptSuffixes,
      suffix ≠ "" ∧ '['.toLower ∉ suffix.toList ∧ ']'.toLower ∉ suffix.toList := by
    decide
  obtain ⟨hsuffix, hopen', hclose'⟩ := hplain _ h
  rw [String.toList_append, toList_text hsuffix]
  exact Terminal.tags_append hopen hslash (not_mem_writtenSuffix (by decide) hopen')
    (not_mem_writtenSuffix (by decide) hclose') _

/-- The terminal can show where a document is that is stored beside a script if it has shown on one
line where the script is. -/
theorem IsBeside.isShown (h : p.IsBeside q) (hp : p.suffix = ".json")
    (hq : scriptSuffixes.contains q.suffix = true)
    (hshown : IsShown "i" ("Source script: " ++ q.text))
    (hline : TakesOneLine "i" ("Source script: " ++ q.text)) :
    IsShown "i" ("Source diagram: " ++ p.text) := by
  have hp' : p.suffix ∈ diagramSuffixes ++ scriptSuffixes := by
    rw [hp]
    decide
  have hq' : q.suffix ∈ diagramSuffixes ++ scriptSuffixes :=
    List.mem_append_right _ (List.contains_iff_mem.mp hq)
  refine hshown.of_tags hline ?_ "i"
  rw [tags_message (by decide) (by decide) hq', tags_message (by decide) (by decide) hp',
    h.unsuffixed_eq]

/-- Where a script is takes one line if its path is not too long and has no colons in it. -/
theorem takesOneLine_source (h : ∀ c ∈ ['\n', '\t', ':'], c ∉ p.text.toList)
    (hsize : p.text.toList.length ≤ 1980) : TakesOneLine "i" ("Source script: " ++ p.text) := by
  have hcolon : "Source script: ".toList.count ':' = 1 := by decide
  have hlength : "Source script: ".toList.length = 15 := rfl
  have hmark : "i".toList.length = 1 := rfl
  have hwords : ∀ c ∈ ['\n', '\t'],
      c ∉ "i".toList ∧ c ∉ "Source script: ".toList ∧ c ∈ ['\n', '\t', ':'] := by
    simp
  refine takesOneLine (fun c hc => (hwords c hc).1) (fun c hc => ?_) ?_ ?_
  · rw [String.toList_append, List.mem_append, not_or]
    exact ⟨(hwords c hc).2.1, h c (hwords c hc).2.2⟩
  · have hnone : p.text.toList.count ':' = 0 := List.count_eq_zero.mpr (h ':' (by simp))
    rw [String.toList_append, List.count_append, hcolon, hnone]
  · rw [String.toList_append, List.length_append, hlength, hmark, terminalWidth]
    omega

end SchemaAtlas.Command.Path
