import SchemaAtlas.Proofs.Schema.Reloading
import SchemaAtlas.Sql.Writer

/-! # Comments that can be written

Names and types of any kind can be written. Only comments have to be texts, and those of columns
only if they count as true.
-/
namespace SchemaAtlas.Schema

/-- A comment that is not left out is a text. -/
def Column.HasTextComment (c : Column) : Prop :=
  c.comment.truthy = true → c.comment.IsText

structure Table.HasTextComments (t : Table) : Prop where
  own : t.comment.IsText
  columns : ∀ c ∈ t.columns, c.HasTextComment

end SchemaAtlas.Schema

namespace SchemaAtlas.Sql
open Schema (Column Table)

theorem exists_commentOf {v : Value} : (∃ s, commentOf v = .ok s) ↔ v.IsText := by
  constructor
  · rintro ⟨s, h⟩
    cases v with
    | str t => exact ⟨t, rfl⟩
    | _ => cases h
  · rintro ⟨s, rfl⟩
    exact ⟨s, rfl⟩

theorem exists_columnLine {c : Column} :
    (∃ line, columnLine c = .ok line) ↔ c.HasTextComment := by
  unfold columnLine Column.HasTextComment
  dsimp only
  by_cases h : c.comment.truthy = true
  · rw [if_pos h, ← exists_commentOf]
    constructor
    · rintro ⟨line, hline⟩ _
      obtain ⟨s, hs, _⟩ := bind_eq_ok.mp hline
      exact ⟨s, hs⟩
    · intro hc
      obtain ⟨s, hs⟩ := hc h
      rw [hs, ok_bind]
      exact ⟨_, rfl⟩
  · rw [if_neg h]
    exact iff_of_true ⟨_, rfl⟩ fun ht => absurd ht h

theorem exists_writeTable {t : Table} :
    (∃ text, writeTable t = .ok text) ↔ t.HasTextComments := by
  unfold writeTable
  constructor
  · rintro ⟨text, h⟩
    obtain ⟨lines, hlines, h⟩ := bind_eq_ok.mp h
    obtain ⟨comment, hcomment, _⟩ := bind_eq_ok.mp h
    refine ⟨exists_commentOf.mp ⟨comment, hcomment⟩, fun c hc => ?_⟩
    exact exists_columnLine.mp (exists_mapM_eq_ok.mp ⟨lines, hlines⟩ c hc)
  · rintro ⟨hcomment, hcolumns⟩
    obtain ⟨comment, hcomment⟩ := exists_commentOf.mpr hcomment
    obtain ⟨lines, hlines⟩ :=
      exists_mapM_eq_ok.mpr fun c hc => exists_columnLine.mpr (hcolumns c hc)
    rw [hlines, ok_bind, hcomment, ok_bind]
    exact ⟨_, rfl⟩

/-- Tables can be written just when all of their comments can. -/
theorem exists_write {tables : List Table} :
    (∃ sql, write tables = .ok sql) ↔ ∀ t ∈ tables, t.HasTextComments := by
  simp only [← exists_writeTable]
  rw [← exists_mapM_eq_ok, write]
  constructor
  · rintro ⟨sql, h⟩
    obtain ⟨texts, htexts, _⟩ := bind_eq_ok.mp h
    exact ⟨texts, htexts⟩
  · rintro ⟨texts, htexts⟩
    rw [htexts, ok_bind]
    exact ⟨_, rfl⟩

end SchemaAtlas.Sql
