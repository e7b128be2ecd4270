import SchemaAtlas.Sql.Database
import Mathlib.Data.List.Basic

/-! # The tables of a database file

A pattern accepts a text exactly if it describes it. The underscore in the pattern of reserved names
stands for any character, so tables are left out that only look like those of the database itself.
-/
namespace SchemaAtlas.Sql

/-- What a pattern describes: `%` any text, `_` any one character, and each other character itself,
as a capital or a small letter. -/
inductive Describes : List Char → List Char → Prop
  | nil : Describes [] []
  | text {ps s : List Char} (t : List Char) (h : Describes ps s) : Describes ('%' :: ps) (t ++ s)
  | char {p c : Char} {ps s : List Char} (hp : p ≠ '%') (hc : p = '_' ∨ p.toLower = c.toLower)
      (h : Describes ps s) : Describes (p :: ps) (c :: s)

theorem anyTail_eq_true {accepts : List Char → Bool} {s : List Char} :
    isLike.anyTail accepts s = true ↔ ∃ t u, s = t ++ u ∧ accepts u = true := by
  induction s with
  | nil =>
    constructor
    · intro h
      exact ⟨[], [], rfl, h⟩
    · rintro ⟨t, u, htu, hu⟩
      obtain ⟨_, rfl⟩ := List.append_eq_nil_iff.mp htu.symm
      exact hu
  | cons c s ih =>
    rw [isLike.anyTail, Bool.or_eq_true, ih]
    constructor
    · rintro (h | ⟨t, u, rfl, hu⟩)
      · exact ⟨[], c :: s, rfl, h⟩
      · exact ⟨c :: t, u, rfl, hu⟩
    · rintro ⟨t, u, htu, hu⟩
      cases t with
      | nil =>
        rw [List.nil_append] at htu
        exact .inl (htu ▸ hu)
      | cons d t => exact .inr ⟨t, u, (List.cons.inj htu).2, hu⟩

theorem describes_percent {ps s : List Char} :
    Describes ('%' :: ps) s ↔ ∃ t u, s = t ++ u ∧ Describes ps u := by
  constructor
  · intro h
    cases h with
    | text t h => exact ⟨t, _, rfl, h⟩
    | char hp => exact absurd rfl hp
  · rintro ⟨t, u, rfl, h⟩
    exact .text t h

theorem describes_cons {p : Char} (hp : p ≠ '%') {ps s : List Char} :
    Describes (p :: ps) s ↔
      ∃ c t, s = c :: t ∧ (p = '_' ∨ p.toLower = c.toLower) ∧ Describes ps t := by
  constructor
  · intro h
    cases h with
    | text => exact absurd rfl hp
    | char _ hc h => exact ⟨_, _, rfl, hc, h⟩
  · rintro ⟨c, t, rfl, hc, h⟩
    exact .char hp hc h

theorem isLike_iff_describes {p s : List Char} : isLike p s = true ↔ Describes p s := by
  induction p generalizing s with
  | nil =>
    cases s with
    | nil => exact iff_of_true rfl .nil
    | cons c s => exact iff_of_false nofun nofun
  | cons p ps ih =>
    unfold isLike
    split
    · next hp =>
      rw [hp, anyTail_eq_true, describes_percent]
      simp only [ih]
    · next hp =>
      rw [describes_cons hp]
      cases s with
      | nil => exact iff_of_false nofun nofun
      | cons c s => simp [ih]

/-- A pattern that begins with small letters describes the texts that begin with them in any case
and go on as the rest of the pattern asks. -/
theorem describes_append {w : List Char} (hw : ∀ p ∈ w, p ≠ '%' ∧ p ≠ '_' ∧ p.toLower = p)
    {ps s : List Char} :
    Describes (w ++ ps) s ↔ ∃ u t, s = u ++ t ∧ u.map Char.toLower = w ∧ Describes ps t := by
  induction w generalizing s with
  | nil =>
    constructor
    · intro h
      exact ⟨[], s, rfl, rfl, h⟩
    · rintro ⟨u, t, rfl, hu, h⟩
      rw [List.map_eq_nil_iff.mp hu]
      exact h
  | cons p w ih =>
    obtain ⟨⟨hpercent, hunderscore, hlower⟩, hw⟩ := List.forall_mem_cons.mp hw
    rw [List.cons_append, describes_cons hpercent]
    constructor
    · rintro ⟨c, t, rfl, hc, h⟩
      obtain ⟨u, t, rfl, hu, h⟩ := (ih hw).mp h
      have hpc := (hc.resolve_left hunderscore).symm.trans hlower
      exact ⟨c :: u, t, rfl, by rw [List.map_cons, hpc, hu], h⟩
    · rintro ⟨u, t, rfl, hu, h⟩
      obtain ⟨c, u, rfl, hc, hu⟩ := List.map_eq_cons_iff.mp hu
      exact ⟨c, u ++ t, rfl, .inr (hlower.trans hc.symm), (ih hw).mpr ⟨u, t, rfl, hu, h⟩⟩

/-- The underscore stands for a character of its own kind and the percent sign for all that comes
after it, so some character has to come. -/
theorem describes_underscore_percent {s : List Char} : Describes ['_', '%'] s ↔ s ≠ [] := by
  rw [describes_cons (by decide)]
  constructor
  · rintro ⟨c, t, rfl, _⟩
    exact List.cons_ne_nil c t
  · intro h
    obtain ⟨c, t, rfl⟩ := List.exists_cons_of_ne_nil h
    exact ⟨c, t, rfl, .inl rfl, describes_percent.mpr ⟨t, [], (List.append_nil t).symm, .nil⟩⟩

def lowered (name : String) : List Char :=
  name.toList.map Char.toLower

theorem isLike_reservedPattern {name : String} : isLike reservedPattern name.toList = true ↔
    "sqlite".toList <+: lowered name ∧ 6 < name.length := by
  have hsmall : ∀ p ∈ "sqlite".toList, p ≠ '%' ∧ p ≠ '_' ∧ p.toLower = p := by simp
  rw [isLike_iff_describes, show reservedPattern = "sqlite".toList ++ ['_', '%'] by decide,
    describes_append hsmall]
  simp only [describes_underscore_percent]
  constructor
  · rintro ⟨u, t, hs, hu, ht⟩
    have hlength := congrArg List.length hu
    have hpos := List.length_pos_of_ne_nil ht
    rw [List.length_map] at hlength
    refine ⟨⟨t.map Char.toLower, by rw [lowered, hs, List.map_append, hu]⟩, ?_⟩
    rw [← String.length_toList, hs, List.length_append, hlength]
    change 6 < 6 + t.length
    omega
  · rintro ⟨⟨t, ht⟩, hlong⟩
    obtain ⟨u, t', hs, hu, rfl⟩ := List.map_eq_append_iff.mp ht.symm
    refine ⟨u, t', hs, hu, ?_⟩
    rintro rfl
    have hlength := congrArg List.length hu
    rw [List.length_map] at hlength
    rw [← String.length_toList, hs, List.append_nil, hlength] at hlong
    exact absurd hlong (by decide)

/-- The names that no table of a user can have. -/
def IsReserved (name : String) : Prop :=
  "sqlite_".toList <+: lowered name

/-- Names that go on after the reserved word with another character than the underscore. -/
def LooksReserved (name : String) : Prop :=
  "sqlite".toList <+: lowered name ∧ 6 < name.length ∧ ¬ IsReserved name

instance (name : String) : Decidable (IsReserved name) :=
  inferInstanceAs (Decidable (_ <+: _))

instance (name : String) : Decidable (LooksReserved name) :=
  inferInstanceAs (Decidable (_ ∧ _ ∧ _))

theorem isLike_reservedPattern_iff {name : String} :
    isLike reservedPattern name.toList = true ↔ IsReserved name ∨ LooksReserved name := by
  rw [isLike_reservedPattern]
  constructor
  · rintro ⟨hword, hlong⟩
    by_cases h : IsReserved name
    · exact .inl h
    · exact .inr ⟨hword, hlong, h⟩
  · rintro (h | ⟨hword, hlong, _⟩)
    · refine ⟨List.IsPrefix.trans (by decide) h, ?_⟩
      have hle := List.IsPrefix.length_le h
      rw [lowered, List.length_map, String.length_toList] at hle
      exact hle
    · exact ⟨hword, hlong⟩

/-- A table that a user has made, with its definition. -/
def Entry.IsUserTable (e : Entry) : Prop :=
  e.type = "table" ∧ e.sql.isSome ∧ ¬ IsReserved e.name

instance (e : Entry) : Decidable e.IsUserTable :=
  inferInstanceAs (Decidable (_ ∧ _ ∧ _))

/-- Definitions in their order, each with a semicolon and a blank line after it. -/
def scriptOf (definitions : List String) : String :=
  String.join (definitions.map fun sql => sql ++ ";\n\n")

theorem scriptOf_cons (sql : String) (definitions : List String) :
    scriptOf (sql :: definitions) = sql ++ ";\n\n" ++ scriptOf definitions := by
  rw [scriptOf, List.map_cons, String.join_cons]
  rfl

section Lost

variable {f g : Entry → Option String} (h : ∀ e, f e = none ∨ f e = g e)
include h

theorem length_scriptOf_le (entries : List Entry) :
    (scriptOf (entries.filterMap f)).length ≤ (scriptOf (entries.filterMap g)).length := by
  induction entries with
  | nil => exact Nat.le_refl _
  | cons e entries ih =>
    rw [List.filterMap_cons, List.filterMap_cons]
    cases hg : g e with
    | none =>
      have hf : f e = none := (h e).elim id fun hf => hf.trans hg
      rw [hf]
      exact ih
    | some sql =>
      rcases h e with hf | hf
      · simp only [hf, scriptOf_cons, String.length_append]
        omega
      · simp only [hf, hg, scriptOf_cons, String.length_append]
        omega

/-- A definition that is lost is missed, because each one adds something to the script. -/
theorem scriptOf_filterMap_eq_iff {entries : List Entry} :
    scriptOf (entries.filterMap f) = scriptOf (entries.filterMap g) ↔
      ∀ e ∈ entries, f e = g e := by
  constructor
  · intro heq
    induction entries with
    | nil => exact fun e he => absurd he List.not_mem_nil
    | cons e entries ih =>
      have hle := length_scriptOf_le h entries
      rw [List.filterMap_cons, List.filterMap_cons] at heq
      rw [List.forall_mem_cons]
      by_cases hfg : f e = g e
      · refine ⟨hfg, ih ?_⟩
        rw [hfg] at heq
        cases hg : g e with
        | none =>
          rw [hg] at heq
          exact heq
        | some sql =>
          simp only [hg, scriptOf_cons] at heq
          exact (String.append_right_inj _).mp heq
      · have hnone := (h e).resolve_right hfg
        obtain ⟨sql, hsql⟩ := Option.ne_none_iff_exists'.mp fun hg => hfg (hnone.trans hg.symm)
        rw [hnone, hsql] at heq
        have hlength := congrArg String.length heq
        simp only [scriptOf_cons, String.length_append] at hlength
        have hmark : (";\n\n" : String).length = 3 := rfl
        omega
  · intro heq
    rw [List.filterMap_congr heq]

end Lost

def Entry.userDefinition? (e : Entry) : Option String :=
  if e.IsUserTable then e.sql else none

theorem definition?_eq (e : Entry) :
    e.definition? = if e.IsUserTable ∧ ¬ LooksReserved e.name then e.sql else none := by
  have hlike := @isLike_reservedPattern_iff e.name
  cases hsql : e.sql with
  | none => simp [Entry.definition?, hsql]
  | some sql =>
    by_cases ht : e.type = "table" <;> by_cases hr : IsReserved e.name <;>
      by_cases hl : LooksReserved e.name <;> simp_all [Entry.definition?, Entry.IsUserTable]

theorem definition?_eq_none_or (e : Entry) :
    e.definition? = none ∨ e.definition? = e.userDefinition? := by
  rw [definition?_eq, Entry.userDefinition?]
  by_cases hu : e.IsUserTable <;> by_cases hl : LooksReserved e.name <;> simp [hu, hl]

theorem definition?_eq_userDefinition? {e : Entry} :
    e.definition? = e.userDefinition? ↔ (e.IsUserTable → ¬ LooksReserved e.name) := by
  rw [definition?_eq, Entry.userDefinition?]
  by_cases hu : e.IsUserTable
  · obtain ⟨sql, hsql⟩ := Option.isSome_iff_exists.mp hu.2.1
    by_cases hl : LooksReserved e.name <;> simp [hu, hl, hsql]
  · simp [hu]

/-- The script consists of the definitions of the tables that users have made, in their order, but
for tables whose names look reserved. So it is complete exactly if there is no such table. -/
theorem databaseScript_tables (entries : List Entry) :
    databaseScript entries = scriptOf ((entries.filter fun e =>
        e.IsUserTable ∧ ¬ LooksReserved e.name).filterMap Entry.sql) ∧
      (databaseScript entries =
          scriptOf ((entries.filter fun e => e.IsUserTable).filterMap Entry.sql) ↔
        ∀ e ∈ entries, e.IsUserTable → ¬ LooksReserved e.name) := by
  have huser : (entries.filter fun e => e.IsUserTable).filterMap Entry.sql =
      entries.filterMap Entry.userDefinition? := by
    rw [List.filterMap_filter]
    simp only [decide_eq_true_eq]
    rfl
  rw [huser]
  constructor
  · change scriptOf (entries.filterMap Entry.definition?) = _
    simp [List.filterMap_filter, definition?_eq]
  · change scriptOf (entries.filterMap Entry.definition?) = _ ↔ _
    rw [scriptOf_filterMap_eq_iff definition?_eq_none_or]
    exact forall₂_congr fun _ _ => definition?_eq_userDefinition?

/-- A table of a user whose name only begins like a reserved one is lost. -/
theorem databaseScript_lookalike :
    let e : Entry := ⟨"table", "sqlitedata", some "CREATE TABLE sqlitedata (id INT)"⟩
    e.IsUserTable ∧ databaseScript [e] = "" ∧
      scriptOf (([e].filter fun e => e.IsUserTable).filterMap Entry.sql) =
        "CREATE TABLE sqlitedata (id INT);\n\n" := by
  decide +kernel

end SchemaAtlas.Sql
