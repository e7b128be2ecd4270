import SchemaAtlas.Proofs.Terminal.Styles

/-! # Markings

What closing a tag does to the marking of a text. Tags stand in brackets, so a text without an
opening one has no styles.
-/
namespace SchemaAtlas.Terminal

theorem Marking.close_eq_ok {m m' : Marking} {name tag : List Char} :
    m.close name tag = .ok m' ↔ ∃ i found, m.place? name = .ok (some i) ∧
      m.opened[i]? = some found ∧
      (found.isAction && !isReadable (found.parameters?.getD [])) = false ∧
      ⟨m.chars, found.closedAt m.chars.length :: m.closed, m.opened.eraseIdx i⟩ = m' := by
  unfold close
  rw [bind_eq_ok]
  constructor
  · rintro ⟨place, hplace, h⟩
    cases place with
    | none => cases h
    | some i =>
      dsimp only at h
      cases hfound : m.opened[i]? with
      | none =>
        rw [hfound] at h
        cases h
      | some found =>
        rw [hfound] at h
        dsimp only at h
        cases hbad : found.isAction && !isReadable (found.parameters?.getD []) with
        | true =>
          rw [hbad] at h
          cases h
        | false =>
          rw [hbad] at h
          exact ⟨i, found, hplace, hfound, hbad, Except.ok.inj h⟩
  · rintro ⟨i, found, hplace, hfound, hgood, rfl⟩
    refine ⟨some i, hplace, ?_⟩
    dsimp only
    rw [hfound]
    dsimp only
    rw [hgood]
    rfl

theorem isPlain_of_mem_piecesFrom {s : List Char} (h : '[' ∉ s) (read : List Char)
    (slashes passed : Nat) : ∀ p ∈ piecesFrom read slashes passed s, ∃ t, p = .plain t := by
  have hplain : ∀ t, ∀ p ∈ plainPiece t, ∃ u, p = .plain u := by
    intro t p hp
    unfold plainPiece at hp
    split at hp
    · simp at hp
    · exact ⟨t, List.mem_singleton.mp hp⟩
  induction s generalizing read slashes passed with
  | nil =>
    rw [piecesFrom]
    exact hplain _
  | cons c rest ih =>
    obtain ⟨hc, hrest⟩ := not_or.mp (mt List.mem_cons.mpr h)
    cases passed with
    | succ passed => exact ih hrest read slashes passed
    | zero =>
      rw [piecesFrom]
      split
      · exact ih hrest _ _ _
      · rw [if_pos (Ne.symm hc)]
        exact ih hrest _ _ _

theorem foldlM_step_plain {pieces : List Piece} (h : ∀ p ∈ pieces, ∃ t, p = .plain t)
    (m : Marking) : ∃ chars, pieces.foldlM Marking.step m = .ok { m with chars } := by
  induction pieces generalizing m with
  | nil => exact ⟨m.chars, rfl⟩
  | cons p pieces ih =>
    obtain ⟨t, rfl⟩ := h p List.mem_cons_self
    obtain ⟨chars, hfold⟩ := ih (fun q hq => h q (List.mem_cons_of_mem _ hq))
      { m with chars := m.chars ++ plainText t }
    refine ⟨chars, ?_⟩
    rw [List.foldlM_cons, Marking.step, ok_bind, hfold]

theorem marked_of_not_mem {s : List Char} (h : '[' ∉ s) :
    ∃ l, marked s = .ok l ∧ l.StyledBy fun _ => False := by
  obtain ⟨chars, hfold⟩ := foldlM_step_plain (isPlain_of_mem_piecesFrom h [] 0 0) {}
  have hmarked : marked s = .ok (Marking.line { chars }) := by
    rw [marked, markupPieces, hfold, ok_bind]
    rfl
  exact ⟨_, hmarked, by simp [Line.StyledBy, Marking.line]⟩

end SchemaAtlas.Terminal
