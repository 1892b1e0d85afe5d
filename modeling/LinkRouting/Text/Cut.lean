namespace LinkRouting.Text

/-- The text before the first `mark`, and the text behind it if there is one. -/
def cut (mark : Char) : List Char → List Char × Option (List Char)
  | [] => ([], none)
  | c :: rest =>
      if c = mark then ([], some rest)
      else
        let halves := cut mark rest
        (c :: halves.1, halves.2)

/-- The two halves and the mark between them are the text. -/
theorem cut_some {mark : Char} {text before behind : List Char}
    (halves : cut mark text = (before, some behind)) : text = before ++ mark :: behind := by
  induction text generalizing before with
  | nil => simp [cut] at halves
  | cons c rest ih =>
      simp only [cut] at halves
      split at halves
      · rename_i same
        cases halves
        simp [same]
      · cases found : cut mark rest with
        | mk first second =>
            simp only [found, Prod.mk.injEq] at halves
            obtain ⟨rfl, rfl⟩ := halves
            simp [ih found]

theorem cut_none {mark : Char} {text before : List Char}
    (whole : cut mark text = (before, none)) : text = before ∧ mark ∉ text := by
  induction text generalizing before with
  | nil => simpa [cut, eq_comm] using whole
  | cons c rest ih =>
      simp only [cut] at whole
      split at whole
      · simp at whole
      · rename_i different
        cases found : cut mark rest with
        | mk first second =>
            simp only [found, Prod.mk.injEq] at whole
            obtain ⟨rfl, rfl⟩ := whole
            obtain ⟨same, absent⟩ := ih found
            exact ⟨by rw [← same], by simp [Ne.symm different, absent]⟩

theorem cut_of_not_mem {mark : Char} {text : List Char} (absent : mark ∉ text) :
    cut mark text = (text, none) := by
  cases halves : cut mark text with
  | mk before behind =>
      cases behind with
      | none => rw [(cut_none halves).1]
      | some behind =>
          refine absurd ?_ absent
          rw [cut_some halves]
          simp

/-- The text is cut at the first mark, so that the text before it must hold none. -/
theorem cut_append {mark : Char} {before : List Char} (absent : mark ∉ before)
    (behind : List Char) : cut mark (before ++ mark :: behind) = (before, some behind) := by
  induction before with
  | nil => simp [cut]
  | cons c rest ih =>
      have different : c ≠ mark := fun same => absent (same ▸ List.mem_cons_self)
      have later : mark ∉ rest := fun member => absent (List.mem_cons_of_mem c member)
      rw [List.cons_append, cut, if_neg different, ih later]

end LinkRouting.Text
