namespace LinkRouting.Text

variable {mark c : Char} {text piece : List Char}

theorem not_mem_of_mem_splitOn (member : piece ∈ text.splitOn mark) : mark ∉ piece := by
  induction text generalizing piece with
  | nil =>
      rw [List.splitOn_nil, List.mem_singleton] at member
      simp [member]
  | cons c rest ih =>
      rw [List.splitOn_cons_eq_if_modifyHead] at member
      split at member
      · rcases List.mem_cons.mp member with rfl | later
        · exact List.not_mem_nil
        · exact ih later
      · rename_i different
        obtain ⟨first, others, pieces⟩ := List.exists_cons_of_ne_nil (List.splitOn_ne_nil mark rest)
        rw [pieces] at ih
        rw [pieces, List.modifyHead_cons] at member
        rcases List.mem_cons.mp member with rfl | later
        · have firstFree := ih List.mem_cons_self
          simp only [List.mem_cons, not_or]
          exact ⟨fun same => different (by simp [same]), firstFree⟩
        · exact ih (List.mem_cons_of_mem first later)

theorem flatMap_splitOn (mark : Char) (text : List Char) :
    (text.splitOn mark).flatMap (mark :: ·) = mark :: text := by
  induction text with
  | nil => rfl
  | cons c rest ih =>
      obtain ⟨first, others, pieces⟩ := List.exists_cons_of_ne_nil (List.splitOn_ne_nil mark rest)
      rw [pieces] at ih
      rw [List.splitOn_cons_eq_if_modifyHead, pieces]
      split
      · rename_i same
        rw [List.flatMap_cons, ih, eq_of_beq same, List.singleton_append]
      · rw [List.flatMap_cons, List.cons_append, List.cons.injEq] at ih
        rw [List.modifyHead_cons, List.flatMap_cons, List.cons_append, List.cons_append, ih.2]

theorem mem_of_mem_splitOn (member : piece ∈ text.splitOn mark) (inside : c ∈ piece) :
    c ∈ mark :: text := by
  rw [← flatMap_splitOn]
  exact List.mem_flatMap.mpr ⟨piece, member, List.mem_cons_of_mem mark inside⟩

theorem head?_of_head?_splitOn (empty : (text.splitOn mark).head? = some []) :
    text = [] ∨ text.head? = some mark := by
  obtain ⟨others, pieces⟩ := List.head?_eq_some_iff.mp empty
  have whole := flatMap_splitOn mark text
  rw [pieces, List.flatMap_cons, List.singleton_append, List.cons.injEq] at whole
  cases others with
  | nil => exact .inl whole.2.symm
  | cons piece rest =>
      rw [← whole.2]
      exact .inr rfl

theorem getLast?_of_getLast?_splitOn (empty : (text.splitOn mark).getLast? = some []) :
    text = [] ∨ text.getLast? = some mark := by
  obtain ⟨front, pieces⟩ := List.getLast?_eq_some_iff.mp empty
  have whole := flatMap_splitOn mark text
  rw [pieces, List.flatMap_append, List.flatMap_singleton] at whole
  cases front with
  | nil => exact .inl (List.cons.inj whole).2.symm
  | cons piece rest =>
      rw [List.flatMap_cons, List.cons_append, List.cons_append, List.cons.injEq] at whole
      rw [← whole.2]
      exact .inr List.getLast?_concat

end LinkRouting.Text
