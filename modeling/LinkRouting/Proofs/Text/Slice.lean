import LinkRouting.Text.Slice

namespace LinkRouting.Text

variable {c : Char} {text before behind : List Char}

theorem foldl_utf8Size (size : Nat) (text : List Char) :
    text.foldl (fun size c => size + c.utf8Size) size = size + byteSize text := by
  unfold byteSize
  induction text generalizing size with
  | nil => rfl
  | cons c rest ih =>
      rw [List.foldl_cons, List.foldl_cons, ih, ih (0 + c.utf8Size)]
      omega

theorem byteSize_cons (c : Char) (rest : List Char) :
    byteSize (c :: rest) = c.utf8Size + byteSize rest := by
  rw [byteSize, List.foldl_cons, foldl_utf8Size, Nat.zero_add]

theorem byteSize_append (before behind : List Char) :
    byteSize (before ++ behind) = byteSize before + byteSize behind := by
  rw [byteSize, List.foldl_append, foldl_utf8Size, ← byteSize]

theorem dropBytes?_zero (text : List Char) : dropBytes? 0 text = some text := by
  cases text <;> rfl

theorem takeBytes?_zero (text : List Char) : takeBytes? 0 text = some [] := by
  cases text <;> rfl

theorem dropBytes?_byteSize (before behind : List Char) :
    dropBytes? (byteSize before) (before ++ behind) = some behind := by
  induction before with
  | nil => exact dropBytes?_zero behind
  | cons c rest ih =>
      have positive : c.utf8Size + byteSize rest ≠ 0 := by
        have := c.utf8Size_pos
        omega
      rw [byteSize_cons, List.cons_append, dropBytes?, if_neg positive,
        if_pos (Nat.le_add_right _ _), Nat.add_sub_cancel_left, ih]

theorem takeBytes?_byteSize (before behind : List Char) :
    takeBytes? (byteSize before) (before ++ behind) = some before := by
  induction before with
  | nil => exact takeBytes?_zero behind
  | cons c rest ih =>
      have positive : c.utf8Size + byteSize rest ≠ 0 := by
        have := c.utf8Size_pos
        omega
      rw [byteSize_cons, List.cons_append, takeBytes?, if_neg positive,
        if_pos (Nat.le_add_right _ _), Nat.add_sub_cancel_left, ih, Option.map_some]

/-- A part of a text is what stands between the byte at which it starts and the one at which it
ends. -/
theorem slice?_append (before part behind : List Char) :
    slice? (before ++ part ++ behind) (byteSize before) (byteSize (before ++ part)) =
      some part := by
  rw [slice?, List.append_assoc, dropBytes?_byteSize, Option.bind_some, byteSize_append,
    Nat.add_sub_cancel_left, takeBytes?_byteSize]

end LinkRouting.Text
