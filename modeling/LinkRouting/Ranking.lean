namespace LinkRouting

/-- Puts `a` behind every element whose key is at least its own. -/
def insertDescending (key : α → Nat) (a : α) : List α → List α
  | [] => [a]
  | b :: rest =>
      if key b < key a then a :: b :: rest else b :: insertDescending key a rest

/-- The stable sort of `items` by descending key. -/
def sortDescending (key : α → Nat) (items : List α) : List α :=
  items.foldl (fun sorted a => insertDescending key a sorted) []

theorem insertDescending_perm (key : α → Nat) (a : α) (items : List α) :
    (insertDescending key a items).Perm (a :: items) := by
  induction items with
  | nil => exact .refl _
  | cons b rest ih =>
      simp only [insertDescending]
      split
      · exact .refl _
      · exact (ih.cons b).trans (.swap a b rest)

end LinkRouting
