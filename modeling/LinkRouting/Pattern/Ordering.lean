namespace LinkRouting.Pattern

/-! The orderings of a list are all its selections in all their arrangements.  Longer ones come
first; those of one length go by the positions selected, and those of one selection by the
positions in their order, both lexicographically.

Both are found by trying.  An item is put behind a draft, all that can follow it is tried, and the
item is taken off again.
-/

/-- The selection or arrangement under way, and those that are finished. -/
structure Draft (α : Type u) where
  current : List α := []
  finished : List (List α) := []

namespace Draft

def push (draft : Draft α) (a : α) : Draft α :=
  { draft with current := draft.current ++ [a] }

def pop (draft : Draft α) : Draft α :=
  { draft with current := draft.current.dropLast }

def finish (draft : Draft α) : Draft α :=
  { draft with finished := draft.finished ++ [draft.current] }

end Draft

/-- Finishes the draft with every choice of `lacking` items behind it, in the order of the list. -/
def combinations : (lacking : Nat) → List α → Draft α → Draft α
  | 0, _, draft => draft.finish
  | _ + 1, [], draft => draft
  | lacking + 1, a :: rest, draft =>
      combinations (lacking + 1) rest (combinations lacking rest (draft.push a)).pop

/-- A draft with a flag for each position whose item it holds. -/
structure Arranging (α : Type u) (count : Nat) extends Draft α where
  used : Vector Bool count := .replicate count false

namespace Arranging

variable {count : Nat}

def take (draft : Arranging α count) (position : Fin count) (a : α) : Arranging α count :=
  { draft.toDraft.push a with used := draft.used.set position true position.isLt }

def release (draft : Arranging α count) (position : Fin count) : Arranging α count :=
  { draft.toDraft.pop with used := draft.used.set position false position.isLt }

/-- Goes on with the item of a position, unless it is in use, and takes it back. -/
def attempt (draft : Arranging α count) (go : Arranging α count → Arranging α count)
    (position : Fin count) (a : α) : Arranging α count :=
  if draft.used.get position then draft else (go (draft.take position a)).release position

end Arranging

/-- Finishes the draft with `lacking` of the items that it does not hold behind it, in every
order. -/
def permutations (items : List α) :
    (lacking : Nat) → Arranging α items.length → Arranging α items.length
  | 0, draft => { draft with toDraft := draft.finish }
  | lacking + 1, draft =>
      (List.finRange items.length).foldl (fun draft position =>
        draft.attempt (permutations items lacking) position (items.get position)) draft

/-- All orderings, from those of every item down to the empty one. -/
def orderings (items : List α) : List (List α) :=
  (List.range (items.length + 1)).reverse.foldl (fun finished size =>
    (combinations size items {}).finished.foldl (fun finished chosen =>
      (permutations chosen chosen.length { finished }).finished) finished) []

end LinkRouting.Pattern
