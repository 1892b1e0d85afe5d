namespace LinkRouting.Text

def byteSize (text : List Char) : Nat :=
  text.foldl (fun size c => size + c.utf8Size) 0

/-- What is left of a text without its first `size` bytes. -/
def dropBytes? (size : Nat) : List Char → Option (List Char)
  | [] => if size = 0 then some [] else none
  | c :: rest =>
      if size = 0 then some (c :: rest)
      else if c.utf8Size ≤ size then dropBytes? (size - c.utf8Size) rest
      else none

/-- The first `size` bytes of a text. -/
def takeBytes? (size : Nat) : List Char → Option (List Char)
  | [] => if size = 0 then some [] else none
  | c :: rest =>
      if size = 0 then some []
      else if c.utf8Size ≤ size then (takeBytes? (size - c.utf8Size) rest).map (c :: ·)
      else none

/-- The part of a text between two counts of bytes, of which none may end inside a character. -/
def slice? (text : List Char) (start stop : Nat) : Option (List Char) :=
  (dropBytes? start text).bind (takeBytes? (stop - start))

end LinkRouting.Text
