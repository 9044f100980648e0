set_option autoImplicit false

namespace RegisterMachine.Text

def consFirst (c : Char) : List (List Char) → List (List Char)
  | [] => [[c]]
  | line :: later => (c :: line) :: later

def lines : List Char → List (List Char)
  | [] => []
  | '\n' :: rest => [] :: lines rest
  -- Only one carriage return belongs to the end of a line.
  | '\r' :: '\n' :: rest => [] :: lines rest
  | c :: rest => consFirst c (lines rest)

@[simp] theorem lines_nil : lines [] = [] := by
  simp [lines]

@[simp] theorem lines_feed (rest : List Char) : lines ('\n' :: rest) = [] :: lines rest := by
  simp [lines]

@[simp] theorem lines_return_feed (rest : List Char) :
    lines ('\r' :: '\n' :: rest) = [] :: lines rest := by
  simp [lines]

end RegisterMachine.Text
