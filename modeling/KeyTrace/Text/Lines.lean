/-!
# Lines

A text is cut after each line feed, each carriage return and each pair of the two. What follows
the last terminator is a line only if it is not empty.

## Main definitions

* `Lines.split`: the lines of a text, without their terminators.
-/

namespace KeyTrace

namespace Lines

/-- Puts a character in front of the first line, which begins with it if there is none yet. -/
def push (c : Char) : List (List Char) → List (List Char)
  | [] => [[c]]
  | l :: rest => (c :: l) :: rest

/-- The lines of a text. -/
def split : List Char → List (List Char)
  | [] => []
  | '\r' :: '\n' :: rest => [] :: split rest
  | c :: rest => if c == '\r' || c == '\n' then [] :: split rest else push c (split rest)

@[simp] theorem split_nil : split [] = [] := rfl

@[simp] theorem push_ne_nil (c : Char) (ls : List (List Char)) : push c ls ≠ [] := by
  cases ls <;> simp [push]

end Lines

end KeyTrace
