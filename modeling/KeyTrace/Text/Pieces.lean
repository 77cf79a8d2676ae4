/-!
# Pieces between separators

A text is cut at every separator; two separators in a row have an empty piece between them, and a
text without separators is one piece.

## Main definitions

* `Pieces.cut`: the pieces of a list between the elements that satisfy a test.
* `Pieces.cutFirst`: what stands before and after the first such element.
-/

namespace KeyTrace

namespace Pieces

variable {α : Type}

/-- Puts an element in front of the first piece. -/
def push (a : α) : List (List α) → List (List α)
  | [] => [[a]]
  | p :: rest => (a :: p) :: rest

/-- The pieces between the elements that satisfy `sep`. -/
def cut (sep : α → Bool) : List α → List (List α)
  | [] => [[]]
  | a :: rest => if sep a then [] :: cut sep rest else push a (cut sep rest)

/-- What stands before and after the first element that satisfies `sep`, if there is one. -/
def cutFirst (sep : α → Bool) : List α → Option (List α × List α)
  | [] => none
  | a :: rest =>
    if sep a then some ([], rest) else (cutFirst sep rest).map fun p => (a :: p.1, p.2)

end Pieces

end KeyTrace
