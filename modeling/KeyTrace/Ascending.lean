/-!
# Ascending lists

A finite set or a sorted sequence is kept as a list in strictly ascending order, so that two equal
sets are equal lists. The order is given by a comparison; elements that compare equal count as one,
and the one that comes first in the input stays.

## Main definitions

* `Ascending.insert`, `Ascending.ofList`: sorted lists without repetition.
* `compareList`: the order of lists by their first difference.
* `compareText`, `compareBytes`: the order of texts and of byte strings.
-/

namespace KeyTrace

/-- The order of two lists by the first place where they differ; a beginning of a list comes before
the list. -/
def compareList {α : Type} (cmp : α → α → Ordering) : List α → List α → Ordering
  | [], [] => .eq
  | [], _ :: _ => .lt
  | _ :: _, [] => .gt
  | a :: s, b :: t => (cmp a b).then (compareList cmp s t)

/-- The order of texts by the code points of their characters. -/
def compareText (a b : String) : Ordering := compareOfLessAndEq a b

/-- The order of byte strings. -/
def compareBytes (a b : List UInt8) : Ordering := compareList Ord.compare a b

namespace Ascending

variable {α : Type}

/-- Puts an element in front of the first one that is greater; an equal one in the list gives way
to it. -/
def insert (cmp : α → α → Ordering) (a : α) : List α → List α
  | [] => [a]
  | b :: rest =>
    match cmp a b with
    | .lt => a :: b :: rest
    | .eq => a :: rest
    | .gt => b :: insert cmp a rest

/-- The elements of a list in ascending order, equal ones once. -/
def ofList (cmp : α → α → Ordering) (s : List α) : List α := s.foldr (insert cmp) []

/-- The distinct texts of a list in ascending order. -/
def texts (s : List String) : List String := ofList compareText s

end Ascending

end KeyTrace
