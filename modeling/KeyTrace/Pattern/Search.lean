import KeyTrace.Pattern.Program

/-!
# Searching

A program is run by trying its choices in order and going back to the last one that is left when a
try fails. The threads that are still to be tried are kept in a list, first one first; when none is
left the next start is tried, leftmost first. An instruction that has been reached at a position
once is never tried there again: what follows does not depend on how it was reached, so it would
fail again. A search therefore ends after at most one step per instruction and position.

## Main definitions

* `Thread`, `Program.advance`: a try, and what one instruction makes of it.
* `Marks`: the instructions and positions that have been tried.
* `Program.run`: trying threads in order.
* `Program.search`: the first match at or after a position.
* `Program.searchAll`: all matches from left to right that do not overlap.
* `Slots`, `Span`: the positions that groups note, and where a group lies.
-/

namespace KeyTrace

/-- Positions noted in slots, the latest first. Slots `2 * i` and `2 * i + 1` hold the start and
the end of group `i`. -/
abbrev Slots := List (Nat × Nat)

/-- A span of positions, the end excluded. -/
structure Span where
  start : Nat
  stop : Nat
deriving Repr, DecidableEq

namespace Slots

/-- The position last noted in a slot. -/
def get? (s : Slots) (slot : Nat) : Option Nat := s.lookup slot

/-- The span of a group, if it took part in the match. -/
def group? (s : Slots) (i : Nat) : Option Span :=
  match s.get? (2 * i), s.get? (2 * i + 1) with
  | some a, some b => some ⟨a, b⟩
  | _, _ => none

end Slots

/-- A try: the instruction that comes next, the position in the text, and the slots so far. -/
structure Thread where
  pc : Nat
  pos : Nat
  slots : Slots
deriving Repr

/-- A set of numbers: a mark at each of them. It has room up to the largest one. -/
abbrev Marks := Array Bool

namespace Marks

/-- Whether a number is marked. -/
def has (m : Marks) (i : Nat) : Bool := m.getD i false

/-- Marks a number, for which room is made if need be. -/
def add (m : Marks) (i : Nat) : Marks :=
  if i < m.size then m.setIfInBounds i true
  else (m ++ Array.replicate (i - m.size) false).push true

end Marks

namespace Program

/-- What an instruction makes of a thread: the threads to try next, in order, or the match. -/
inductive Progress where
  | matched
  | goOn (threads : List Thread)
deriving Repr

/-- Runs one instruction of a thread. -/
def advance (p : Program) (text : Array Char) (t : Thread) : Progress :=
  match p[t.pc]? with
  | none => .goOn []
  | some .accept => .matched
  | some (.set k next) =>
    match text[t.pos]? with
    | some c => if k.mem c then .goOn [⟨next, t.pos + 1, t.slots⟩] else .goOn []
    | none => .goOn []
  | some (.look l next) =>
    let before := if t.pos = 0 then none else text[t.pos - 1]?
    if l.holds before text[t.pos]? then .goOn [⟨next, t.pos, t.slots⟩] else .goOn []
  | some (.save slot next) => .goOn [⟨next, t.pos, (slot, t.pos) :: t.slots⟩]
  | some (.jump next) => .goOn [⟨next, t.pos, t.slots⟩]
  | some (.split a b) => .goOn [⟨a, t.pos, t.slots⟩, ⟨b, t.pos, t.slots⟩]

/-- Tries threads in order, none twice at the same instruction and position, and then those from
position `start` on, and returns the slots of the first one that matches. `seen` holds a mark for
each instruction and position from `origin` on that has been tried. -/
def run (p : Program) (text : Array Char) (origin : Nat) :
    Nat → List Thread → Nat → Marks → Option Slots
  | 0, _, _, _ => none
  | fuel + 1, [], start, seen =>
    if text.size < start then none else run p text origin fuel [⟨0, start, []⟩] (start + 1) seen
  | fuel + 1, t :: rest, start, seen =>
    let mark := (t.pos - origin) * p.size + t.pc
    if seen.has mark then run p text origin fuel rest start seen
    else
      match advance p text t with
      | .matched => some t.slots
      | .goOn next => run p text origin fuel (next ++ rest) start (seen.add mark)

/-- The first match that starts at position `origin` or later. -/
def search (p : Program) (text : Array Char) (origin : Nat) : Option Slots :=
  let places := text.size + 1 - origin
  run p text origin (2 * (places * p.size) + 2 * places + 1) [] origin #[]

/-- All matches from position `origin` on, from left to right. A match starts where the one before
it ends at the earliest; an empty one that would touch it is looked for one position later. -/
def searchFrom (p : Program) (text : Array Char) : Nat → Nat → Option Nat → List Slots
  | 0, _, _ => []
  | fuel + 1, origin, last =>
    match search p text origin with
    | none => []
    | some slots =>
      match slots.group? 0 with
      | none => []
      | some span =>
        if span.start = span.stop && last = some span.stop then
          match search p text (origin + 1) with
          | none => []
          | some slots =>
            match slots.group? 0 with
            | none => []
            | some span => slots :: searchFrom p text fuel span.stop (some span.stop)
        else slots :: searchFrom p text fuel span.stop (some span.stop)

/-- All matches in the text, from left to right. -/
def searchAll (p : Program) (text : Array Char) : List Slots :=
  searchFrom p text (text.size + 2) 0 none

end Program

end KeyTrace
