/-!
# Progress

A scan goes through states and counts the units of work it has done: one for each file indexed, and
one for each entry matched.

## Main definitions

* `ScanState`: the states of a scan.
* `Progress`, `Progress.start`, `Progress.visit`, `Progress.advance`: the state and the count.
* `Progress.percent`: how much is done.
-/

namespace KeyTrace

/-- The state of a scan. -/
inductive ScanState where
  | idle
  | indexing
  | matching
  | cancelled
deriving Repr, DecidableEq

/-- Whether a scan in this state is at work. -/
def ScanState.isActive : ScanState → Bool
  | indexing => true
  | matching => true
  | _ => false

/-- How far a scan has come. -/
structure Progress where
  visited : Nat
  total : Nat
  state : ScanState
deriving Repr, DecidableEq

namespace Progress

/-- A scan that has not begun, with the given number of units of work. -/
def start (total : Nat) : Progress := ⟨0, total, .idle⟩

/-- One more unit done. -/
def visit (p : Progress) : Progress := { p with visited := p.visited + 1 }

/-- Whether the scan may go on to a state: a cancelled one can only become idle. -/
def mayAdvance (p : Progress) (next : ScanState) : Bool :=
  !(p.state == .cancelled && next != .idle)

/-- Goes on to a state, if that is allowed. -/
def advance (p : Progress) (next : ScanState) : Progress :=
  if p.mayAdvance next then { p with state := next } else p

@[simp] theorem advance_total (p : Progress) (next : ScanState) :
    (p.advance next).total = p.total := by
  rw [advance]
  split <;> rfl

@[simp] theorem advance_visited (p : Progress) (next : ScanState) :
    (p.advance next).visited = p.visited := by
  rw [advance]
  split <;> rfl

/-- How much is done, in percent. While the scan is at work it is at least one, so that a scan that
has begun never looks idle; otherwise it is zero. -/
def percent (p : Progress) : Nat :=
  if !p.state.isActive || p.total == 0 then 0 else max 1 (min 100 (100 * p.visited / p.total))

end Progress

end KeyTrace
