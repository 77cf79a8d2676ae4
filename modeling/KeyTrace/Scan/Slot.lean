import KeyTrace.Rule.LineMatcher
import KeyTrace.Source

/-!
# Reference slots

Each resource entry has a slot with the references to it that were found last. Scans are numbered;
a scan marks the slots of its entries when it begins and publishes a whole list into each. A slot
that a later scan has marked or published into refuses what an earlier scan does.

## Main definitions

* `Reference`: one confirmed use of a key.
* `Slot`, `Slot.fresh`: the published list of an entry.
* `Slot.mark`, `Slot.publish`: what scans do to it.
-/

namespace KeyTrace

/-- One confirmed use of a key. -/
structure Reference where
  file : SourceFile
  /-- Counted from one. -/
  lineNumber : Nat
  segments : Segments
deriving Repr, DecidableEq

/-- The references of one entry. -/
structure Slot where
  /-- The latest scan that marked the slot or published into it. -/
  generation : Nat
  /-- Whether that scan has marked the slot and not published yet. -/
  pending : Bool
  /-- The list published last, if there was one. -/
  references : Option (List Reference)
deriving Repr, DecidableEq

namespace Slot

/-- The slot of an entry that no scan has reached. -/
def fresh : Slot := ⟨0, false, none⟩

/-- Whether some list has been published. -/
def isScanned (s : Slot) : Bool := s.references.isSome

/-- Claims the slot for a scan. The list stays as it is. -/
def mark (s : Slot) (generation : Nat) : Slot :=
  if s.generation ≤ generation then ⟨generation, true, s.references⟩ else s

/-- Whether the slot takes what a scan publishes. -/
def accepts (s : Slot) (generation : Nat) : Bool := decide (s.generation ≤ generation)

/-- Replaces the list, unless a later scan has claimed the slot. -/
def publish (s : Slot) (generation : Nat) (references : List Reference) : Slot :=
  if s.accepts generation then ⟨generation, false, some references⟩ else s

end Slot

end KeyTrace
