import KeyTrace.Text.Runs

/-!
# Case maps

A case map sends a character to another one of the same letter. It is a list of shifts: every
`stride`-th code point from `first` to `last` moves by `delta`, and every other one stays.

## Main definitions

* `CaseShift`, `CaseMap`: the shifts of a map.
* `CaseMap.image`: where a character goes.
* `CaseMap.sources`: the characters that move to a given one.
* `CaseMap.imagesOf`, `CaseMap.sourcesOf`: where a set of code points goes, and what goes there.
-/

namespace KeyTrace

/-- Every `stride`-th code point from `first` to `last` moves by `delta`. -/
structure CaseShift where
  first : Nat
  last : Nat
  stride : Nat
  delta : Int
deriving Repr, DecidableEq

namespace CaseShift

/-- Whether the shift moves the code point `n`. -/
def moves (s : CaseShift) (n : Nat) : Bool :=
  s.first ≤ n && n ≤ s.last && (n - s.first) % s.stride == 0

/-- The code point `n` moved by the shift. -/
def apply (s : CaseShift) (n : Nat) : Nat := (Int.ofNat n + s.delta).toNat

/-- The code point that the shift moves to `n`, if there is one. -/
def source? (s : CaseShift) (n : Nat) : Option Nat :=
  let m := (Int.ofNat n - s.delta).toNat
  if s.moves m && s.apply m == n then some m else none

/-- The code points from `a` to `b` that the shift moves. -/
def within (s : CaseShift) (a b : Nat) : List Nat :=
  let start := s.first + (max a s.first - s.first + s.stride - 1) / s.stride * s.stride
  let stop := min b s.last
  if start ≤ stop then
    (List.range ((stop - start) / s.stride + 1)).map fun i => start + i * s.stride
  else []

end CaseShift

/-- A map of characters, given by its shifts. -/
abbrev CaseMap := List CaseShift

namespace CaseMap

/-- Where the map sends a character: the first shift that moves it decides. -/
def image (m : CaseMap) (c : Char) : Char :=
  match m.find? (fun s => s.moves c.toNat) with
  | some s => Char.ofNat (s.apply c.toNat)
  | none => c

/-- The characters other than `c` that the map sends to `c`. -/
def sources (m : CaseMap) (c : Char) : List Char :=
  m.filterMap fun s => (s.source? c.toNat).map Char.ofNat

/-- The code points that the map sends some code points of the set to. -/
def imagesOf (m : CaseMap) (r : Runs) : List Nat :=
  m.flatMap fun s => r.flatMap fun p => (s.within p.1 p.2).map s.apply

/-- The code points that the map sends into the set. -/
def sourcesOf (m : CaseMap) (r : Runs) : List Nat :=
  m.flatMap fun s => r.flatMap fun p =>
    s.within (Int.ofNat p.1 - s.delta).toNat (Int.ofNat p.2 - s.delta).toNat

end CaseMap

end KeyTrace
