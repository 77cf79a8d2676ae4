/-!
# Runs of code points

A set of characters is a list of runs: pairs `(first, last)` of code points, in ascending order and
apart from each other. Membership is one pass that stops as soon as the runs are past the
character, so common characters are decided by the first few runs. The sets are closed under
union, intersection, difference and complement; the code points of the surrogates, which no
character has, are stepped over.

Properties that only named classes of a pattern need are kept packed as text: each run is written
as the gap from the end of the run before it, followed by `+` and the number of further characters
when there are any, all in hexadecimal.

## Main definitions

* `Runs`: the runs of a set; `Runs.has`: membership.
* `Runs.join`, `Runs.ofPairs`: runs in any order, brought into order and put together.
* `Runs.union`, `Runs.inter`, `Runs.diff`, `Runs.compl`: the algebra of sets.
* `Runs.unpack`: the runs that a packed text stands for.
-/

namespace KeyTrace

/-- Runs of code points, ascending and apart. -/
abbrev Runs := List (Nat × Nat)

namespace Runs

/-- Membership of a code point; the runs after it are not looked at. -/
def hasCode : Runs → Nat → Bool
  | [], _ => false
  | (a, b) :: rest, n => if n < a then false else if n ≤ b then true else hasCode rest n

/-- Whether a character lies in one of the runs. -/
def has (runs : Runs) (c : Char) : Bool := hasCode runs c.toNat

/-- The set of one character. -/
def single (c : Char) : Runs := [(c.toNat, c.toNat)]

/-- The character of a set that has one member only. -/
def single? : Runs → Option Char
  | [(a, b)] => if a == b then some (Char.ofNat a) else none
  | _ => none

/-- The set of all characters. -/
def full : Runs := [(0, 0x10ffff)]

theorem has_single (a c : Char) : (single a).has c = decide (c = a) := by
  have h : c.toNat = a.toNat ↔ c = a := Char.toNat_inj
  simp only [has, single, hasCode]
  by_cases hc : c = a
  · simp [hc]
  · have : c.toNat ≠ a.toNat := fun e => hc (h.1 e)
    grind

/-! ### Neighbours -/

/-- The code point of the next character. -/
def after (n : Nat) : Nat := if n == 0xd7ff then 0xe000 else n + 1

/-- The code point of the character before. -/
def before (n : Nat) : Nat := if n == 0xe000 then 0xd7ff else n - 1

/-! ### Putting runs together -/

/-- Puts runs together that overlap or follow each other, given in ascending order of their
beginnings; `(a, b)` is the run before them. -/
def joinFrom (a b : Nat) : Runs → Runs
  | [] => [(a, b)]
  | (c, d) :: rest =>
    if c ≤ b + 1 then joinFrom a (max b d) rest else (a, b) :: joinFrom c d rest

/-- Puts runs together that overlap or follow each other, given in ascending order. -/
def join : Runs → Runs
  | [] => []
  | (a, b) :: rest => joinFrom a b rest

/-- The order of runs: by beginning, then by end. -/
def le (p q : Nat × Nat) : Bool := p.1 < q.1 || (p.1 == q.1 && p.2 ≤ q.2)

/-- The set of some runs in any order. -/
def ofPairs (pairs : List (Nat × Nat)) : Runs := join (pairs.mergeSort le)

/-- The set of some code points. -/
def ofCodes (codes : List Nat) : Runs := ofPairs (codes.map fun n => (n, n))

/-- The set of some characters. -/
def ofChars (cs : List Char) : Runs := ofCodes (cs.map Char.toNat)

/-! ### Algebra -/

/-- The characters of either set. -/
def union (r s : Runs) : Runs := join (List.merge r s le)

/-- The characters of any of several sets. -/
def unions (sets : List Runs) : Runs := ofPairs sets.flatten

/-- The characters of both sets. -/
def inter : Runs → Runs → Runs
  | [], _ => []
  | _ :: _, [] => []
  | (a, b) :: r, (c, d) :: s =>
    let rest := if b < d then inter r ((c, d) :: s) else inter ((a, b) :: r) s
    if max a c ≤ min b d then (max a c, min b d) :: rest else rest
termination_by r s => r.length + s.length

/-- What is left of the run from `a` to `b` outside a set. -/
def outside (a b : Nat) : Runs → Runs
  | [] => [(a, b)]
  | (c, d) :: rest =>
    if b < c then [(a, b)]
    else if d < a then outside a b rest
    else
      (if a < c then [(a, before c)] else []) ++
        (if d < b then outside (after d) b rest else [])

/-- The characters of the first set that are not in the second. -/
def diff (r s : Runs) : Runs := r.flatMap fun p => outside p.1 p.2 s

/-- The characters of exactly one of two sets. -/
def symmDiff (r s : Runs) : Runs := diff (union r s) (inter r s)

/-- The gaps after a run that ends at `b`. The gap between two runs that only the surrogates keep
apart holds their two facing ends. -/
def gaps (b : Nat) : Runs → Runs
  | [] => if b < 0x10ffff then [(after b, 0x10ffff)] else []
  | (c, d) :: rest => (min (after b) (before c), max (after b) (before c)) :: gaps d rest

/-- The characters outside the set. -/
def compl : Runs → Runs
  | [] => full
  | (a, b) :: rest => (if 0 < a then [(0, before a)] else []) ++ gaps b rest

/-- How many code points the set has. -/
def count (r : Runs) : Nat := r.foldl (fun n p => n + (p.2 + 1 - p.1)) 0

/-- The code points of the set, in order. -/
def codes (r : Runs) : List Nat :=
  r.flatMap fun p => (List.range (p.2 + 1 - p.1)).map fun i => p.1 + i

/-! ### Packed runs -/

/-- The value of a hexadecimal digit in lower case; other characters count as zero. -/
def digitValue (c : Char) : Nat :=
  if '0' ≤ c && c ≤ '9' then c.toNat - 48 else if 'a' ≤ c && c ≤ 'f' then c.toNat - 87 else 0

/-- Reads packed runs. `pos` is the first code point after the last run, `gap` the number read so
far, and `extra` the second number of the run once its `+` has been seen. -/
def unpackFrom (pos gap : Nat) (extra : Option Nat) : List Char → Runs
  | [] => [(pos + gap, pos + gap + extra.getD 0)]
  | c :: rest =>
    if c == ' ' then
      (pos + gap, pos + gap + extra.getD 0) :: unpackFrom (pos + gap + extra.getD 0 + 1) 0 none rest
    else if c == '+' then unpackFrom pos gap (some 0) rest
    else match extra with
      | none => unpackFrom pos (16 * gap + digitValue c) none rest
      | some e => unpackFrom pos gap (some (16 * e + digitValue c)) rest

/-- The runs a packed text stands for; the text is given in lines. -/
def unpack (lines : List String) : Runs := unpackFrom 0 0 none (" ".intercalate lines).toList

end Runs

/-- Sets that are looked up by name: each row has the names (in lower case, without separators) and
the packed runs. -/
abbrev RunTable := List (List String × List String)

namespace RunTable

/-- The set of the given name. -/
def runs? (table : RunTable) (name : String) : Option Runs :=
  (table.find? fun row => row.1.contains name).map fun row => Runs.unpack row.2

end RunTable

end KeyTrace
