import KeyTrace.Text.Runs

/-!
# Sets of characters as bytes

A text is kept as bytes, one to four for each character, and a program that reads bytes tests a
character byte by byte. A form is a list of byte ranges, one for each byte: it stands for the
characters whose bytes lie in the ranges. Every set of characters is a union of forms, and the
fewest forms come from cutting its runs where the number of bytes changes and where the leading
bytes differ while the trailing ones do not cover everything.

## Main definitions

* `ByteRange`, `ByteForm`: the values of one byte, and of all bytes of a character.
* `ByteForm.ofRuns`: the forms of a set of characters, in order.
* `ByteForm.groups`: forms gathered by their first range.
-/

namespace KeyTrace

/-- The values that one byte may have, from the first to the second. -/
abbrev ByteRange := Nat × Nat

/-- The values that the bytes of a character may have. -/
abbrev ByteForm := List ByteRange

namespace ByteForm

/-- The forms of the numbers from `lo` to `hi`, written in `trailing + 1` digits of six bits. The
first digit is added to `lead`, and every other one to the sign of a trailing byte. -/
def ofNumbers (lead : Nat) : Nat → Nat → Nat → List ByteForm
  | 0, lo, hi => [[(lead + lo, lead + hi)]]
  | trailing + 1, lo, hi =>
    let block := Nat.pow 64 (trailing + 1)
    let a := lo / block
    let b := hi / block
    let under := fun (digit lo hi : Nat) =>
      (ofNumbers 0x80 trailing lo hi).map fun form => (lead + digit, lead + digit) :: form
    if a == b then under a (lo % block) (hi % block)
    else
      let fromStart := lo % block == 0
      let toEnd := hi % block == block - 1
      let first := if fromStart then a else a + 1
      let last := if toEnd then b else b - 1
      (if fromStart then [] else under a (lo % block) (block - 1)) ++
        (if first ≤ last then
          [(lead + first, lead + last) :: List.replicate (trailing + 1) (0x80, 0xbf)]
        else []) ++
        (if toEnd then [] else under b 0 (hi % block))

/-- The runs of characters with the same number of bytes: first and last code point, the sign of a
leading byte, and the number of trailing ones. -/
def lengths : List (Nat × Nat × Nat × Nat) :=
  [(0x0, 0x7f, 0x00, 0), (0x80, 0x7ff, 0xc0, 1), (0x800, 0xd7ff, 0xe0, 2),
    (0xe000, 0xffff, 0xe0, 2), (0x10000, 0x10ffff, 0xf0, 3)]

/-- The forms of the characters from code point `lo` to `hi`. -/
def ofRun (lo hi : Nat) : List ByteForm :=
  lengths.flatMap fun (first, last, lead, trailing) =>
    if max lo first ≤ min hi last then ofNumbers lead trailing (max lo first) (min hi last) else []

/-- The forms of a set of characters, in order. -/
def ofRuns (r : Runs) : List ByteForm := r.flatMap fun p => ofRun p.1 p.2

/-- Neighbouring forms with the same first range, and what follows it in each of them. -/
def groups : List ByteForm → List (ByteRange × List ByteForm)
  | [] => []
  | [] :: forms => groups forms
  | (r :: rest) :: forms =>
    match groups forms with
    | [] => [(r, [rest])]
    | (s, rests) :: more =>
      if r == s then (r, rest :: rests) :: more else (r, [rest]) :: (s, rests) :: more

end ByteForm

end KeyTrace
