import KeyTrace.Text.Runs

/-!
# Blank characters

The characters with the property White_Space, and trimming by them.

## Main definitions

* `Blank.isBlank`: a blank character.
* `Blank.trimStart`, `Blank.trimEnd`, `Blank.trim`: text without blanks at its ends.
-/

namespace KeyTrace

namespace Blank

/-- The runs of White_Space. -/
def runs : Runs := [
  (0x0009, 0x000d), (0x0020, 0x0020), (0x0085, 0x0085), (0x00a0, 0x00a0), (0x1680, 0x1680),
  (0x2000, 0x200a), (0x2028, 0x2029), (0x202f, 0x202f), (0x205f, 0x205f), (0x3000, 0x3000)]

/-- A character with the property White_Space. -/
def isBlank (c : Char) : Bool := runs.has c

/-- Text without its leading blanks. -/
def trimStart (s : List Char) : List Char := s.dropWhile isBlank

/-- Text without its trailing blanks. -/
def trimEnd (s : List Char) : List Char := (s.reverse.dropWhile isBlank).reverse

/-- Text without blanks at either end. -/
def trim (s : List Char) : List Char := trimEnd (trimStart s)

@[simp] theorem trim_nil : trim [] = [] := rfl

end Blank

end KeyTrace
