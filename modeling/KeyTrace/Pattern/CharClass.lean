import KeyTrace.Text.Age
import KeyTrace.Text.Blank
import KeyTrace.Text.Break
import KeyTrace.Text.Category
import KeyTrace.Text.Folding
import KeyTrace.Text.Lowercase
import KeyTrace.Text.Property
import KeyTrace.Text.Script
import KeyTrace.Text.Word

/-!
# Character classes

A class is a set of characters, given by its runs. Classes are written as lists and runs of
characters, by names of ASCII or of Unicode, and as unions, intersections and differences of other
classes; all of these are worked out when the pattern is read, so that matching is a plain test of
membership.

## Main definitions

* `CharClass`, `CharClass.mem`: classes and membership.
* `CharClass.close`: a class closed under case and then complemented, as flags and signs demand.
* `CharClass.named?`, `CharClass.valued?`: the class of a Unicode property, category or script.
* `CharClass.ascii?`: the class of an ASCII name such as `alpha`.
-/

namespace KeyTrace

/-- A set of characters. -/
abbrev CharClass := Runs

namespace CharClass

/-- Whether a character is in the class. -/
def mem (k : CharClass) (c : Char) : Bool := Runs.has k c

/-- The empty class. -/
def none : CharClass := []

/-- Every character. -/
def all : CharClass := Runs.full

/-- One character, exactly. -/
def single (c : Char) : CharClass := Runs.single c

/-- The characters from `lo` to `hi`. -/
def range (lo hi : Char) : CharClass := [(lo.toNat, hi.toNat)]

@[simp] theorem mem_single (a c : Char) : (single a).mem c = decide (c = a) := Runs.has_single a c

@[simp] theorem mem_none (c : Char) : none.mem c = false := rfl

/-! ### Case -/

/-- The ASCII letter of the other case; other characters stay. -/
def otherAsciiCase (c : Char) : Char :=
  if 'A' ≤ c && c ≤ 'Z' then Char.ofNat (c.toNat + 32)
  else if 'a' ≤ c && c ≤ 'z' then Char.ofNat (c.toNat - 32)
  else c

/-- The characters that differ from `c` in case only, and `c` itself. -/
def anyCase (unicode : Bool) (c : Char) : CharClass :=
  Runs.ofChars (if unicode then Folding.orbit c else [c, otherAsciiCase c])

/-- The shifts between the cases of ASCII letters. -/
def asciiShifts : CaseMap := [⟨0x41, 0x5a, 1, 32⟩, ⟨0x61, 0x7a, 1, -32⟩]

/-- The class closed under case. -/
def fold (unicode : Bool) (k : CharClass) : CharClass :=
  if unicode then Folding.closure k else Runs.unions [k, Runs.ofCodes (asciiShifts.imagesOf k)]

/-- The class as an item of a pattern: closed under case first, and complemented after that. A
complement of ASCII would match single bytes, so without Unicode there is none. -/
def close (ignoreCase unicode negated : Bool) (k : CharClass) : Option CharClass :=
  if negated && !unicode then Option.none
  else
    let k := if ignoreCase then fold unicode k else k
    some (if negated then k.compl else k)

/-! ### Named classes -/

/-- White space, of Unicode or of ASCII. -/
def space (unicode : Bool) : CharClass :=
  if unicode then Blank.runs else [(0x09, 0x0d), (0x20, 0x20)]

/-- Decimal digits, of Unicode or of ASCII. -/
def digit (unicode : Bool) : CharClass := if unicode then Word.digitRuns else [(0x30, 0x39)]

/-- Word characters, of Unicode or of ASCII. -/
def word (unicode : Bool) : CharClass :=
  if unicode then Word.runs else [(0x30, 0x39), (0x41, 0x5a), (0x5f, 0x5f), (0x61, 0x7a)]

/-- The classes of ASCII that are written by name between colons. -/
def ascii? (name : String) : Option CharClass :=
  match name with
  | "alnum" => some [(0x30, 0x39), (0x41, 0x5a), (0x61, 0x7a)]
  | "alpha" => some [(0x41, 0x5a), (0x61, 0x7a)]
  | "ascii" => some [(0x00, 0x7f)]
  | "blank" => some [(0x09, 0x09), (0x20, 0x20)]
  | "cntrl" => some [(0x00, 0x1f), (0x7f, 0x7f)]
  | "digit" => some (digit false)
  | "graph" => some [(0x21, 0x7e)]
  | "lower" => some [(0x61, 0x7a)]
  | "print" => some [(0x20, 0x7e)]
  | "punct" => some [(0x21, 0x2f), (0x3a, 0x40), (0x5b, 0x60), (0x7b, 0x7e)]
  | "space" => some (space false)
  | "upper" => some [(0x41, 0x5a)]
  | "word" => some (word false)
  | "xdigit" => some [(0x30, 0x39), (0x41, 0x46), (0x61, 0x66)]
  | _ => Option.none

/-- A name without case, blanks, hyphens and underscores, and without a leading `is`. -/
def plainName (name : List Char) : String :=
  let kept := (name.filter fun c => c.toNat < 0x80 && c != ' ' && c != '_' && c != '-').map
    Lowercase.lowerAscii
  match kept with
  | ['i', 's', 'c'] => "isc"
  | 'i' :: 's' :: rest =>
    if (name.take 2).map Lowercase.lowerAscii == ['i', 's'] then String.ofList rest
    else String.ofList kept
  | _ => String.ofList kept

/-- The class of a name on its own: a property, a category or a script, looked for in this order;
three short names mean the category though a property has them too. -/
def named? (name : List Char) : Option CharClass :=
  let plain := plainName name
  let property :=
    if plain == "cf" || plain == "sc" || plain == "lc" then Option.none else Property.runs? plain
  match property with
  | some r => some r
  | Option.none =>
    match Category.runs? plain with
    | some c => some c
    | Option.none => Script.runs? plain

/-- The class of a property with a value. -/
def valued? (property value : List Char) : Option CharClass :=
  let value := plainName value
  match plainName property with
  | "gc" | "generalcategory" => Category.runs? value
  | "sc" | "script" => Script.runs? value
  | "scx" | "scriptextensions" => Script.extendedRuns? value
  | "age" => Age.runs? value
  | "gcb" | "graphemeclusterbreak" => Break.clusterRuns? value
  | "wb" | "wordbreak" => Break.wordRuns? value
  | "sb" | "sentencebreak" => Break.sentenceRuns? value
  | _ => Option.none

end CharClass

end KeyTrace
