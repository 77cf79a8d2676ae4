import KeyTrace.Pattern.Node

/-!
# Reading escapes and classes

The text of a pattern is read from left to right. This module reads what stands for one character
or one set of characters: escapes after a backslash, and classes between brackets with ranges,
nested classes and the operations `&&`, `--` and `~~` on them. Every reader takes the rest of the
text, refuses malformed text with `none`, and returns what is left.

## Main definitions

* `Flags`: the switches that change how pattern text is read and what it means.
* `Atom`, `readEscape`: what an escape stands for.
* `readClass`: a class between brackets.
-/

namespace KeyTrace

namespace Pattern

/-- The switches of a pattern. -/
structure Flags where
  /-- Letters match in either case. -/
  ignoreCase : Bool
  /-- `^` and `$` match at line ends too. -/
  multiLine : Bool
  /-- The dot matches line ends too. -/
  dotAll : Bool
  /-- Repetitions are short by default, and long with a question mark. -/
  swapGreed : Bool
  /-- Classes are those of Unicode. -/
  unicode : Bool
  /-- Lines may end with a carriage return and a line feed. -/
  crlf : Bool
  /-- Blanks and comments in the pattern text mean nothing. -/
  spaced : Bool
deriving Repr, DecidableEq

/-- The switches a pattern starts with. -/
def Flags.initial (ignoreCase : Bool) : Flags :=
  ⟨ignoreCase, false, false, false, true, false, false⟩

/-- Drops blanks, and comments from `#` to the end of the line. -/
def dropBlank (inComment : Bool) : List Char → List Char
  | [] => []
  | c :: rest =>
    if inComment then dropBlank (c != '\n') rest
    else if Blank.isBlank c then dropBlank false rest
    else if c == '#' then dropBlank true rest
    else c :: rest

/-- What is left once blanks and comments are passed over, if they mean nothing here. -/
def skip (spaced : Bool) (s : List Char) : List Char := if spaced then dropBlank false s else s

/-- The text after its first character and what may be passed over after that. -/
def next (spaced : Bool) (s : List Char) : List Char := skip spaced s.tail

/-- Characters that have a meaning of their own in patterns. -/
def isMeta (c : Char) : Bool :=
  ['\\', '.', '+', '*', '?', '(', ')', '|', '[', ']', '\x7b', '\x7d', '^', '$', '#', '&', '-',
    '~'].contains c

/-- Whether a backslash may stand before the character just to make it plain. -/
def isEscapable (c : Char) : Bool :=
  isMeta c || (c.toNat < 0x80 && !(Word.isAsciiWord c && c != '_') && c != '<' && c != '>')

/-- The value of a hexadecimal digit. -/
def hexDigit? (c : Char) : Option Nat :=
  if '0' ≤ c && c ≤ '9' then some (c.toNat - 48)
  else if 'a' ≤ c && c ≤ 'f' then some (c.toNat - 87)
  else if 'A' ≤ c && c ≤ 'F' then some (c.toNat - 55)
  else none

/-- The character of the given code point, if there is one. -/
def scalar? (n : Nat) : Option Char := if n.isValidChar then some (Char.ofNat n) else none

/-- What one item of a pattern stands for. -/
inductive Atom where
  /-- A character. `isByte` tells an escape of two hexadecimal digits, which without Unicode
  names a byte. -/
  | literal (c : Char) (isByte : Bool)
  /-- A set of characters. -/
  | set (c : CharClass)
  /-- An assertion. -/
  | look (l : Look)
deriving Repr

/-! ### Escapes -/

/-- Reads exactly `n` hexadecimal digits; blanks may stand between them where they mean nothing. -/
def readHexDigits (spaced : Bool) (value : Nat) : Nat → List Char → Option (Nat × List Char)
  | 0, s => some (value, s)
  | n + 1, c :: rest =>
    match hexDigit? c with
    | some d => readHexDigits spaced (16 * value + d) n (skip spaced rest)
    | none => none
  | _ + 1, [] => none

/-- Reads hexadecimal digits up to a closing brace. `count` tells how many were read. -/
def readHexBraced (spaced : Bool) :
    Nat → Nat → Nat → List Char → Option (Nat × List Char)
  | 0, _, _, _ => none
  | _ + 1, _, _, [] => none
  | fuel + 1, value, count, c :: rest =>
    if c == '\x7d' then
      if count == 0 || 0x10ffff < value then none else some (value, skip spaced rest)
    else match hexDigit? c with
      | some d => readHexBraced spaced fuel (16 * value + d) (count + 1) (skip spaced rest)
      | none => none

/-- Reads the rest of a hexadecimal escape after its letter; without braces it has `digits`
digits. -/
def readHex (spaced : Bool) (digits : Nat) (s : List Char) : Option (Atom × List Char) :=
  match s with
  | '\x7b' :: rest =>
    (readHexBraced spaced (rest.length + 1) 0 0 (skip spaced rest)).bind fun p =>
      (scalar? p.1).map fun c => (.literal c false, p.2)
  | _ =>
    (readHexDigits spaced 0 digits s).bind fun p =>
      (scalar? p.1).map fun c => (.literal c (digits == 2), p.2)

/-- Reads the name of a property up to a closing brace. -/
def readName (spaced : Bool) (acc : List Char) :
    Nat → List Char → Option (List Char × List Char)
  | 0, _ => none
  | _ + 1, [] => none
  | fuel + 1, c :: rest =>
    if c == '\x7d' then some (acc.reverse, rest)
    else readName spaced (c :: acc) fuel (skip spaced rest)

/-- What stands before and after the first occurrence of a text. -/
def cutAround (mark : List Char) : List Char → Option (List Char × List Char)
  | [] => none
  | c :: rest =>
    if mark.isPrefixOf (c :: rest) then some ([], (c :: rest).drop mark.length)
    else (cutAround mark rest).map fun p => (c :: p.1, p.2)

/-- The class of a property written between braces, and whether its sign is one of inequality. -/
def propertyOf (name : List Char) : Option (CharClass × Bool) :=
  match cutAround ['!', '='] name with
  | some (p, v) => (CharClass.valued? p v).map fun k => (k, true)
  | none =>
    match cutAround [':'] name with
    | some (p, v) => (CharClass.valued? p v).map fun k => (k, false)
    | none =>
      match cutAround ['='] name with
      | some (p, v) => (CharClass.valued? p v).map fun k => (k, false)
      | none => (CharClass.named? name).map fun k => (k, false)

/-- A class as an item, closed under case where the flags say so and then complemented. -/
def closeSet (flags : Flags) (negated : Bool) (k : CharClass) : Option CharClass :=
  k.close flags.ignoreCase flags.unicode negated

/-- Reads a property after `\p` or `\P`. -/
def readProperty (flags : Flags) (negated : Bool) (s : List Char) : Option (Atom × List Char) :=
  if !flags.unicode then none
  else
    match skip flags.spaced s with
    | [] => none
    | '\x7b' :: rest =>
      (readName flags.spaced [] (rest.length + 1) (skip flags.spaced rest)).bind fun (name, left) =>
        (propertyOf name).bind fun (k, differs) =>
          (closeSet flags (negated != differs) k).map fun k => (.set k, left)
    | c :: rest =>
      if c == '\\' then none
      else
        (CharClass.named? [c]).bind fun k =>
          (closeSet flags negated k).map fun k => (.set k, rest)

/-- The class of a letter such as `d` or `W` after a backslash. The complements need Unicode:
without it they would match single bytes. -/
def letterClass (flags : Flags) (c : Char) : Option CharClass :=
  let u := flags.unicode
  match c with
  | 'd' => some (CharClass.digit u)
  | 's' => some (CharClass.space u)
  | 'w' => some (CharClass.word u)
  | 'D' => if u then some (CharClass.digit u).compl else none
  | 'S' => if u then some (CharClass.space u).compl else none
  | 'W' => if u then some (CharClass.word u).compl else none
  | _ => none

/-- A character that may stand in the name of a special word boundary. -/
def isBoundaryChar (c : Char) : Bool :=
  ('a' ≤ c && c ≤ 'z') || ('A' ≤ c && c ≤ 'Z') || c == '-'

/-- Reads the name of a special word boundary. -/
def readBoundaryName (spaced : Bool) (acc : List Char) :
    Nat → List Char → List Char × List Char
  | 0, s => (acc.reverse, s)
  | _ + 1, [] => (acc.reverse, [])
  | fuel + 1, c :: rest =>
    if isBoundaryChar c then readBoundaryName spaced (c :: acc) fuel (skip spaced rest)
    else (acc.reverse, c :: rest)

/-- Reads what follows `\b`: a name in braces makes a special boundary, and anything else between
braces is left to be read as a repetition. -/
def readBoundary (flags : Flags) (s : List Char) : Option (Atom × List Char) :=
  let u := flags.unicode
  match s with
  | '\x7b' :: rest =>
    match skip flags.spaced rest with
    | [] => none
    | c :: more =>
      if isBoundaryChar c then
        let (name, left) := readBoundaryName flags.spaced [] (more.length + 2) (c :: more)
        match left with
        | '\x7d' :: left =>
          match String.ofList name with
          | "start" => some (.look (.wordStart u), left)
          | "end" => some (.look (.wordEnd u), left)
          | "start-half" => some (.look (.wordStartHalf u), left)
          | "end-half" => some (.look (.wordEndHalf u), left)
          | _ => none
        | _ => none
      else some (.look (.wordBoundary u), s)
  | _ => some (.look (.wordBoundary u), s)

/-- Reads an escape after its backslash. -/
def readEscape (flags : Flags) : List Char → Option (Atom × List Char)
  | [] => none
  | c :: rest =>
    let plain := fun (k : Char) => some (Atom.literal k false, rest)
    if '0' ≤ c && c ≤ '9' then none
    else if isEscapable c then plain c
    else match c with
      | 'x' => readHex flags.spaced 2 (skip flags.spaced rest)
      | 'u' => readHex flags.spaced 4 (skip flags.spaced rest)
      | 'U' => readHex flags.spaced 8 (skip flags.spaced rest)
      | 'p' => readProperty flags false rest
      | 'P' => readProperty flags true rest
      | 'a' => plain '\x07'
      | 'f' => plain '\x0c'
      | 't' => plain '\t'
      | 'n' => plain '\n'
      | 'r' => plain '\r'
      | 'v' => plain '\x0b'
      | 'A' => some (.look .textStart, rest)
      | 'z' => some (.look .textEnd, rest)
      | 'b' => readBoundary flags rest
      | 'B' => some (.look (.notWordBoundary flags.unicode), rest)
      | '<' => some (.look (.wordStart flags.unicode), rest)
      | '>' => some (.look (.wordEnd flags.unicode), rest)
      | _ => (letterClass flags c).map fun k => (.set k, rest)

/-! ### Classes -/

/-- Closes a class under case where the flags say so. -/
def foldClass (flags : Flags) (k : CharClass) : CharClass :=
  if flags.ignoreCase then k.fold flags.unicode else k

/-- An operation between two classes. -/
inductive ClassOp where
  | inter
  | diff
  | symmDiff
deriving Repr, DecidableEq

/-- The class of two operands. -/
def ClassOp.apply : ClassOp → CharClass → CharClass → CharClass
  | inter, a, b => Runs.inter a b
  | diff, a, b => Runs.diff a b
  | symmDiff, a, b => Runs.symmDiff a b

/-- A class with the depth of its nesting. -/
structure Nested where
  cls : CharClass
  depth : Nat
deriving Repr

/-- A class that has been opened and not yet closed: whether it is negated, the items read since
the last operation (last first), and the operand and operation before them. -/
structure OpenClass where
  negated : Bool
  items : List Nested
  pending : Option (Nested × ClassOp)
deriving Repr

namespace OpenClass

/-- The union of the items read since the last operation. -/
def union (o : OpenClass) : Nested :=
  match o.items with
  | [] => ⟨CharClass.none, 0⟩
  | [a] => a
  | items => ⟨Runs.unions (items.map Nested.cls), 1 + (items.map Nested.depth).foldl max 0⟩

/-- The class read so far: the pending operation applied to the union of the latest items. Both
operands of an operation are closed under case. -/
def operand (flags : Flags) (o : OpenClass) : Nested :=
  match o.pending with
  | none => o.union
  | some (lhs, op) =>
    ⟨op.apply (foldClass flags lhs.cls) (foldClass flags o.union.cls),
      1 + max lhs.depth o.union.depth⟩

/-- Adds an item. -/
def push (o : OpenClass) (a : Nested) : OpenClass := { o with items := a :: o.items }

/-- Ends the items at an operation. -/
def operate (flags : Flags) (o : OpenClass) (op : ClassOp) : OpenClass :=
  { o with items := [], pending := some (o.operand flags, op) }

end OpenClass

/-- The class as a whole. -/
def closeClass (flags : Flags) (o : OpenClass) : Option Nested :=
  let inner := o.operand flags
  (closeSet flags o.negated inner.cls).map fun k => ⟨k, inner.depth⟩

/-- Reads hyphens at the start of a class, which stand for themselves. -/
def readHyphens (spaced : Bool) (o : OpenClass) : Nat → List Char → OpenClass × List Char
  | 0, s => (o, s)
  | fuel + 1, '-' :: rest =>
    readHyphens spaced (o.push ⟨CharClass.single '-', 0⟩) fuel (skip spaced rest)
  | _ + 1, s => (o, s)

/-- Reads the start of a class after its bracket: the sign of negation, hyphens, and a closing
bracket that stands for itself because it comes first. -/
def openClass (spaced : Bool) (s : List Char) : Option (OpenClass × List Char) :=
  let s := skip spaced s
  let (negated, s) :=
    match s with
    | '^' :: rest => (true, skip spaced rest)
    | _ => (false, s)
  let (o, s) := readHyphens spaced ⟨negated, [], none⟩ s.length s
  let (o, s) :=
    match o.items, s with
    | [], ']' :: rest => (o.push ⟨CharClass.single ']', 0⟩, skip spaced rest)
    | _, _ => (o, s)
  if s.isEmpty then none else some (o, s)

/-- Reads a class of ASCII such as `[:alpha:]`, from its second character on, and whether it is
negated. Text that is no such class is left to be read as a nested class. -/
def readAsciiClass (s : List Char) : Option (CharClass × Bool × List Char) :=
  match s with
  | ':' :: rest =>
    let (negated, rest) :=
      match rest with
      | '^' :: more => (true, more)
      | _ => (false, rest)
    match rest.dropWhile (fun c => c != ':') with
    | ':' :: ']' :: left =>
      (CharClass.ascii? (String.ofList (rest.takeWhile fun c => c != ':'))).map fun k =>
        (k, negated, left)
    | _ => none
  | _ => none

/-- The next character after the current one, with blanks and the sign of a comment passed over. -/
def peek (spaced : Bool) (s : List Char) : Option Char :=
  if !spaced then s.tail.head?
  else
    match s.tail.dropWhile Blank.isBlank with
    | '#' :: rest =>
      match rest.dropWhile Blank.isBlank with
      | c :: _ => some c
      | [] => s.tail.head?
    | c :: _ => some c
    | [] => s.tail.head?

/-- Reads one item of a class: an escape or the character itself. -/
def readClassAtom (flags : Flags) : List Char → Option (Atom × List Char)
  | [] => none
  | '\\' :: rest => readEscape flags rest
  | c :: rest => some (.literal c false, rest)

/-- Whether a literal may stand in a class: without Unicode, only ASCII characters. -/
def classLiteral (flags : Flags) (c : Char) : Bool := flags.unicode || c.toNat < 0x80

/-- Reads one item of a class, or a range between two characters. -/
def readClassRange (flags : Flags) (s : List Char) : Option (CharClass × List Char) :=
  (readClassAtom flags s).bind fun (first, s) =>
    let s := skip flags.spaced s
    let ends := s.head? != some '-' || peek flags.spaced s == some ']' ||
      peek flags.spaced s == some '-'
    if s.isEmpty then none
    else if ends then
      match first with
      | .literal c _ => if classLiteral flags c then some (CharClass.single c, s) else none
      | .set k => some (k, s)
      | .look _ => none
    else
      let s := next flags.spaced s
      if s.isEmpty then none
      else
        (readClassAtom flags s).bind fun (last, s) =>
          match first, last with
          | .literal a _, .literal b _ =>
            if a ≤ b && classLiteral flags a && classLiteral flags b then
              some (CharClass.range a b, s)
            else none
          | _, _ => none

/-- Reads classes until the outermost one is closed. `stack` holds the classes around the current
one, innermost first. -/
def readClassFrom (flags : Flags) :
    Nat → OpenClass → List OpenClass → List Char → Option (Nested × List Char)
  | 0, _, _, _ => none
  | fuel + 1, o, stack, s =>
    match skip flags.spaced s with
    | [] => none
    | '[' :: rest =>
      match readAsciiClass rest with
      | some (k, negated, left) =>
        (closeSet flags negated k).bind fun k =>
          readClassFrom flags fuel (o.push ⟨k, 0⟩) stack left
      | none =>
        (openClass flags.spaced rest).bind fun (inner, left) =>
          readClassFrom flags fuel inner (o :: stack) left
    | ']' :: rest =>
      (closeClass flags o).bind fun n =>
        match stack with
        | [] => some (⟨n.cls, n.depth + 1⟩, rest)
        | outer :: stack =>
          readClassFrom flags fuel (outer.push ⟨n.cls, n.depth + 1⟩) stack rest
    | '&' :: '&' :: rest => readClassFrom flags fuel (o.operate flags .inter) stack rest
    | '-' :: '-' :: rest => readClassFrom flags fuel (o.operate flags .diff) stack rest
    | '~' :: '~' :: rest => readClassFrom flags fuel (o.operate flags .symmDiff) stack rest
    | s =>
      (readClassRange flags s).bind fun (c, left) =>
        readClassFrom flags fuel (o.push ⟨c, 0⟩) stack left

@[simp] theorem readClassFrom_zero (flags : Flags) (o : OpenClass) (stack : List OpenClass)
    (s : List Char) : readClassFrom flags 0 o stack s = none := by rw [readClassFrom]

/-- Reads a class after its opening bracket. -/
def readClass (flags : Flags) (s : List Char) : Option (Nested × List Char) :=
  (openClass flags.spaced s).bind fun (o, left) =>
    readClassFrom flags (left.length + 1) o [] left

end Pattern

end KeyTrace
