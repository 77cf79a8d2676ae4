import KeyTrace.Json.Value
import KeyTrace.Pattern.ClassReader
import KeyTrace.Text.Rounded

/-!
# Reading JSON

A document is one value with nothing but blanks around it. Strings hold no control characters and
no halves of surrogate pairs, numbers are within the range of double precision when they are worked
out from a significand of 64 bits, and values are not nested deeper than a limit. Of members with
the same name the last one counts.

## Main definitions

* `JsonValue.read?`: the value of a document, if it is well formed.
* `JsonValue.nestingLimit`: how deep values may be nested.
-/

namespace KeyTrace

namespace JsonValue

/-- How deep arrays and objects may be nested. -/
def nestingLimit : Nat := 127

/-- A blank of the format. -/
def isBlank (c : Char) : Bool := c == ' ' || c == '\n' || c == '\t' || c == '\r'

/-- The text without blanks at its start. -/
def dropBlanks (s : List Char) : List Char := s.dropWhile isBlank

/-! ### Strings -/

/-- The value of four hexadecimal digits. -/
def readUnit : List Char → Option (Nat × List Char)
  | a :: b :: c :: d :: rest =>
    match Pattern.hexDigit? a, Pattern.hexDigit? b, Pattern.hexDigit? c, Pattern.hexDigit? d with
    | some a, some b, some c, some d => some (4096 * a + 256 * b + 16 * c + d, rest)
    | _, _, _, _ => none
  | _ => none

/-- Reads an escape of a code point after its `u`: one unit, or a pair of surrogates. -/
def readCodePoint (s : List Char) : Option (Char × List Char) :=
  (readUnit s).bind fun (high, rest) =>
    if 0xd800 ≤ high && high < 0xdc00 then
      match rest with
      | '\\' :: 'u' :: more =>
        (readUnit more).bind fun (low, left) =>
          if 0xdc00 ≤ low && low < 0xe000 then
            some (Char.ofNat (0x10000 + (high - 0xd800) * 1024 + (low - 0xdc00)), left)
          else none
      | _ => none
    else if 0xdc00 ≤ high && high < 0xe000 then none
    else some (Char.ofNat high, rest)

/-- The character that a one-letter escape stands for. -/
def escaped? : Char → Option Char
  | '"' => some '"'
  | '\\' => some '\\'
  | '/' => some '/'
  | 'b' => some '\x08'
  | 'f' => some '\x0c'
  | 'n' => some '\n'
  | 'r' => some '\r'
  | 't' => some '\t'
  | _ => none

/-- Reads a string after its opening quote. -/
def readString : Nat → List Char → Option (List Char × List Char)
  | 0, _ => none
  | _ + 1, [] => none
  | fuel + 1, c :: rest =>
    if c == '"' then some ([], rest)
    else if c.toNat < 0x20 then none
    else
      let first := if c == '\\' then
          match rest with
          | 'u' :: more => readCodePoint more
          | e :: more => (escaped? e).map fun k => (k, more)
          | [] => none
        else some (c, rest)
      first.bind fun (k, left) => (readString fuel left).map fun (s, left) => (k :: s, left)

/-! ### Numbers -/

/-- Whether a character is a decimal digit. -/
def isDigit (c : Char) : Bool := '0' ≤ c && c ≤ '9'

/-- The value of some decimal digits. -/
def digitsValue (s : List Char) : Nat := s.foldl (fun n c => 10 * n + (c.toNat - 48)) 0

/-- The largest significand that is kept exactly: that of a word of 64 bits. -/
def largestSignificand : Nat := 0xffffffffffffffff

/-- The significand after further digits, as many as it has room for, and the digits left. -/
def takeDigits (significand : Nat) : List Char → Nat × List Char
  | [] => (significand, [])
  | c :: rest =>
    let next := 10 * significand + (c.toNat - 48)
    if next ≤ largestSignificand then takeDigits next rest else (significand, c :: rest)

/-- Whether `significand * 10 ^ exponent` is within range. Significand and power are rounded to
double precision each before they are multiplied. -/
def isScaledInRange (significand : Nat) (exponent : Int) : Bool :=
  if significand == 0 || exponent < 0 then true
  else if Int.ofNat Rounded.largestPower < exponent then false
  else
    decide (Rounded.round significand * Rounded.round (Nat.pow 10 exponent.toNat) <
      Rounded.rangeEnd)

/-- Whether the number with the given digits before and after the point is within range. Digits
that the significand has no room for count as zeros before the point and are dropped after it. -/
def isInRange (whole fraction : List Char) (exponent : Int) : Bool :=
  let (significand, large) := takeDigits 0 whole
  let (significand, small) := takeDigits significand fraction
  let taken := fraction.length - small.length
  isScaledInRange significand (exponent + large.length - taken)

/-- Reads a sign if it is among the given ones. -/
def readSign (signs s : List Char) : List Char × List Char :=
  match s with
  | c :: rest => if signs.contains c then ([c], rest) else ([], s)
  | [] => ([], [])

/-- Reads digits, at least one. -/
def readDigits (s : List Char) : Option (List Char × List Char) :=
  let digits := s.takeWhile isDigit
  if digits.isEmpty then none else some (digits, s.dropWhile isDigit)

/-- Reads the digits after a decimal point, if there is one. -/
def readFraction (s : List Char) : Option (List Char × List Char) :=
  match s with
  | '.' :: rest => readDigits rest
  | _ => some ([], s)

/-- Reads an exponent, if there is one: its text and its value. -/
def readExponent (s : List Char) : Option ((List Char × Int) × List Char) :=
  match s with
  | c :: rest =>
    if c == 'e' || c == 'E' then
      let (sign, rest) := readSign ['+', '-'] rest
      (readDigits rest).map fun (digits, left) =>
        let n := Int.ofNat (digitsValue digits)
        ((c :: sign ++ digits, if sign == ['-'] then -n else n), left)
    else some (([], 0), s)
  | [] => some (([], 0), [])

/-- Reads a number as it is written. A whole part of several digits does not start with zero. -/
def readNumber (s : List Char) : Option (List Char × List Char) := do
  let (sign, s) := readSign ['-'] s
  let (whole, s) ← readDigits s
  if whole.head? == some '0' && whole.length != 1 then none
  let (fraction, s) ← readFraction s
  let ((exponent, e), s) ← readExponent s
  let point := if fraction.isEmpty then [] else ['.']
  if isInRange whole fraction e then
    some (sign ++ whole ++ point ++ fraction ++ exponent, s)
  else none

/-! ### Values -/

/-- Reads a word that stands for a value. -/
def readWord (word : String) (value : JsonValue) (s : List Char) : Option (JsonValue × List Char) :=
  if word.toList.isPrefixOf s then some (value, s.drop word.length) else none

mutual

/-- Reads a value within `depth` further levels. -/
def readValue : Nat → Nat → List Char → Option (JsonValue × List Char)
  | 0, _, _ => none
  | fuel + 1, depth, s =>
    match dropBlanks s with
    | [] => none
    | c :: rest =>
      match c with
      | '"' => (readString fuel rest).map fun (t, left) =>
          (.string (String.ofList t), left)
      | '[' =>
        if depth == 0 then none
        else
          match dropBlanks rest with
          | ']' :: left => some (.array [], left)
          | s => (readItems fuel (depth - 1) s).map fun (items, left) => (.array items, left)
      | '\x7b' =>
        if depth == 0 then none
        else
          match dropBlanks rest with
          | '\x7d' :: left => some (.object [], left)
          | s => (readMembers fuel (depth - 1) [] s).map fun (members, left) =>
              (.object members, left)
      | 't' => readWord "true" (.bool true) (c :: rest)
      | 'f' => readWord "false" (.bool false) (c :: rest)
      | 'n' => readWord "null" .null (c :: rest)
      | _ =>
        (readNumber (c :: rest)).map fun (t, left) => (.number (String.ofList t), left)

/-- Reads the items of an array and its closing bracket. -/
def readItems : Nat → Nat → List Char → Option (List JsonValue × List Char)
  | 0, _, _ => none
  | fuel + 1, depth, s =>
    (readValue fuel depth s).bind fun (v, left) =>
      match dropBlanks left with
      | ',' :: more => (readItems fuel depth more).map fun (items, left) => (v :: items, left)
      | ']' :: more => some ([v], more)
      | _ => none

/-- Reads the members of an object and its closing brace; `members` are those before. -/
def readMembers : Nat → Nat → List (String × JsonValue) → List Char →
    Option (List (String × JsonValue) × List Char)
  | 0, _, _, _ => none
  | fuel + 1, depth, members, s =>
    match dropBlanks s with
    | '"' :: rest =>
      (readString fuel rest).bind fun (name, left) =>
        match dropBlanks left with
        | ':' :: more =>
          (readValue fuel depth more).bind fun (v, left) =>
            let members := setMember (String.ofList name) v members
            match dropBlanks left with
            | ',' :: more => readMembers fuel depth members more
            | '\x7d' :: more => some (members, more)
            | _ => none
        | _ => none
    | _ => none

end

/-- The value of a document. -/
def read? (s : List Char) : Option JsonValue :=
  (readValue (2 * s.length + 2) nestingLimit s).bind fun (v, left) =>
    if (dropBlanks left).isEmpty then some v else none

end JsonValue

end KeyTrace
