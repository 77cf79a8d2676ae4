import KeyTrace.Pattern.ClassReader
import KeyTrace.Text.Rounded
import KeyTrace.Toml.Value

/-!
# Numbers, truth values and dates in TOML

What is neither quoted nor bracketed is a word, and its form tells what it is. Digits may be parted
by single underscores. A number has the form of one whatever its size, and its value tells whether
it is within range: integers have 128 bits, with a sign or without, and floats are not to round to
infinity.

## Main definitions

* `TomlWord.integer?`, `TomlWord.float?`: numbers.
* `TomlWord.value?`: the value of a word.
-/

namespace KeyTrace

namespace TomlWord

/-- Whether a character is a decimal digit. -/
def isDigit (c : Char) : Bool := '0' ≤ c && c ≤ '9'

/-- The digits of a number without the underscores between them. Each underscore must stand between
two digits. -/
def digits? (isDigit : Char → Bool) : List Char → Option (List Char)
  | [] => none
  | [c] => if isDigit c then some [c] else none
  | c :: '_' :: rest => if isDigit c then (digits? isDigit rest).map (c :: ·) else none
  | c :: rest => if isDigit c then (digits? isDigit rest).map (c :: ·) else none

/-- The value of digits in a base. -/
def valueOf (base : Nat) (s : List Char) : Nat :=
  s.foldl (fun n c => base * n + (Pattern.hexDigit? c).getD 0) 0

/-- The number that digits of a base stand for. -/
def based? (base : Nat) (s : List Char) : Option Int :=
  let isDigit := fun c => (Pattern.hexDigit? c).any fun d => d < base
  (digits? isDigit s).map fun d => Int.ofNat (valueOf base d)

/-- The digits of a decimal number, which has no leading zeros. -/
def decimal? (s : List Char) : Option (List Char) :=
  (digits? isDigit s).bind fun d =>
    if d.head? == some '0' && d.length != 1 then none else some d

/-- The sign of a number and what follows it. -/
def cutSign (s : List Char) : Option Bool × List Char :=
  match s with
  | '+' :: rest => (some false, rest)
  | '-' :: rest => (some true, rest)
  | _ => (none, s)

/-- The integer a word stands for. -/
def integer? (s : List Char) : Option Int :=
  match s with
  | '0' :: 'x' :: rest => based? 16 rest
  | '0' :: 'o' :: rest => based? 8 rest
  | '0' :: 'b' :: rest => based? 2 rest
  | _ =>
    let (sign, rest) := cutSign s
    (decimal? rest).map fun d =>
      let n := Int.ofNat (valueOf 10 d)
      if sign == some true then -n else n

/-- The least integer: that of 128 bits with a sign. -/
def leastInteger : Int := -Int.ofNat (Nat.pow 2 127)

/-- The end of the integers: that of 128 bits without a sign. -/
def integerEnd : Int := Int.ofNat (Nat.pow 2 128)

/-- An integer as a value. -/
def ofInteger (n : Int) : TomlValue :=
  if leastInteger ≤ n && n < integerEnd then .integer n else .outOfRange

/-! ### Floats -/

/-- The digits after a point, if there is one. -/
def fraction? (s : List Char) : Option (List Char) :=
  match s with
  | '.' :: rest => digits? isDigit rest
  | _ => some []

/-- The exponent after its letter, if there is one. -/
def exponent? (s : List Char) : Option Int :=
  match s with
  | _ :: rest =>
    let (sign, rest) := cutSign rest
    (digits? isDigit rest).map fun d =>
      let n := Int.ofNat (valueOf 10 d)
      if sign == some true then -n else n
  | [] => some 0

/-- The float a word stands for: a word of its own, or digits with a fraction, an exponent or
both. -/
def float? (s : List Char) : Option TomlValue :=
  let s := (cutSign s).2
  if s == ['i', 'n', 'f'] || s == ['n', 'a', 'n'] then some .float
  else
    let (mantissa, power) := s.span fun c => c != 'e' && c != 'E'
    let (whole, fraction) := mantissa.span fun c => c != '.'
    if fraction.isEmpty && power.isEmpty then none
    else do
      let whole ← decimal? whole
      let fraction ← fraction? fraction
      let exponent ← exponent? power
      let significand := valueOf 10 (whole ++ fraction)
      return if Rounded.isInRange significand (exponent - fraction.length) then .float
        else .outOfRange

/-! ### Dates and times -/

/-- The value of exactly `n` digits at the start of a word, and what follows. -/
def fixed? (n : Nat) (s : List Char) : Option (Nat × List Char) :=
  let d := s.take n
  if d.length == n && d.all isDigit then some (valueOf 10 d, s.drop n) else none

/-- The number of days in a month. -/
def daysIn (year month : Nat) : Nat :=
  if month == 2 then
    if year % 4 == 0 && (year % 100 != 0 || year % 400 == 0) then 29 else 28
  else if [4, 6, 9, 11].contains month then 30
  else 31

/-- Reads a date; what follows it. -/
def readDate (s : List Char) : Option (List Char) :=
  (fixed? 4 s).bind fun (year, s) =>
    match s with
    | '-' :: s => (fixed? 2 s).bind fun (month, s) =>
      match s with
      | '-' :: s => (fixed? 2 s).bind fun (day, s) =>
        if 1 ≤ month && month ≤ 12 && 1 ≤ day && day ≤ daysIn year month then some s else none
      | _ => none
    | _ => none

/-- Reads the fraction of a second, if there is one; what follows it. -/
def readFraction (s : List Char) : Option (List Char) :=
  match s with
  | '.' :: rest => if (rest.head?).any isDigit then some (rest.dropWhile isDigit) else none
  | _ => some s

/-- Reads a time of day, whose seconds may be missing; what follows it. -/
def readTime (s : List Char) : Option (List Char) :=
  (fixed? 2 s).bind fun (hour, s) =>
    match s with
    | ':' :: s => (fixed? 2 s).bind fun (minute, s) =>
      if 23 < hour || 59 < minute then none
      else
        match s with
        | ':' :: s => (fixed? 2 s).bind fun (second, s) =>
          if 60 < second then none else readFraction s
        | _ => some s
    | _ => none

/-- Whether a text is an offset from universal time. -/
def isOffset (s : List Char) : Bool :=
  match s with
  | ['Z'] => true
  | ['z'] => true
  | sign :: rest =>
    (sign == '+' || sign == '-') &&
      match fixed? 2 rest with
      | some (hour, ':' :: rest) =>
        match fixed? 2 rest with
        | some (minute, []) => hour ≤ 23 && minute ≤ 59
        | _ => false
      | _ => false
  | [] => false

/-- Whether a word is a date, a time or both. -/
def isDate (s : List Char) : Bool :=
  match readDate s with
  | some [] => true
  | some (c :: rest) =>
    (c == 'T' || c == 't' || c == ' ') &&
      match readTime rest with
      | some left => left.isEmpty || isOffset left
      | none => false
  | none => readTime s == some []

/-- The value of a word. -/
def value? (s : List Char) : Option TomlValue :=
  if s == ['t', 'r', 'u', 'e'] then some (.boolean true)
  else if s == ['f', 'a', 'l', 's', 'e'] then some (.boolean false)
  else
    match integer? s with
    | some n => some (ofInteger n)
    | none => (float? s).orElse fun _ => if isDate s then some .date else none

end TomlWord

end KeyTrace
