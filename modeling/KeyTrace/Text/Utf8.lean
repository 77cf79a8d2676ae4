/-!
# UTF-8

Files hold bytes; the text in them is read either strictly, so that one bad byte refuses the whole
file, or leniently, so that each longest invalid piece becomes one replacement character.

## Main definitions

* `Utf8.pieces`: the characters and the invalid pieces of a byte string, in order.
* `Utf8.decode?`: the text, if every piece is a character.
* `Utf8.decodeLossy`: the text with replacement characters.
* `Utf8.encode`: the bytes of a text.
* `Utf8.text?`, `Utf8.lossy`, `Utf8.ofText`: the same for whole strings.
-/

namespace KeyTrace

/-- The content of a file. -/
abbrev Bytes := List UInt8

namespace Utf8

/-- A byte that continues a character. -/
def isContinuation (b : UInt8) : Bool := 0x80 ≤ b && b ≤ 0xbf

/-- Whether `b` may be the second byte after the first byte `a` of a three-byte character. -/
def isSecondOfThree (a b : UInt8) : Bool :=
  if a == 0xe0 then 0xa0 ≤ b && b ≤ 0xbf
  else if a == 0xed then 0x80 ≤ b && b ≤ 0x9f
  else isContinuation b

/-- Whether `b` may be the second byte after the first byte `a` of a four-byte character. -/
def isSecondOfFour (a b : UInt8) : Bool :=
  if a == 0xf0 then 0x90 ≤ b && b ≤ 0xbf
  else if a == 0xf4 then 0x80 ≤ b && b ≤ 0x8f
  else isContinuation b

/-- The character of a two-byte sequence. -/
def char2 (a b : UInt8) : Char :=
  Char.ofNat ((a.toNat - 0xc0) * 64 + (b.toNat - 0x80))

/-- The character of a three-byte sequence. -/
def char3 (a b c : UInt8) : Char :=
  Char.ofNat ((a.toNat - 0xe0) * 4096 + (b.toNat - 0x80) * 64 + (c.toNat - 0x80))

/-- The character of a four-byte sequence. -/
def char4 (a b c d : UInt8) : Char :=
  Char.ofNat ((a.toNat - 0xf0) * 262144 + (b.toNat - 0x80) * 4096 + (c.toNat - 0x80) * 64
    + (d.toNat - 0x80))

/-- The characters of a byte string in order; `none` stands for a longest piece that begins a
character and does not complete it, or for a byte that begins none. -/
def pieces : Bytes → List (Option Char)
  | [] => []
  | a :: r0 =>
    if a < 0x80 then some (Char.ofNat a.toNat) :: pieces r0
    else if 0xc2 ≤ a && a ≤ 0xdf then
      match r0 with
      | [] => [none]
      | b :: r1 =>
        if isContinuation b then some (char2 a b) :: pieces r1 else none :: pieces (b :: r1)
    else if 0xe0 ≤ a && a ≤ 0xef then
      match r0 with
      | [] => [none]
      | b :: r1 =>
        if isSecondOfThree a b then
          match r1 with
          | [] => [none]
          | c :: r2 =>
            if isContinuation c then some (char3 a b c) :: pieces r2 else none :: pieces (c :: r2)
        else none :: pieces (b :: r1)
    else if 0xf0 ≤ a && a ≤ 0xf4 then
      match r0 with
      | [] => [none]
      | b :: r1 =>
        if isSecondOfFour a b then
          match r1 with
          | [] => [none]
          | c :: r2 =>
            if isContinuation c then
              match r2 with
              | [] => [none]
              | d :: r3 =>
                if isContinuation d then some (char4 a b c d) :: pieces r3
                else none :: pieces (d :: r3)
            else none :: pieces (c :: r2)
        else none :: pieces (b :: r1)
    else none :: pieces r0

/-- The text of a byte string, if it is valid. -/
def decode? (bytes : Bytes) : Option (List Char) := (pieces bytes).mapM id

/-- The text of a byte string, with one replacement character for each invalid piece. -/
def decodeLossy (bytes : Bytes) : List Char := (pieces bytes).map fun p => p.getD '\ufffd'

/-- A byte with the given value. -/
def byte (n : Nat) : UInt8 := UInt8.ofNat n

/-- The bytes of one character. -/
def encodeChar (c : Char) : Bytes :=
  let n := c.toNat
  if n < 0x80 then [byte n]
  else if n < 0x800 then [byte (0xc0 + n / 64), byte (0x80 + n % 64)]
  else if n < 0x10000 then
    [byte (0xe0 + n / 4096), byte (0x80 + n / 64 % 64), byte (0x80 + n % 64)]
  else
    [byte (0xf0 + n / 262144), byte (0x80 + n / 4096 % 64), byte (0x80 + n / 64 % 64),
      byte (0x80 + n % 64)]

/-- The bytes of a text. -/
def encode (s : List Char) : Bytes := s.flatMap encodeChar

/-- The text that some bytes hold, if they are valid. -/
def text? (bytes : Bytes) : Option String := (decode? bytes).map String.ofList

/-- The text that some bytes are shown as. -/
def lossy (bytes : Bytes) : String := String.ofList (decodeLossy bytes)

/-- The bytes of a string. -/
def ofText (s : String) : Bytes := encode s.toList

/-- Where bytes are expected, a string stands for its own. -/
instance : Coe String Bytes := ⟨ofText⟩

/-- The number of bytes of a text. -/
def width : List Char → Nat
  | [] => 0
  | c :: rest => c.utf8Size + width rest

@[simp] theorem width_nil : width [] = 0 := rfl

@[simp] theorem width_cons (c : Char) (s : List Char) :
    width (c :: s) = c.utf8Size + width s := rfl

@[simp] theorem width_append (s t : List Char) : width (s ++ t) = width s + width t := by
  induction s with
  | nil => simp
  | cons c s ih => simp [ih, Nat.add_assoc]

end Utf8

end KeyTrace
