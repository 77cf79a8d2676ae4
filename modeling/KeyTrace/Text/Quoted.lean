import KeyTrace.Text.Visible

/-!
# Quoted text

Two ways to show a text between double quotes. In a message, every character that would not be
seen as itself is written as an escape; in a JSON document, only what the format demands.

## Main definitions

* `Quoted.hex`: a number in hexadecimal digits.
* `Quoted.shown`: the text as messages quote it.
* `Quoted.json`: the text as a JSON string.
-/

namespace KeyTrace

namespace Quoted

/-- A number in lower-case hexadecimal digits. -/
def hex (n : Nat) : List Char := Nat.toDigits 16 n

/-- A number in hexadecimal digits, filled up with zeros to `width` digits. -/
def hexPadded (width n : Nat) : List Char :=
  List.replicate (width - (hex n).length) '0' ++ hex n

/-- One character of a quoted text, given the set of visible characters. -/
def shownChar (visible : Runs) (c : Char) : List Char :=
  if c == '\x00' then ['\\', '0']
  else if c == '\t' then ['\\', 't']
  else if c == '\r' then ['\\', 'r']
  else if c == '\n' then ['\\', 'n']
  else if c == '\\' then ['\\', '\\']
  else if c == '"' then ['\\', '"']
  else if c == ' ' || visible.has c then [c]
  else ['\\', 'u', '\x7b'] ++ hex c.toNat ++ ['\x7d']

/-- The text between double quotes, as messages show it. -/
def shown (s : String) : String :=
  let visible := Visible.runs
  String.ofList ('"' :: s.toList.flatMap (shownChar visible) ++ ['"'])

/-- One character of a JSON string. -/
def jsonChar (c : Char) : List Char :=
  if c == '"' then ['\\', '"']
  else if c == '\\' then ['\\', '\\']
  else if c == '\n' then ['\\', 'n']
  else if c == '\r' then ['\\', 'r']
  else if c == '\t' then ['\\', 't']
  else if c == '\x08' then ['\\', 'b']
  else if c == '\x0c' then ['\\', 'f']
  else if c.toNat < 0x20 then ['\\', 'u'] ++ hexPadded 4 c.toNat
  else [c]

/-- The text as a JSON string. -/
def json (s : String) : String := String.ofList ('"' :: s.toList.flatMap jsonChar ++ ['"'])

end Quoted

end KeyTrace
