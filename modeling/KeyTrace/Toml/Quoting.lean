import KeyTrace.Text.Quoted

/-!
# Writing TOML strings

A string is written in the plainest of four forms that can hold it: between double quotes if it
needs no escapes, else between single quotes, else over several lines between three double quotes
or three single quotes, else with escapes. In the forms for several lines a string that has a line
feed starts on a line of its own.

## Main definitions

* `Toml.longestRun`: how many of a character stand in a row at most.
* `Toml.quote`: the string as it is written.
-/

namespace KeyTrace

namespace Toml

/-- The longest run of a character, given the length of the current one. -/
def runFrom (c : Char) (current : Nat) : List Char → Nat
  | [] => current
  | d :: rest => if d == c then runFrom c (current + 1) rest else max current (runFrom c 0 rest)

/-- How many of a character stand in a row at most. -/
def longestRun (c : Char) (s : List Char) : Nat := runFrom c 0 s

/-- Whether a character can be written as an escape only. -/
def needsCode (c : Char) : Bool :=
  (c.toNat < 0x20 && c != '\t' && c != '\n') || c == '\x7f'

/-- The escape of a control character by its code point. -/
def codeEscape (c : Char) : List Char :=
  ['\\', 'u'] ++ (Quoted.hexPadded 4 c.toNat).map fun d =>
    if 'a' ≤ d && d ≤ 'f' then Char.ofNat (d.toNat - 32) else d

/-- One character between double quotes. `block` tells whether the string is written over several
lines. -/
def escapeChar (block : Bool) (c : Char) : List Char :=
  if c == '\x08' then ['\\', 'b']
  else if c == '\t' then ['\\', 't']
  else if c == '\n' then if block then ['\n'] else ['\\', 'n']
  else if c == '\x0c' then ['\\', 'f']
  else if c == '\r' then ['\\', 'r']
  else if c == '\\' then ['\\', '\\']
  else if needsCode c then codeEscape c
  else [c]

/-- The text between double quotes. `quotes` double quotes stand right before it; in a block two may
stand in a row, elsewhere none. -/
def escapeFrom (block : Bool) (quotes : Nat) : List Char → List Char
  | [] => []
  | c :: rest =>
    if c == '"' then
      if (if block then 2 else 0) ≤ quotes then '\\' :: '"' :: escapeFrom block 0 rest
      else '"' :: escapeFrom block (quotes + 1) rest
    else escapeChar block c ++ escapeFrom block 0 rest

/-- A string over several lines between three of a quote. -/
def block (quote : Char) (startsLine : Bool) (text : List Char) : List Char :=
  let marks := [quote, quote, quote]
  marks ++ (if startsLine then ['\n'] else []) ++ text ++ marks

/-- The string as it is written. -/
def quoteChars (s : List Char) : List Char :=
  let codes := s.any needsCode
  let backslash := s.contains '\\'
  let lines := s.contains '\n'
  let doubles := longestRun '"' s
  let singles := longestRun '\'' s
  if !codes && !backslash && doubles == 0 && !lines then '"' :: escapeFrom false 0 s ++ ['"']
  else if !codes && singles == 0 && !lines then '\'' :: s ++ ['\'']
  else if !codes && !backslash && doubles ≤ 2 then block '"' lines (escapeFrom true 0 s)
  else if !codes && singles ≤ 2 then block '\'' lines s
  else if lines then block '"' true (escapeFrom true 0 s)
  else '"' :: escapeFrom false 0 s ++ ['"']

/-- The string as it is written. -/
def quote (s : String) : String := String.ofList (quoteChars s.toList)

end Toml

end KeyTrace
