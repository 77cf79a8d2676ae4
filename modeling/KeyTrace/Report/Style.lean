/-!
# Styled text

On a terminal, text is set off by sequences that switch a style on before it and everything off
after it. Where styles are switched off the text stays as it is.

## Main definitions

* `Style`, `Style.codes`: the styles in use and their codes.
* `Style.paint`: a text in a style.
-/

namespace KeyTrace

/-- A style of text. -/
inductive Style where
  | bold
  | dimmed
  | yellow
  | green
  | cyan
  | boldRed
  | boldYellow
deriving Repr, DecidableEq

namespace Style

/-- The codes of a style. -/
def codes : Style → String
  | bold => "1"
  | dimmed => "2"
  | yellow => "33"
  | green => "32"
  | cyan => "36"
  | boldRed => "1;31"
  | boldYellow => "1;33"

/-- The sequence that switches a style on. -/
def start (s : Style) : List Char := '\x1b' :: '[' :: s.codes.toList ++ ['m']

/-- The sequence that switches everything off. -/
def reset : List Char := ['\x1b', '[', '0', 'm']

/-- The text with the style switched on again after each sequence in it that switches everything
off. `skip` characters belong to such a sequence. -/
def restart (on : List Char) : Nat → List Char → List Char
  | 0, [] => []
  | 0, c :: rest =>
    if reset.isPrefixOf (c :: rest) then c :: restart on 3 rest else c :: restart on 0 rest
  | 1, [] => []
  | 1, c :: rest => c :: on ++ restart on 0 rest
  | _ + 2, [] => []
  | n + 2, c :: rest => c :: restart on (n + 1) rest

/-- A text in a style, if styles are on. -/
def paint (color : Bool) (s : Style) (text : String) : String :=
  if color then String.ofList (s.start ++ restart s.start 0 text.toList ++ reset) else text

end Style

end KeyTrace
