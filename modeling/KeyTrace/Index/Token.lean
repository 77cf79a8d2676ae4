import KeyTrace.Text.Pieces
import KeyTrace.Text.Word

/-!
# Tokens

Lines and keys are cut into tokens, runs of ASCII word characters. A key is looked up by a single
one of its tokens, its probe: the longest, and the first of several.

## Main definitions

* `Token.tokens`: the tokens of a text.
* `Token.probe`: the probe of a key, if it has a token.
-/

namespace KeyTrace

namespace Token

/-- The tokens of a text, in order. -/
def tokens (s : List Char) : List (List Char) :=
  (Pieces.cut (fun c => !Word.isAsciiWord c) s).filter fun t => !t.isEmpty

/-- The longer of two tokens, the first one if they are equally long. -/
def longer (best : Option (List Char)) (t : List Char) : Option (List Char) :=
  match best with
  | some b => if t.length ≤ b.length then some b else some t
  | none => some t

/-- The longest token of a key, the first of several. -/
def probe (key : List Char) : Option (List Char) := (tokens key).foldl longer none

end Token

end KeyTrace
