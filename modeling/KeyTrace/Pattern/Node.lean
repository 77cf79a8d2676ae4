import KeyTrace.Pattern.CharClass

/-!
# Pattern expressions

What a pattern means once its text has been read: characters, assertions, groups, sequences,
alternatives and repetitions. The alternatives of a pattern are ordered, and so are the ways to
match a repetition; the first way that leads to a match is the match.

Expressions are put together by functions that simplify them: neighbouring characters become one
text, sequences and alternatives are flattened, alternatives of single characters become a class,
and a sequence that all alternatives begin with is taken out in front of them. What an expression
means, which of two matches it prefers and how large it is when compiled, all follow the simplified
form.

## Main definitions

* `Look`: assertions about the place between two characters; `Look.holds`.
* `Node`: expressions.
* `Node.least?`, `Node.zeroWidth`: how much text an expression takes.
* `Node.ofClass`, `Node.sequence`, `Node.choice`, `Node.repeated`: expressions, simplified.
-/

namespace KeyTrace

/-- An assertion about the place between two characters. -/
inductive Look where
  /-- The start of the text. -/
  | textStart
  /-- The end of the text. -/
  | textEnd
  /-- The start of a line, lines ending at a line feed. -/
  | lineStart
  /-- The end of a line, lines ending at a line feed. -/
  | lineEnd
  /-- The start of a line, lines ending at a carriage return, a line feed or both. -/
  | lineStartCrLf
  /-- The end of a line, lines ending at a carriage return, a line feed or both. -/
  | lineEndCrLf
  /-- A word character on exactly one side. -/
  | wordBoundary (unicode : Bool)
  /-- Word characters on both sides or on none. -/
  | notWordBoundary (unicode : Bool)
  /-- A word character on the right side only. -/
  | wordStart (unicode : Bool)
  /-- A word character on the left side only. -/
  | wordEnd (unicode : Bool)
  /-- No word character on the left side. -/
  | wordStartHalf (unicode : Bool)
  /-- No word character on the right side. -/
  | wordEndHalf (unicode : Bool)
deriving Repr, DecidableEq

namespace Look

/-- A word character of Unicode or of ASCII. -/
def isWord (unicode : Bool) (c : Char) : Bool :=
  if unicode then Word.isWord c else Word.isAsciiWord c

/-- Whether the assertion holds between the characters `before` and `after`; `none` stands for the
end of the text on that side. -/
def holds (before after : Option Char) : Look → Bool
  | textStart => before.isNone
  | textEnd => after.isNone
  | lineStart => before.all fun c => c == '\n'
  | lineEnd => after.all fun c => c == '\n'
  | lineStartCrLf =>
    match before with
    | none => true
    | some c => c == '\n' || (c == '\r' && after != some '\n')
  | lineEndCrLf =>
    match after with
    | none => true
    | some c => c == '\r' || (c == '\n' && before != some '\r')
  | wordBoundary u => before.any (isWord u) != after.any (isWord u)
  | notWordBoundary u => before.any (isWord u) == after.any (isWord u)
  | wordStart u => !before.any (isWord u) && after.any (isWord u)
  | wordEnd u => before.any (isWord u) && !after.any (isWord u)
  | wordStartHalf u => !before.any (isWord u)
  | wordEndHalf u => !after.any (isWord u)

end Look

/-- A pattern expression. -/
inductive Node where
  /-- The empty text. -/
  | empty
  /-- The given text, which is not empty. -/
  | literal (cs : List Char)
  /-- One character of a class. -/
  | set (k : CharClass)
  /-- The empty text at a place where the assertion holds. -/
  | look (l : Look)
  /-- What the body matches, noted as the group of the given number. -/
  | group (index : Nat) (body : Node)
  /-- The first, then the second. -/
  | cat (a b : Node)
  /-- The first or, failing that, the second. -/
  | alt (a b : Node)
  /-- The body `lo` times at least and `hi` times at most, as often as possible if `greedy`, and
  as rarely as possible otherwise. -/
  | rep (lo : Nat) (hi : Option Nat) (greedy : Bool) (body : Node)
deriving Repr, DecidableEq

namespace Node

/-- The expression that matches nothing. -/
def fail : Node := set CharClass.none

/-! ### How much text an expression takes -/

/-- A lower bound on the number of characters the expression takes. There is none for an expression
with a part that matches nothing, even where the part may be passed over. -/
def least? : Node → Option Nat
  | empty => some 0
  | literal cs => some cs.length
  | set k => if k.isEmpty then none else some 1
  | look _ => some 0
  | group _ b => b.least?
  | cat a b =>
    match a.least?, b.least? with
    | some m, some n => some (m + n)
    | _, _ => none
  | alt a b =>
    match a.least?, b.least? with
    | some m, some n => some (min m n)
    | _, _ => none
  | rep lo _ _ b => b.least?.map fun n => lo * n

/-- Whether the expression is known to take some text. -/
def takesText (n : Node) : Bool := n.least?.any fun k => 0 < k

/-- Whether the expression can match nothing but the empty text. -/
def zeroWidth : Node → Bool
  | empty => true
  | literal _ => false
  | set _ => false
  | look _ => true
  | group _ b => b.zeroWidth
  | cat a b => a.zeroWidth && b.zeroWidth
  | alt a b => a.zeroWidth && b.zeroWidth
  | rep _ _ _ b => b.zeroWidth

/-! ### Simplified expressions -/

/-- One character of a class; a class of one character is that character. -/
def ofClass (k : CharClass) : Node :=
  match k.single? with
  | some c => literal [c]
  | none => set k

/-- The members of a sequence. -/
def members : Node → List Node
  | empty => []
  | cat a b => a.members ++ b.members
  | n => [n]

/-- Puts neighbouring texts together. -/
def mergeTexts : List Node → List Node
  | [] => []
  | literal cs :: rest =>
    match mergeTexts rest with
    | literal ds :: more => literal (cs ++ ds) :: more
    | merged => literal cs :: merged
  | n :: rest => n :: mergeTexts rest

/-- A sequence of members as they are. -/
def cats : List Node → Node
  | [] => empty
  | [a] => a
  | a :: rest => cat a (cats rest)

/-- Several expressions in a row. -/
def sequence (nodes : List Node) : Node := cats (mergeTexts (nodes.flatMap members))

/-- The alternatives of a choice. -/
def branches : Node → List Node
  | alt a b => a.branches ++ b.branches
  | n => [n]

/-- Alternatives as they are, the first one first. -/
def alts : List Node → Node
  | [] => fail
  | [a] => a
  | a :: rest => alt a (alts rest)

/-- The character of a text of one character. -/
def char? : Node → Option Char
  | literal [c] => some c
  | _ => none

/-- The class of an expression that is nothing else. -/
def class? : Node → Option CharClass
  | set k => some k
  | _ => none

/-- The members of an expression that is a sequence. -/
def sequence? : Node → Option (List Node)
  | cat a b => some (cat a b).members
  | _ => none

/-- The longest list that two lists begin with. -/
def sharedPrefix : List Node → List Node → List Node
  | a :: rest, b :: more => if a = b then a :: sharedPrefix rest more else []
  | _, _ => []

/-- The longest list that all of the lists begin with. -/
def sharedPrefixes : List (List Node) → List Node
  | [] => []
  | s :: rest => rest.foldl sharedPrefix s

/-- The choice between several alternatives, the first one first. `fuel` bounds how often a sequence
is taken out in front. -/
def choiceFrom : Nat → List Node → Node
  | 0, nodes => alts nodes
  | fuel + 1, nodes =>
    match nodes.flatMap branches with
    | [] => fail
    | [a] => a
    | bs =>
      match bs.mapM char?, bs.mapM class?, bs.mapM sequence? with
      | some cs, _, _ => ofClass (Runs.ofChars cs)
      | none, some ks, _ => ofClass (Runs.unions ks)
      | none, none, some lists =>
        match sharedPrefixes lists with
        | [] => alts bs
        | front =>
          let rest := choiceFrom fuel (lists.map fun l => sequence (l.drop front.length))
          sequence (front ++ [rest])
      | none, none, none => alts bs

/-- How many members the sequences among the alternatives have. -/
def breadth (nodes : List Node) : Nat :=
  (nodes.flatMap branches).foldl (fun n b => n + b.members.length + 1) 1

/-- The choice between several alternatives, the first one first. -/
def choice (nodes : List Node) : Node := choiceFrom (breadth nodes) nodes

/-- A repetition. What matches only the empty text is repeated once at most; no repetition at all
is the empty text, and a single one the body. -/
def repeated (lo : Nat) (hi : Option Nat) (greedy : Bool) (body : Node) : Node :=
  let (lo, hi) :=
    if body.zeroWidth then (min lo 1, some ((hi.getD 1).min 1)) else (lo, hi)
  if lo == 0 && hi == some 0 then empty
  else if lo == 1 && hi == some 1 then body
  else rep lo hi greedy body

end Node

end KeyTrace
