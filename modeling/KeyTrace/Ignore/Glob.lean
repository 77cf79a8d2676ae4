import KeyTrace.Text.Utf8

/-!
# Globs

The patterns of ignore files. A star matches any part of a name and a question mark one byte of it;
neither matches a slash. Two stars in a row match any number of whole names when they stand between
slashes or at an end. Classes in brackets match one byte, and braces hold alternatives. Names are
matched byte by byte.

## Main definitions

* `GlobToken`, `Glob`: what a glob consists of.
* `Glob.read`: the glob a text stands for, if it is well formed.
* `Glob.accepts`: whether a glob matches a relative path.
-/

namespace KeyTrace

/-- One piece of a glob. -/
inductive GlobToken where
  /-- The character itself. -/
  | char (c : Char)
  /-- One byte other than a slash. -/
  | one
  /-- Any bytes other than slashes. -/
  | many
  /-- Two stars at the start: nothing, or anything that ends with a slash. -/
  | leading
  /-- Two stars at the end: a slash and anything. -/
  | trailing
  /-- Two stars between slashes: a slash, or anything between two slashes. -/
  | between
  /-- One byte in one of the ranges, or in none of them. -/
  | set (negated : Bool) (ranges : List (UInt8 × UInt8))
  /-- One of several globs. -/
  | choice (branches : List (List GlobToken))
deriving Repr

/-- A glob. -/
abbrev Glob := List GlobToken

namespace Glob

/-! ### Matching -/

/-- The slash. -/
def slash : UInt8 := 0x2f

/-- All ends of a byte string, the string itself first. -/
def tails : Bytes → List Bytes
  | [] => [[]]
  | b :: rest => (b :: rest) :: tails rest

/-- What can be left after bytes other than slashes. -/
def pastName : Bytes → List Bytes
  | [] => [[]]
  | b :: rest => if b == slash then [b :: rest] else (b :: rest) :: pastName rest

/-- What is left after each slash. -/
def pastSlashes : Bytes → List Bytes
  | [] => []
  | b :: rest => if b == slash then rest :: pastSlashes rest else pastSlashes rest

/-- Ends of one byte string, each once. -/
def distinct (s : List Bytes) : List Bytes :=
  s.foldr (fun b acc => if acc.any fun x => x.length == b.length then acc else b :: acc) []

/-- What is left after the bytes of a character. -/
def pastBytes (expected : Bytes) (s : Bytes) : List Bytes :=
  if expected.isPrefixOf s then [s.drop expected.length] else []

mutual

/-- What can be left of a byte string after one piece has matched its start. -/
def restsOne (s : Bytes) : GlobToken → List Bytes
  | .char c => pastBytes (Utf8.encodeChar c) s
  | .one =>
    match s with
    | b :: rest => if b == slash then [] else [rest]
    | [] => []
  | .many => pastName s
  | .leading =>
    let anywhere := pastSlashes s
    match s with
    | b :: rest => if b == slash then s :: rest :: anywhere else s :: anywhere
    | [] => [s]
  | .trailing =>
    match s with
    | b :: rest => if b == slash then tails rest else []
    | [] => []
  | .between =>
    match s with
    | b :: rest => if b == slash then rest :: pastSlashes rest else []
    | [] => []
  | .set negated ranges =>
    match s with
    | b :: rest => if (ranges.any fun r => r.1 ≤ b && b ≤ r.2) != negated then [rest] else []
    | [] => []
  | .choice branches => if branches.isEmpty then [s] else restsAny s branches

/-- What can be left after one of several globs has matched the start. -/
def restsAny (s : Bytes) : List (List GlobToken) → List Bytes
  | [] => []
  | g :: rest => rests [s] g ++ restsAny s rest

/-- What can be left of one of several byte strings after a glob has matched its start. -/
def rests (starts : List Bytes) : List GlobToken → List Bytes
  | [] => starts
  | t :: rest => rests (distinct (starts.flatMap fun s => restsOne s t)) rest

end

/-- Whether the glob matches the whole of a relative path. Two stars alone match everything. -/
def accepts (g : Glob) (path : Bytes) : Bool :=
  match g with
  | [.leading] => true
  | _ => (rests [path] g).any List.isEmpty

/-! ### Reading -/

/-- A glob on its way: the pieces so far, last first, the branches of alternatives before them, and
what stands around the alternatives that are still open. -/
structure ReadState where
  tokens : List GlobToken
  branches : List (List GlobToken)
  outer : List (List GlobToken × List (List GlobToken))
  /-- The character before the current one. -/
  previous : Option Char
  /-- Whether a bracket was found that is never closed; further ones stand for themselves. -/
  unclosed : Bool

namespace ReadState

/-- Adds a piece. -/
def push (st : ReadState) (t : GlobToken) : ReadState := { st with tokens := t :: st.tokens }

/-- Whether a piece stands for nothing: alternatives that have all been left out. -/
def isVoid : GlobToken → Bool
  | .choice [] => true
  | _ => false

/-- The branches as alternatives; those that stand for nothing are left out. -/
def choice (st : ReadState) : List (List GlobToken) :=
  (st.tokens.reverse :: st.branches).reverse.filter fun b => !b.all isVoid

end ReadState

/-- The ranges of bytes that a range of characters stands for: the bytes of a longer character are
taken one by one, and the range goes from the last byte of the first character to the first byte
of the last one. -/
def byteRanges (lo hi : Char) : List (UInt8 × UInt8) :=
  let single := fun (b : UInt8) => (b, b)
  if lo == hi then (Utf8.encodeChar lo).map single
  else
    let low := Utf8.encodeChar lo
    let high := Utf8.encodeChar hi
    low.dropLast.map single ++ [(low.getLast?.getD 0, high.head?.getD 0)] ++ high.tail.map single

/-- Reads a class after its bracket and sign of negation. `ranges` are those so far, last first;
`first` tells that nothing has been read, and `opened` that a range waits for its end. The outer
`none` is a range in the wrong order, and the inner one a class that is never closed. -/
def readClass (ranges : List (Char × Char)) (first opened : Bool) :
    List Char → Option (Option (List (Char × Char) × List Char))
  | [] => some none
  | c :: rest =>
    if c == ']' && !first then
      some (some ((if opened then ('-', '-') :: ranges else ranges), rest))
    else if c == '-' && !first && !opened then readClass ranges false true rest
    else if opened then
      match ranges with
      | (lo, _) :: more => if c < lo then none else readClass ((lo, c) :: more) false false rest
      | [] => none
    else readClass ((c, c) :: ranges) false false rest

/-- Reads a star after which the text `s` follows; a second star and a slash after it are read too
where they belong to it. -/
def readStar (st : ReadState) (s : List Char) : ReadState × List Char :=
  match s with
  | '*' :: rest =>
    let plain := ((st.push .many).push .many, rest)
    let nested := !st.outer.isEmpty
    if st.tokens.isEmpty then
      match rest with
      | [] => (st.push .leading, [])
      | '/' :: more => (st.push .leading, more)
      | _ => plain
    else if st.previous != some '/' &&
        !(nested && (st.previous == some ',' || st.previous == some '\x7b')) then plain
    else
      let close := fun (t : GlobToken) (rest : List Char) =>
        match st.tokens with
        | .leading :: more => ({ st with tokens := .leading :: more }, rest)
        | .trailing :: more => ({ st with tokens := .trailing :: more }, rest)
        | _ :: more => ({ st with tokens := t :: more }, rest)
        | [] => (st, rest)
      match rest with
      | [] => close .trailing []
      | '/' :: more => close .between more
      | c :: _ => if nested && (c == ',' || c == '\x7d') then close .trailing rest else plain
  | _ => (st.push .many, s)

/-- Reads pieces until the text ends. -/
def readFrom : Nat → ReadState → List Char → Option ReadState
  | 0, _, _ => none
  | _ + 1, st, [] => some st
  | fuel + 1, st, c :: rest =>
    let goOn := fun (st : ReadState) (s : List Char) =>
      readFrom fuel { st with previous := some c } s
    match c with
    | '?' => goOn (st.push .one) rest
    | '*' =>
      let (st, s) := readStar st rest
      let last := if s.length + 1 < rest.length then '/' else '*'
      readFrom fuel { st with previous := some last } s
    | '[' =>
      if st.unclosed then goOn (st.push (.char '[')) rest
      else
        let (negated, body) := match rest with
          | '!' :: more => (true, more)
          | '^' :: more => (true, more)
          | _ => (false, rest)
        match readClass [] true false body with
        | none => none
        | some none => goOn { st.push (.char '[') with unclosed := true } rest
        | some (some (ranges, left)) =>
          let bytes := ranges.reverse.flatMap fun r => byteRanges r.1 r.2
          readFrom fuel { st.push (.set negated bytes) with previous := some ']' } left
    | '\x7b' =>
      let outer := (st.tokens, st.branches) :: st.outer
      goOn { st with tokens := [], branches := [], outer := outer } rest
    | '\x7d' =>
      match st.outer with
      | [] => none
      | (tokens, branches) :: outer =>
        goOn { st with tokens := .choice st.choice :: tokens, branches := branches, outer := outer }
          rest
    | ',' =>
      if st.outer.isEmpty then goOn (st.push (.char ',')) rest
      else goOn { st with tokens := [], branches := st.tokens.reverse :: st.branches } rest
    | '\\' =>
      match rest with
      | [] => none
      | k :: more => readFrom fuel { st.push (.char k) with previous := some k } more
    | _ => goOn (st.push (.char c)) rest

/-- The glob a text stands for, if it is well formed. -/
def read (s : List Char) : Option Glob :=
  (readFrom (s.length + 1) ⟨[], [], [], none, false⟩ s).bind fun st =>
    if st.outer.isEmpty then some st.tokens.reverse else none

end Glob

end KeyTrace
