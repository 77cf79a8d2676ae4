import KeyTrace.Pattern.Node
import KeyTrace.Text.Frequency
import KeyTrace.Text.Utf8

/-!
# What matches begin with

A pattern that spells out a few texts needs no machine: the texts are looked for as they are. To
find out, the texts are collected that a match may begin with, in the order in which they are
preferred, each with a mark that tells whether it is a whole match. Collecting gives up where there
would be too many texts, and cuts texts that would be too long; what is cut is no whole match.

The texts are then trimmed for a fast search. Where they begin alike, or are many, only their
beginnings are looked for, and the pattern needs a machine to settle the rest. Texts that turn out
too common to be worth looking for are given up, unless they are whole matches all the same.

## Main definitions

* `Opening`: a text that a match may begin with.
* `Openings`: the openings of an expression, if they are few; `Node.openings`.
* `Openings.trimmed`: the openings as they are looked for.
* `Node.isSpelledOut`: whether looking for the openings is all there is to a pattern.
-/

namespace KeyTrace

/-- A text that a match may begin with. -/
structure Opening where
  bytes : Bytes
  /-- Whether the text is a whole match, so far as it has been looked at. -/
  whole : Bool
deriving Repr, DecidableEq

namespace Opening

/-- The opening as one that something may follow. -/
def begun (o : Opening) : Opening := { o with whole := false }

/-- The first `n` bytes of the opening. -/
def keep (n : Nat) (o : Opening) : Opening :=
  if o.bytes.length ≤ n then o else ⟨o.bytes.take n, false⟩

/-- Whether the opening is so short and common that looking for it would be of no use. -/
def isCommon (o : Opening) : Bool :=
  match o.bytes with
  | [] => true
  | [b] => 250 ≤ Frequency.rank b
  | _ => false

end Opening

/-- The openings of an expression in order of preference; `none` if they are not known. -/
abbrev Openings := Option (List Opening)

namespace Openings

/-! ### Limits -/

/-- How many characters of a class are told apart. -/
def classLimit : Nat := 10

/-- How many times a repetition is followed. -/
def repeatLimit : Nat := 10

/-- How long an opening may be, in bytes. -/
def lengthLimit : Nat := 100

/-- How many openings there may be. -/
def countLimit : Nat := 250

/-- What is kept of each opening when there would be too many. -/
def shortened : Nat := 4

/-! ### Putting openings together -/

/-- The opening of the empty text. -/
def start : Openings := some [⟨[], true⟩]

/-- Puts neighbours with the same text together; they are whole if both are. -/
def mergedFrom (o : Opening) : List Opening → List Opening
  | [] => [o]
  | p :: rest =>
    if p.bytes == o.bytes then mergedFrom ⟨o.bytes, o.whole && p.whole⟩ rest
    else o :: mergedFrom p rest

/-- Puts neighbours with the same text together. -/
def merged : List Opening → List Opening
  | [] => []
  | o :: rest => mergedFrom o rest

/-- Whether nothing can be added to any of the openings. -/
def isClosed (s : Openings) : Bool := s.all fun l => l.all fun o => !o.whole

/-- Whether each opening is a whole match. -/
def isWhole (s : Openings) : Bool := s.any fun l => l.all Opening.whole

/-- The openings of what begins with one and goes on with the other. -/
def followedBy (s t : Openings) : Openings :=
  let t :=
    match s, t with
    | some l, some m => if countLimit < l.length * m.length then none else t
    | _, _ => t
  match s, t with
  | none, _ => none
  | some l, none =>
    if l.any fun o => o.bytes.isEmpty then none
    else some ((l.map Opening.begun).map (Opening.keep lengthLimit))
  | some l, some m =>
    let joined := l.flatMap fun o =>
      if o.whole then m.map fun p => ⟨o.bytes ++ p.bytes, p.whole⟩ else [o]
    some ((merged joined).map (Opening.keep lengthLimit))

/-- The openings of a choice between two things. Where there are too many, they are shortened. -/
def either (s t : Openings) : Openings :=
  match s, t with
  | some l, some m =>
    if l.length + m.length ≤ countLimit then some (merged (l ++ m))
    else
      let l := merged (l.map (Opening.keep shortened))
      let m := merged (m.map (Opening.keep shortened))
      if l.length + m.length ≤ countLimit then some (merged (l ++ m)) else none
  | _, _ => none

/-- The openings of a number of repetitions. -/
def repeated (s : Openings) : Nat → Openings
  | 0 => start
  | n + 1 =>
    let before := repeated s n
    if before.isClosed then before else before.followedBy s

/-- The openings of the characters of a class. -/
def ofClass (k : CharClass) : Openings :=
  if classLimit < k.count then none
  else
    some (((k.codes.filter fun n => n.isValidChar).map Char.ofNat).map fun c =>
      ⟨Utf8.encode [c], true⟩)

/-! ### Trimming -/

/-- Leaves out every opening that begins with an earlier one: the earlier one is preferred. -/
def leastFrom (kept : List Opening) : List Opening → List Opening
  | [] => kept.reverse
  | o :: rest =>
    if kept.any fun p => p.bytes.isPrefixOf o.bytes then leastFrom kept rest
    else leastFrom (o :: kept) rest

/-- Leaves out every opening that begins with an earlier one. -/
def least (l : List Opening) : List Opening := leastFrom [] l

/-- The text that two texts begin with. -/
def sharedBytes : Bytes → Bytes → Bytes
  | a :: rest, b :: more => if a == b then a :: sharedBytes rest more else []
  | _, _ => []

/-- The text that all openings begin with. -/
def shared : List Opening → Bytes
  | [] => []
  | o :: rest => rest.foldl (fun bs p => sharedBytes bs p.bytes) o.bytes

/-- The lengths that openings are cut to, one after the other, each with the number of openings that
there may be without. -/
def cuts : List (Nat × Nat) := [(5, 10), (4, 10), (3, 64), (2, 64), (1, 10)]

/-- Cuts openings until there are few enough. -/
def cut : List (Nat × Nat) → List Opening → List Opening
  | [], l => l
  | (length, limit) :: rest, l =>
    if l.length ≤ limit then l else cut rest (least (l.map (Opening.keep length)))

/-- Openings that begin alike, reduced to what they share if that is worth looking for. -/
def sharedOnly (l : List Opening) : List Opening :=
  let n := (shared l).length
  let isFast := l.all Opening.whole && l.length ≤ 16
  if 4 < n || (1 < n && !isFast) then merged (l.map (Opening.keep n)) else l

/-- Openings after cutting, given up if one of them is too common. Openings that were whole matches
are kept as they were when cutting does not leave a few long ones. -/
def cutOrKept (l : List Opening) : Openings :=
  let short := cut cuts l
  let useful := !short.any Opening.isCommon
  if l.all Opening.whole then
    if useful && !short.isEmpty && short.all (fun o => 2 < o.bytes.length) && short.length ≤ 64 then
      some short
    else some l
  else if useful then some short
  else none

/-- The openings as they are looked for. Several openings that share a short beginning with a rare
first byte are looked for by that byte. -/
def trimmed (s : Openings) : Openings :=
  match s with
  | none => none
  | some all =>
    if all.any fun o => o.bytes.isEmpty then none
    else
      let l := least all
      match shared l with
      | [] => cutOrKept (sharedOnly l)
      | b :: rest =>
        if 1 < all.length && rest.length < 3 && Frequency.rank b < 200 then
          some (merged (l.map (Opening.keep 1)))
        else cutOrKept (sharedOnly l)

end Openings

namespace Node

/-- How deep the expression is nested. -/
def depth : Node → Nat
  | group _ b => b.depth + 1
  | cat a b => max a.depth b.depth + 1
  | alt a b => max a.depth b.depth + 1
  | rep _ _ _ b => b.depth + 1
  | _ => 1

/-- The openings of an expression that is nested no deeper than `fuel`. A repetition that may be
left out is a choice between its body and the empty text, in the order of greed. -/
def openingsFrom : Nat → Node → Openings
  | 0, _ => none
  | fuel + 1, n =>
    match n with
    | empty => Openings.start
    | look _ => Openings.start
    | literal cs => some [(⟨Utf8.encode cs, true⟩ : Opening).keep Openings.lengthLimit]
    | set k => Openings.ofClass k
    | group _ b => b.openingsFrom fuel
    | cat _ _ =>
      let add := fun (s : Openings) (m : Node) =>
        if s.isClosed then s else s.followedBy (m.openingsFrom fuel)
      n.members.foldl add Openings.start
    | alt _ _ =>
      let add := fun (s : Openings) (m : Node) =>
        if s.isNone then s else s.either (m.openingsFrom fuel)
      n.branches.foldl add (some [])
    | rep lo hi greedy b =>
      let body := b.openingsFrom fuel
      if lo == 0 then
        let body := if hi == some 1 then body else body.map fun l => l.map Opening.begun
        if greedy then body.either Openings.start else Openings.start.either body
      else
        let s := body.repeated (min lo Openings.repeatLimit)
        if hi == some lo && lo ≤ Openings.repeatLimit then s
        else s.map fun l => l.map Opening.begun

/-- The openings of an expression. -/
def openings (n : Node) : Openings := n.openingsFrom n.depth

/-- Whether the expression notes no group and asserts nothing. -/
def isPlain : Node → Bool
  | look _ => false
  | group _ _ => false
  | cat a b => a.isPlain && b.isPlain
  | alt a b => a.isPlain && b.isPlain
  | rep _ _ _ b => b.isPlain
  | _ => true

/-- How many texts a choice must be made of for the texts to be looked for as they are. -/
def manyTexts : Nat := 3000

/-- Whether looking for the openings is all there is to the pattern. A choice between very many
texts is looked for as it is, too. -/
def isSpelledOut (n : Node) : Bool :=
  n.isPlain &&
    ((n.openings.trimmed.isWhole && n.openings.trimmed != some []) ||
      (manyTexts ≤ n.branches.length && n.branches.all fun b =>
        match b with
        | literal _ => true
        | _ => false))

end Node

end KeyTrace
