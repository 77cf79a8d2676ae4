import KeyTrace.Pattern.Node
import KeyTrace.Text.ByteForm
import KeyTrace.Text.Utf8
import Std.Data.HashSet

/-!
# The size of a pattern

A compiled pattern must not grow beyond a limit, because repetitions with counts can make a short
text arbitrarily large. What is measured is a machine that reads bytes: each state takes a fixed
room, and so does each way out of a state that has several. There are two such machines, one that
reads forwards and notes groups, and one that reads backwards; the larger one counts.

A class is read forwards by the smallest machine for its byte forms, in which whatever may follow
is shared; backwards, only what comes before is shared. A choice between plain texts is a tree of
their bytes.

## Main definitions

* `Direction`: which way a machine reads.
* `CharClass.measure`, `CharClass.bytes`: the size of a class.
* `ByteTree`: texts that share their beginnings; `ByteTree.bytes`.
* `Node.bytes`: the size of an expression.
* `Node.size`: the size of a whole pattern.
-/

namespace KeyTrace

/-- Which way a machine reads. -/
inductive Direction where
  | forward
  | backward
deriving Repr, DecidableEq

/-- The size of one state. -/
def stateBytes : Nat := 32

/-- The size of one range of bytes that a state tells from others. -/
def rangeBytes : Nat := 8

/-- The size of one way out of a state that reads nothing. -/
def branchBytes : Nat := 4

/-! ### Classes -/

namespace ByteForm

/-- The states of a machine that reads the forms and shares what may follow; a state is what is left
to be read there. -/
def states : Nat → List ByteForm → List (List ByteForm)
  | 0, _ => []
  | fuel + 1, forms =>
    if forms.all List.isEmpty then []
    else forms :: (groups forms).flatMap fun g => states fuel g.2

/-- The number of different beginnings of the forms. -/
def beginnings : Nat → List ByteForm → Nat
  | 0, _ => 0
  | fuel + 1, forms => (groups forms).foldl (fun n g => n + 1 + beginnings fuel g.2) 0

/-- The most bytes that a character has. -/
def longest : Nat := 4

/-- The size of the machine that shares what may follow. -/
def sharedBytes (forms : List ByteForm) : Nat :=
  let step := fun (p : Std.HashSet (List ByteForm) × Nat) (s : List ByteForm) =>
    if p.1.contains s then p
    else (p.1.insert s, p.2 + stateBytes + rangeBytes * (groups s).length)
  ((states longest forms).foldl step (∅, 0)).2

end ByteForm

namespace CharClass

/-- Whether all characters of the class are ASCII. -/
def isAscii (k : CharClass) : Bool := k.getLast?.all fun p => p.2 < 0x80

/-- The size of a class, worked out. The characters of ASCII are told apart by a single state. -/
def measure (d : Direction) (k : CharClass) : Nat :=
  if k.isAscii then 2 * stateBytes + rangeBytes * k.length
  else
    let forms := ByteForm.ofRuns k
    match d with
    | .forward => stateBytes + ByteForm.sharedBytes forms
    | .backward =>
      2 * stateBytes + branchBytes * forms.length +
        stateBytes * ByteForm.beginnings ByteForm.longest forms

/-- The classes that patterns use most, with their sizes in either direction: they are worked out
only once. -/
def measured : List (CharClass × Nat × Nat) :=
  let words := [word true, digit true, space true, single '\n']
  (words ++ words.map Runs.compl).map fun k => (k, k.measure .forward, k.measure .backward)

/-- The size of a class. -/
def bytes (d : Direction) (k : CharClass) : Nat :=
  match measured.find? fun p => p.1 == k with
  | some (_, forward, backward) => if d = .forward then forward else backward
  | Option.none => k.measure d

theorem bytes_eq_measure (d : Direction) (k : CharClass) : k.bytes d = k.measure d := by
  unfold bytes
  split
  · next p f b h =>
    have hk := List.find?_some h
    have hm := List.mem_of_find?_eq_some h
    simp only [beq_iff_eq] at hk
    simp only [measured, List.mem_map, Prod.mk.injEq] at hm
    obtain ⟨_, _, h1, h2, h3⟩ := hm
    subst h1 hk
    cases d <;> simp [h2, h3]
  · rfl

end CharClass

/-! ### Choices between texts -/

/-- Texts that share their beginnings. A node has several rounds of ways out, in order: between two
rounds, a text ends there. -/
inductive ByteTree where
  /-- No text, and no text ends here. -/
  | leaf
  /-- One more way out of the node, in the current round. -/
  | way (byte : UInt8) (under : ByteTree) (rest : ByteTree)
  /-- A text ends here, and a new round begins. -/
  | ends (rest : ByteTree)
deriving Repr

namespace ByteTree

/-- The tree of a single text. -/
def ofBytes : Bytes → ByteTree
  | [] => ends leaf
  | b :: rest => way b (ofBytes rest) leaf

/-- Whether another round follows. -/
def hasEnd : ByteTree → Bool
  | leaf => false
  | way _ _ rest => rest.hasEnd
  | ends _ => true

/-- Adds a text. A byte joins a way out of the last round only. A text that ends where the last one
ended makes a new round, unless there is no way out before it, as `hasWay` tells. -/
def insert : ByteTree → Bool → Bytes → ByteTree
  | leaf, _, bs => ofBytes bs
  | ends leaf, hasWay, [] => if hasWay then ends (ends leaf) else ends leaf
  | ends rest, hasWay, bs => ends (rest.insert hasWay bs)
  | way b under rest, _, [] => way b under (rest.insert true [])
  | way b under rest, _, c :: cs =>
    if b == c && !rest.hasEnd then way b (under.insert false cs) rest
    else way b under (rest.insert true (c :: cs))

/-- Whether there is no way out. -/
def isLeaf : ByteTree → Bool
  | leaf => true
  | way _ _ _ => false
  | ends rest => rest.isLeaf

/-- The size of a round with the given number of ways out: none, a plain state, or one that tells
bytes apart. -/
def roundBytes (ways : Nat) : Nat :=
  if ways == 0 then 0
  else branchBytes + stateBytes + (if ways == 1 then 0 else rangeBytes * ways)

/-- The size of the rounds from here on and of all nodes under them; `ways` counts the ways out of
the current round so far. -/
def bytesFrom (ways : Nat) : ByteTree → Nat
  | leaf => roundBytes ways
  | way _ under rest =>
    (if under.isLeaf then 0 else stateBytes + under.bytesFrom 0) + rest.bytesFrom (ways + 1)
  | ends rest => roundBytes ways + branchBytes + rest.bytesFrom 0

/-- The size of the machine that reads the texts of the tree. -/
def bytes (t : ByteTree) : Nat := 2 * stateBytes + t.bytesFrom 0

end ByteTree

/-! ### Expressions -/

namespace Node

/-- The bytes of a plain text. -/
def text? : Node → Option Bytes
  | literal cs => some (Utf8.encode cs)
  | _ => none

/-- The size of a choice between plain texts, if the expression is one. -/
def textChoiceBytes? (d : Direction) (n : Node) : Option Nat :=
  (n.branches.mapM text?).map fun texts =>
    let read := fun (bs : Bytes) => match d with
      | .forward => bs
      | .backward => bs.reverse
    ((texts.map read).foldl (fun t bs => t.insert false bs) ByteTree.leaf).bytes

/-- The size of an alternative: inside a choice, there is a way into it. -/
def within (inside : Bool) (n : Nat) : Nat := if inside then branchBytes + n else n

/-- The size of an expression, alone or inside a choice. A repetition holds a copy of its body for
each time it is counted, and a loop for an open end. -/
def bytesIn (d : Direction) : Node → Bool → Nat
  | empty, inside => within inside stateBytes
  | literal cs, inside => within inside (stateBytes * (Utf8.encode cs).length)
  | set k, inside => within inside (k.bytes d)
  | look _, inside => within inside stateBytes
  | group _ b, inside =>
    within inside (b.bytesIn d false + if d = .forward then 2 * stateBytes else 0)
  | cat a b, inside => within inside (a.bytesIn d false + b.bytesIn d false)
  | alt a b, inside =>
    if inside then a.bytesIn d true + b.bytesIn d true
    else
      match (alt a b).textChoiceBytes? d with
      | some n => n
      | none => 2 * stateBytes + a.bytesIn d true + b.bytesIn d true
  | rep lo hi _ b, inside =>
    let body := b.bytesIn d false
    let fork := stateBytes + 2 * branchBytes
    within inside <|
      match hi with
      | none =>
        if lo == 0 then if b.takesText then fork + body else 2 * fork + stateBytes + body
        else lo * body + fork
      | some h =>
        if lo == h then lo * body
        else if lo == 0 && h == 1 then fork + body + stateBytes
        else (if lo == 0 then stateBytes else lo * body) + stateBytes + (h - lo) * (fork + body)

/-- The size of an expression. -/
def bytes (d : Direction) (n : Node) : Nat := n.bytesIn d false

/-- Whether every match begins at the start of the text, so that no other start need be tried. -/
def fromStart : Node → Bool
  | look l => l == .textStart
  | group _ b => b.fromStart
  | cat a b => a.fromStart || (a.zeroWidth && b.fromStart)
  | alt a b => a.fromStart && b.fromStart
  | rep lo _ _ b => 0 < lo && b.fromStart
  | _ => false

/-- Whether every match ends at the end of the text. -/
def toEnd : Node → Bool
  | look l => l == .textEnd
  | group _ b => b.toEnd
  | cat a b => b.toEnd || (b.zeroWidth && a.toEnd)
  | alt a b => a.toEnd && b.toEnd
  | rep lo _ _ b => 0 < lo && b.toEnd
  | _ => false

/-- The size of the loop that passes over what comes before a match, or of what stands in for it. -/
def lead (anchored : Bool) : Nat :=
  if anchored then stateBytes
  else stateBytes + 2 * branchBytes + 2 * stateBytes + rangeBytes

/-- The size of a whole pattern. Read forwards, the match as a whole is noted as a group. -/
def size (n : Node) : Nat :=
  max (lead n.fromStart + 2 * stateBytes + n.bytes .forward + stateBytes)
    (lead n.toEnd + n.bytes .backward + stateBytes)

end Node

end KeyTrace
