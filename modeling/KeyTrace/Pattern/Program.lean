import KeyTrace.Pattern.Node

/-!
# Programs

A pattern runs as a list of instructions, each of which names the instructions that may follow it.
The code of an expression is laid out at a given address and goes on to a given next one, so that
it is put together from the code of its parts without any later patching: an expression starts at
its own address and takes up exactly `Node.codeSize` instructions.

## Main definitions

* `Inst`: instructions.
* `Node.code`, `Node.codeSize`: the code of an expression and its length.
* `Program.ofNode`: the program of a whole pattern, whose match is noted as group zero.
-/

namespace KeyTrace

/-- One instruction. -/
inductive Inst where
  /-- The pattern has matched. -/
  | accept
  /-- Takes one character of the class. -/
  | set (k : CharClass) (next : Nat)
  /-- Goes on if the assertion holds. -/
  | look (l : Look) (next : Nat)
  /-- Notes the position in a slot. -/
  | save (slot next : Nat)
  /-- Goes on. -/
  | jump (next : Nat)
  /-- Goes on at `first` or, failing that, at `second`. -/
  | split (first second : Nat)
deriving Repr

namespace Node

/-- A fork between going into a body and leaving it, in the order of greed. -/
def fork (greedy : Bool) (body leave : Nat) : Inst :=
  if greedy then .split body leave else .split leave body

/-- The code of a text, one instruction for each character. -/
def textCode : List Char → Nat → Nat → List Inst
  | [], _, exit => [.jump exit]
  | [c], _, exit => [.set (CharClass.single c) exit]
  | c :: rest, base, exit =>
    .set (CharClass.single c) (base + 1) :: textCode rest (base + 1) exit

/-- How many instructions the expression takes up. -/
def codeSize : Node → Nat
  | empty => 1
  | literal cs => max 1 cs.length
  | set _ => 1
  | look _ => 1
  | group _ b => b.codeSize + 2
  | cat a b => a.codeSize + b.codeSize
  | alt a b => a.codeSize + b.codeSize + 1
  | rep lo hi _ b =>
    match hi with
    | none =>
      if lo == 0 then if b.takesText then b.codeSize + 1 else b.codeSize + 2
      else lo * b.codeSize + 1
    | some h => lo * b.codeSize + (h - lo) * (b.codeSize + 1) + 1

/-- Code of the given length laid out `n` times in a row from `base` on; the last copy goes on to
`exit`. -/
def copies (code : Nat → Nat → List Inst) (size : Nat) : Nat → Nat → Nat → List Inst
  | 0, _, _ => []
  | 1, base, exit => code base exit
  | n + 2, base, exit => code base (base + size) ++ copies code size (n + 1) (base + size) exit

/-- Code that may be left before each of `n` copies. -/
def optionals (code : Nat → Nat → List Inst) (size : Nat) (greedy : Bool) :
    Nat → Nat → Nat → List Inst
  | 0, _, _ => []
  | n + 1, base, exit =>
    fork greedy (base + 1) exit ::
      (code (base + 1) (base + 1 + size) ++ optionals code size greedy n (base + 1 + size) exit)

/-- The code of the expression at address `base`, going on to `exit`. A loop whose body is not known
to take any text is entered through a fork of its own, so that its first round is tried even if
that matches nothing. -/
def code : Node → Nat → Nat → List Inst
  | empty, _, exit => [.jump exit]
  | literal cs, base, exit => textCode cs base exit
  | set k, _, exit => [.set k exit]
  | look l, _, exit => [.look l exit]
  | group i b, base, exit =>
    .save (2 * i) (base + 1) ::
      (b.code (base + 1) (base + 1 + b.codeSize) ++ [.save (2 * i + 1) exit])
  | cat a b, base, exit =>
    a.code base (base + a.codeSize) ++ b.code (base + a.codeSize) exit
  | alt a b, base, exit =>
    .split (base + 1) (base + 1 + a.codeSize) ::
      (a.code (base + 1) exit ++ b.code (base + 1 + a.codeSize) exit)
  | rep lo hi greedy b, base, exit =>
    let size := b.codeSize
    match hi with
    | none =>
      if lo == 0 then
        if b.takesText then fork greedy (base + 1) exit :: b.code (base + 1) base
        else
          fork greedy (base + 1) exit ::
            (b.code (base + 1) (base + 1 + size) ++ [fork greedy (base + 1) exit])
      else
        copies b.code size lo base (base + lo * size) ++
          [fork greedy (base + (lo - 1) * size) exit]
    | some h =>
      copies b.code size lo base (base + lo * size) ++
        optionals b.code size greedy (h - lo) (base + lo * size)
          (base + lo * size + (h - lo) * (size + 1)) ++ [.jump exit]

end Node

/-- The instructions of a pattern; it starts at the first one. -/
abbrev Program := Array Inst

namespace Program

/-- The program that matches the expression and notes the whole match as group zero. -/
def ofNode (n : Node) : Program :=
  let whole := Node.group 0 n
  ((whole.code 0 whole.codeSize) ++ [Inst.accept]).toArray

end Program

end KeyTrace
