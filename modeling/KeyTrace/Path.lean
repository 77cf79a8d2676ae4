import KeyTrace.Ascending
import KeyTrace.Text.Pieces
import KeyTrace.Text.Utf8

/-!
# Paths

A path is kept as the bytes it was written as, which need not be a text; to show it, what is no
text becomes replacement characters. What it means are its parts: doubled slashes, slashes at the
end and single dots between other parts make no difference, so `a//b/.` and `a/b` are equal.
Comparing, stripping and joining paths go by parts.

## Main definitions

* `Path`, `Path.Part`, `Path.parts`: paths and their parts.
* `Path.display`, `Path.nameText`: the text a path or its file name is shown as.
* `Path.compare`: the order of paths.
* `Path.fileName?`, `Path.stem?`, `Path.extension?`, `Path.textExtension?`, `Path.parent?`: parts of
  a path as it is written.
* `Path.join`, `Path.strip?`: a path below another one, and the path relative to it.
-/

namespace KeyTrace

/-- A path, as it was written. -/
abbrev Path := Bytes

namespace Path

/-- The text a path is shown as. -/
def display (p : Path) : String := Utf8.lossy p

/-- The byte between the parts of a path. -/
def slash : UInt8 := 0x2f

/-- The byte in front of an extension. -/
def dot : UInt8 := 0x2e

/-- One part of a path. The order of the constructors is the order of parts. -/
inductive Part where
  /-- The root of the file system. -/
  | root
  /-- The current folder, at the start of a path only. -/
  | here
  /-- The folder above. -/
  | up
  /-- A name. -/
  | name (n : Bytes)
deriving Repr, DecidableEq

/-- A part and the positions in the path where it starts and ends. -/
structure Placed where
  part : Part
  start : Nat
  stop : Nat
deriving Repr

/-- The part a piece between slashes stands for; empty pieces and single dots are none. -/
def partOf? (piece : Bytes) : Option Part :=
  if piece == [] || piece == [dot] then none
  else if piece == [dot, dot] then some .up
  else some (.name piece)

/-- The parts of the pieces between slashes, the first of which starts at position `start`. -/
def placeFrom (start : Nat) : List Bytes → List Placed
  | [] => []
  | piece :: rest =>
    let after := placeFrom (start + piece.length + 1) rest
    match partOf? piece with
    | some part => ⟨part, start, start + piece.length⟩ :: after
    | none => after

/-- Whether a path starts at the root. -/
def isAbsolute (p : Path) : Bool := p.head? == some slash

/-- The pieces of a path between its slashes. -/
def pieces (p : Path) : List Bytes := Pieces.cut (fun b => b == slash) p

/-- The part that a path begins with, if that is not a name or the folder above. -/
def opening (p : Path) : List Part :=
  if p.isAbsolute then [.root] else if p.pieces.head? == some [dot] then [.here] else []

/-- The parts of a path with their places. -/
def placed (p : Path) : List Placed :=
  p.opening.map (fun part => ⟨part, 0, 1⟩) ++ placeFrom 0 p.pieces

/-- The parts of a path. -/
def parts (p : Path) : List Part := (placed p).map Placed.part

/-- The place of a part in the order of kinds of parts. -/
def Part.rank : Part → Nat
  | root => 0
  | here => 1
  | up => 2
  | name _ => 3

/-- The order of parts. -/
def Part.compare : Part → Part → Ordering
  | name a, name b => compareBytes a b
  | a, b => Ord.compare a.rank b.rank

/-- The order of paths, part by part. -/
def compare (p q : Path) : Ordering := compareList Part.compare p.parts q.parts

/-- Whether two paths have the same parts. -/
def same (p q : Path) : Bool := p.parts == q.parts

/-- The last part, if it is a name. -/
def fileName? (p : Path) : Option Bytes :=
  match p.parts.getLast? with
  | some (.name n) => some n
  | _ => none

/-- The file name as it is shown; empty if the path has none. -/
def nameText (p : Path) : String := ((fileName? p).map Utf8.lossy).getD ""

/-- What stands before and after the last dot of a name. A dot at its start does not count. -/
def cutLastDot (name : Bytes) : Option (Bytes × Bytes) :=
  (Pieces.cutFirst (fun b => b == dot) name.reverse).bind fun (after, before) =>
    if before.isEmpty then none else some (before.reverse, after.reverse)

/-- The file name without its extension. -/
def stem? (p : Path) : Option Bytes :=
  (fileName? p).map fun n =>
    match cutLastDot n with
    | some (before, _) => before
    | none => n

/-- What follows the last dot of the file name. -/
def extension? (p : Path) : Option Bytes :=
  (fileName? p).bind fun n => (cutLastDot n).map Prod.snd

/-- The extension, if it is a text. -/
def textExtension? (p : Path) : Option String := (extension? p).bind Utf8.text?

/-- The piece of the path between two positions. -/
def slice (p : Path) (start stop : Nat) : Path := (p.drop start).take (stop - start)

/-- The path without its last part; the root and the empty path have no parent. -/
def parent? (p : Path) : Option Path :=
  match (placed p).reverse with
  | [] => none
  | [a] => if a.part == .root then none else some []
  | _ :: b :: _ => some (slice p 0 b.stop)

/-- A path below another one. -/
def join (base p : Path) : Path :=
  if isAbsolute p then p
  else if base.isEmpty then p
  else if base.getLast? == some slash then base ++ p
  else base ++ slash :: p

/-- The rest of a path after the parts of `base`, as it was written; none if the path does not begin
with these parts. -/
def strip? (p base : Path) : Option Path :=
  let mine := placed p
  let front := parts base
  if front.isPrefixOf (mine.map Placed.part) then
    match mine.drop front.length with
    | [] => some []
    | first :: rest =>
      let start := if front.isEmpty then 0 else first.start
      some (slice p start ((first :: rest).getLast?.elim 0 Placed.stop))
  else none

end Path

end KeyTrace
