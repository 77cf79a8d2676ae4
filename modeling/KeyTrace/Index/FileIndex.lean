import KeyTrace.Index.Candidates
import KeyTrace.Rule.Set
import KeyTrace.Source

/-!
# File indexes

The index of a file tells for each key which lines may refer to it: those that have a token pointing
to the key. It is built line by line, so that building can stop between two lines; the index then
covers the lines that were handled, while all lines can still be read.

The lookup over many files gives the files that may refer to a key.

## Main definitions

* `FileIndex`, `FileIndex.ofLines`: the index over the first lines of a file.
* `FileIndex.linesFor`, `FileIndex.containsKey`: where a key may be.
* `Lookup`, `Lookup.ofIndexes`, `Lookup.candidates`: the files where a key may be.
-/

namespace KeyTrace

/-- What is known about one file. -/
structure FileIndex where
  file : SourceFile
  /-- The rules that cover the file. -/
  ruleIds : List Nat
  lines : List String
  /-- For each key that may occur, the positions of the lines where it may, ascending. -/
  hits : List (String × List Nat)
deriving Repr

namespace FileIndex

/-- Whether some of the rules ignores case. -/
def ignoresCase (rules : RuleSet) (ids : List Nat) : Bool :=
  ids.any fun id => (rules.rule? id).any fun r => !r.caseSensitive

/-- The positions of the lines that point to a candidate, given the tokens of each line. -/
def hitLines (ignoreCase : Bool) (c : Candidate) (tokens : List (List (List Char))) : List Nat :=
  tokens.zipIdx.filterMap fun (ts, i) => if c.isHitBy ignoreCase ts then some i else none

/-- The index of a file with the given lines, of which the first `handled` have been looked at. -/
def ofLines (file : SourceFile) (rules : RuleSet) (candidates : Candidates)
    (lines : List String) (handled : Nat) : FileIndex :=
  let ids := rules.idsFor file.extension
  let tokens := (lines.take handled).map fun l => Token.tokens l.toList
  let ignoreCase := ignoresCase rules ids
  ⟨file, ids, lines, candidates.filterMap fun c =>
    match hitLines ignoreCase c tokens with
    | [] => none
    | hit => some (c.key, hit)⟩

/-- The index of a file that no rule covers; it is never read. -/
def unread (file : SourceFile) : FileIndex := ⟨file, [], [], []⟩

/-- Whether some rule covers the file. -/
def isApplicable (x : FileIndex) : Bool := !x.ruleIds.isEmpty

/-- The positions of the lines that may refer to a key, ascending. -/
def linesFor (x : FileIndex) (key : String) : List Nat := (x.hits.lookup key).getD []

/-- Whether some line may refer to the key. -/
def containsKey (x : FileIndex) (key : String) : Bool := (x.hits.lookup key).isSome

/-- The line at a position. -/
def line? (x : FileIndex) (i : Nat) : Option String := x.lines[i]?

end FileIndex

/-- The indexes of the files that some rule covers. -/
structure Lookup where
  files : List FileIndex
deriving Repr

namespace Lookup

/-- The lookup over some indexes; those that no rule covers are dropped. -/
def ofIndexes (indexes : List FileIndex) : Lookup := ⟨indexes.filter FileIndex.isApplicable⟩

/-- The indexes of the files that may refer to a key, in order. -/
def candidates (x : Lookup) (key : String) : List FileIndex :=
  x.files.filter fun f => f.containsKey key

/-- How many files there are. -/
def fileCount (x : Lookup) : Nat := x.files.length

/-- How many keys may occur in some file. -/
def keyCount (x : Lookup) : Nat :=
  (Ascending.texts (x.files.flatMap fun f => f.hits.map Prod.fst)).length

end Lookup

end KeyTrace
