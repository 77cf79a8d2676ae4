import KeyTrace.Rule
import KeyTrace.Text.Utf8

/-!
# Matching lines

A rule compiled for one container and key decides for a line whether it holds a reference, and
cuts the line into segments: plain text and matched text in turn, beginning and ending with plain
text, so that the segments always make up the line.

A rule without a template takes the occurrence of the key that is nearest to the container's name.
A template is matched against the line with one space added on each side, so that it can ask for a
character around the reference at the edges of the line too; its groups are what is matched, and
the whole match is if it has none.

## Main definitions

* `LineMatcher`, `LineMatcher.compile`: a rule for one container and key.
* `LineMatcher.apply`: the segments of a line, if it matches.
* `Segments.cut`: a line cut at spans.
* `Rule.matchOnce`: one line against a rule that is compiled for it only.
-/

namespace KeyTrace

/-- A line cut up: plain and matched text in turn. -/
abbrev Segments := List String

namespace Segments

/-- The characters of a text from one position to another. -/
def slice (line : List Char) (start stop : Nat) : String :=
  String.ofList ((line.drop start).take (stop - start))

/-- The segments of a line from position `cursor` on, cut at the spans. -/
def cutFrom (line : List Char) (cursor : Nat) : List Span → Segments
  | [] => [String.ofList (line.drop cursor)]
  | s :: rest => slice line cursor s.start :: slice line s.start s.stop :: cutFrom line s.stop rest

/-- The segments of a line cut at the spans. -/
def cut (line : List Char) (spans : List Span) : Segments := cutFrom line 0 spans

/-- The matched segments: every second one. -/
def matched : Segments → List String
  | [] => []
  | [_] => []
  | _ :: m :: rest => m :: matched rest

/-- The line that the segments make up. -/
def line (s : Segments) : String := String.join s

end Segments

/-- The position of the first occurrence of a text in another one. -/
def indexOf? (needle : List Char) : List Char → Option Nat
  | [] => if needle.isEmpty then some 0 else none
  | c :: rest =>
    if needle.isPrefixOf (c :: rest) then some 0 else (indexOf? needle rest).map fun i => i + 1

/-- What a compiled rule looks for. -/
inductive Sought where
  /-- The key as plain text, near the container if that is given. -/
  | literal (key : Pattern) (container : Option Pattern)
  /-- A template filled in. -/
  | template (pattern : Pattern)

/-- A rule compiled for one container and key. -/
structure LineMatcher where
  sought : Sought
  commentToken : Option String

namespace LineMatcher

/-- The size allowed for a pattern unless the configuration says otherwise. -/
def defaultLimit : Nat := 1024 * 1024

/-- Compiles a rule for a container and a key. -/
def compile (r : Rule) (container key : String) (limit : Nat) : Except Failure LineMatcher :=
  let build := fun (source : List Char) => Pattern.compile (!r.caseSensitive) limit source
  match r.pattern with
  | none =>
    match build (Pattern.escape key.toList) with
    | .error cause => .error (.pattern cause)
    | .ok k =>
      if container.isEmpty then .ok ⟨.literal k none, r.commentToken⟩
      else
        match build (Pattern.escape container.toList) with
        | .error cause => .error (.pattern cause)
        | .ok c => .ok ⟨.literal k (some c), r.commentToken⟩
  | some template =>
    match build (Template.expand template container key).toList with
    | .error cause => .error (.template template cause)
    | .ok p => .ok ⟨.template p, r.commentToken⟩

/-- Where the comment token first occurs in the line. -/
def commentStart (m : LineMatcher) (line : List Char) : Option Nat :=
  m.commentToken.bind fun t => indexOf? t.toList line

/-! ### Keys as plain text -/

/-- How many bytes stand before each position of a line, the end included. -/
def byteOffsets (line : List Char) : Array Nat :=
  (line.foldl (fun acc c => (acc.1 + c.utf8Size, acc.2.push (acc.1 + c.utf8Size))) (0, #[0])).2

/-- The span with its positions looked up in a table. -/
def toBytes (offsets : Array Nat) (s : Span) : Span :=
  ⟨offsets.getD s.start 0, offsets.getD s.stop 0⟩

/-- The gap between two spans, zero when they touch or overlap. -/
def gap (a b : Span) : Nat :=
  if a.stop ≤ b.start then b.start - a.stop
  else if b.stop ≤ a.start then a.start - b.stop
  else 0

/-- The least gap between a span and some others. -/
def nearest (others : List Span) (s : Span) : Option Nat := (others.map fun o => gap o s).min?

/-- The span among `first` and `rest` with the least gap to the others, the leftmost of several. -/
def closest (offsets : Array Nat) (others : List Span) (first : Span) (rest : List Span) : Span :=
  let key := fun s => (nearest others (toBytes offsets s)).getD 0
  (rest.foldl
    (fun (best : Span × Nat) s => if key s < best.2 then (s, key s) else best)
    (first, key first)).1

/-- The segments of a line for a key as plain text. Occurrences that start at the comment token or
after it do not count. -/
def applyLiteral (m : LineMatcher) (key : Pattern) (container : Option Pattern)
    (line : List Char) : Option Segments :=
  let comment := m.commentStart line
  let spans := (key.findAll line).filter fun s => comment.all fun c => s.start < c
  match spans with
  | [] => none
  | first :: rest =>
    let offsets := byteOffsets line
    let others := match container with
      | some c => (c.findAll line).map (toBytes offsets)
      | none => []
    let chosen := if others.isEmpty then first else closest offsets others first rest
    some (Segments.cut line [chosen])

/-! ### Templates -/

/-- The groups that do not start before the end of an earlier one that was kept. -/
def outermost (cursor : Nat) : List Span → List Span
  | [] => []
  | g :: rest => if cursor ≤ g.start then g :: outermost g.stop rest else outermost cursor rest

/-- A position in the padded line as a position in the line. -/
def toLine (line : List Char) (pos : Nat) : Nat := min (pos - 1) line.length

/-- The segments of a line for a template. A match that starts at the comment token or after it
does not count. -/
def applyTemplate (m : LineMatcher) (pattern : Pattern) (line : List Char) : Option Segments :=
  match pattern.find? (' ' :: line ++ [' ']) with
  | none => none
  | some (whole, groups) =>
    if (m.commentStart line).any fun c => c ≤ toLine line whole.start then none
    else
      let kept := match outermost 0 groups with
        | [] => [whole]
        | kept => kept
      some (Segments.cut line (kept.map fun s => ⟨toLine line s.start, toLine line s.stop⟩))

/-- The segments of a line, if it matches. -/
def apply (m : LineMatcher) (line : String) : Option Segments :=
  match m.sought with
  | .literal key container => m.applyLiteral key container line.toList
  | .template pattern => m.applyTemplate pattern line.toList

end LineMatcher

/-- Matches one line against a rule. A rule that does not compile is logged and does not match. -/
def Rule.matchOnce (r : Rule) (container key line : String) : Option Segments × List LogRecord :=
  match LineMatcher.compile r container key LineMatcher.defaultLimit with
  | .ok m => (m.apply line, [])
  | .error e =>
    (none, [⟨.error, "Rule '" ++ r.display ++ "' cannot be applied to key '" ++ container ++ "." ++
      key ++ "': " ++ e.message⟩])

end KeyTrace
