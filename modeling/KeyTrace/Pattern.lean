import KeyTrace.Pattern.Opening
import KeyTrace.Pattern.Reader
import KeyTrace.Pattern.Search
import KeyTrace.Pattern.Size

/-!
# Patterns

A pattern is a text that describes a set of texts; compiling it yields a program that finds the
leftmost match and the groups in it. A text is refused when it is malformed, and when what it
describes would grow beyond a limit; texts that are spelled out are never too large.

## Main definitions

* `Pattern`, `Pattern.compile`: compiled patterns.
* `PatternError`: why a pattern is refused.
* `Pattern.find?`, `Pattern.findAll`: searching.
* `Pattern.escape`: the pattern of a plain text.
-/

namespace KeyTrace

/-- Why a pattern is refused. -/
inductive PatternError where
  /-- The text is no pattern. -/
  | malformed
  /-- The pattern would be larger than the limit, in bytes. -/
  | tooBig (limit : Nat)
deriving Repr, DecidableEq

/-- A compiled pattern. -/
structure Pattern where
  program : Program
  /-- How many groups are noted besides the whole match. -/
  groups : Nat

namespace Pattern

/-- Compiles a pattern. -/
def compile (ignoreCase : Bool) (limit : Nat) (source : List Char) : Except PatternError Pattern :=
  match readNode ignoreCase source with
  | none => .error .malformed
  | some (node, groups) =>
    if limit < node.size && !node.isSpelledOut then .error (.tooBig limit)
    else .ok ⟨Program.ofNode node, groups⟩

/-- The leftmost match: its span, and the spans of the groups that took part, in the order of the
groups. -/
def find? (p : Pattern) (text : List Char) : Option (Span × List Span) :=
  (p.program.search text.toArray 0).bind fun slots =>
    (slots.group? 0).map fun whole =>
      (whole, (List.range p.groups).filterMap fun i => slots.group? (i + 1))

/-- The spans of all matches, from left to right. -/
def findAll (p : Pattern) (text : List Char) : List Span :=
  (p.program.searchAll text.toArray).filterMap fun slots => slots.group? 0

/-- A character, with a backslash before it if it has a meaning of its own. -/
def escapeChar (c : Char) : List Char := if isMeta c then ['\\', c] else [c]

/-- The pattern that matches exactly the given text. -/
def escape (s : List Char) : List Char := s.flatMap escapeChar

end Pattern

end KeyTrace
