import KeyTrace.Index.FileIndex
import KeyTrace.Resource.Entry
import KeyTrace.Scan.Slot

/-!
# Searching one line

The lines that may refer to an entry are tried one by one. On each line the rules that cover its
file are tried in order, and the first one that matches makes the reference. A rule is compiled for
the entry when it is first needed, once for all lines and files; one that does not compile is
reported then and passed over from then on.

## Main definitions

* `Matchers`: the rules compiled for an entry so far.
* `LineSearch`, `LineSearch.tryRules`: what trying the rules on one line yields.
* `Lookup.work`: the lines to try for a key, in order.
-/

namespace KeyTrace

/-- The rules compiled for an entry so far; `none` for one that does not compile. -/
abbrev Matchers := List (Nat × Option LineMatcher)

/-- What does not change while an entry is searched for. -/
structure SearchContext where
  rules : RuleSet
  entry : Entry
  sizeLimit : Nat

/-- What trying rules on a line yields. -/
structure LineSearch where
  /-- The segments of the line, if a rule matches. -/
  segments : Option Segments
  matchers : Matchers
  /-- One record for each rule that turned out not to compile. -/
  log : List LogRecord

namespace SearchContext

/-- The record of a rule that does not compile when it is first tried on a line. -/
def complaint (x : SearchContext) (file : SourceFile) (lineNumber : Nat) (r : Rule) (e : Failure) :
    LogRecord :=
  ⟨.error, file.path.display ++ ":" ++ toString lineNumber ++ ": rule '" ++ r.display ++
    "' skipped for key '" ++ x.entry.container ++ "." ++ x.entry.key ++ "': " ++ e.message⟩

/-- Compiles a rule for the entry. -/
def compile (x : SearchContext) (file : SourceFile) (lineNumber id : Nat) :
    Option LineMatcher × List LogRecord :=
  match x.rules.rule? id with
  | none => (none, [])
  | some r =>
    match LineMatcher.compile r x.entry.container x.entry.key x.sizeLimit with
    | .ok m => (some m, [])
    | .error e => (none, [x.complaint file lineNumber r e])

/-- Tries rules on a line, in order. -/
def tryRules (x : SearchContext) (file : SourceFile) (lineNumber : Nat) (line : String)
    (matchers : Matchers) : List Nat → LineSearch
  | [] => ⟨none, matchers, []⟩
  | id :: rest =>
    let (matcher, matchers, log) :=
      match matchers.lookup id with
      | some m => (m, matchers, [])
      | none =>
        let (m, log) := x.compile file lineNumber id
        (m, (id, m) :: matchers, log)
    match matcher.bind fun m => m.apply line with
    | some s => ⟨some s, matchers, log⟩
    | none =>
      let more := x.tryRules file lineNumber line matchers rest
      { more with log := log ++ more.log }

end SearchContext

namespace Lookup

/-- The lines to try for a key: by file in the order of the files, then by position. -/
def work (l : Lookup) (key : String) : List (FileIndex × Nat) :=
  (l.candidates key).flatMap fun f => (f.linesFor key).map fun i => (f, i)

end Lookup

end KeyTrace
