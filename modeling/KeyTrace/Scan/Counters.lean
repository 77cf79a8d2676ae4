import KeyTrace.Text.Rounded

/-!
# Counters

Five counters add up what all scans of a tracker have done. They are shown in the text format of
monitoring systems: for each counter, in ascending order of names, a line of help, a line with its
type and a line with its value.

## Main definitions

* `Counters`: the counters.
* `Counters.gather`: the counters as text.
-/

namespace KeyTrace

/-- What all scans have done. -/
structure Counters where
  filesIndexed : Nat := 0
  filesSkipped : Nat := 0
  entriesMatched : Nat := 0
  referencesFound : Nat := 0
  templateErrors : Nat := 0
deriving Repr, DecidableEq

namespace Counters

/-- The lines of one counter. -/
def lines (name help : String) (value : Nat) : String :=
  "# HELP reftrack_" ++ name ++ " " ++ help ++ "\n" ++
    "# TYPE reftrack_" ++ name ++ " counter\n" ++
    "reftrack_" ++ name ++ " " ++ Rounded.digits value ++ "\n"

/-- The counters as text. -/
def gather (c : Counters) : String :=
  lines "entries_matched" "Resource entries whose references were published" c.entriesMatched ++
    lines "files_indexed" "Source files read and tokenized" c.filesIndexed ++
    lines "files_skipped" "Source files no match rule applies to" c.filesSkipped ++
    lines "references_found" "Code references found" c.referencesFound ++
    lines "template_errors" "Match templates that failed to compile" c.templateErrors

end Counters

end KeyTrace
