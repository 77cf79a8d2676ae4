import KeyTrace.Scan.Counters
import KeyTrace.Scan.LineSearch
import KeyTrace.Scan.Progress
import KeyTrace.Source.Lines

/-!
# The tracker

A tracker runs scans in the background. A scan first indexes its files and then matches its
entries; the files are handled in any order and at the same time, and so are the entries. Only the
scan that began last is current. Starting another one, or stopping, asks the current one to stop;
it looks for that between any two pieces of work and before it publishes anything.

Everything here is in small pieces: each access to what several threads share, each change of a
slot and each piece of work is one step, and steps of all threads and callers may follow each other
in any order. A scan is asked to stop in two ways, by its own flag and by the number of the current
scan, and looks at them in two steps.

## Main definitions

* `Advance`: a change of a scan's state on its way.
* `FileTask`, `EntryTask`: the work on one file and on one entry.
* `Stage`, `Scan`: the thread of a scan and all it shares.
* `CancelCall`, `Call`: requests by callers on their way.
* `Tracker`, `Tracker.initial`: the whole system.
-/

namespace KeyTrace

/-- Counts for a scan that ran to its end. -/
structure Summary where
  filesIndexed : Nat
  filesSkipped : Nat
  entriesMatched : Nat
  referencesFound : Nat
deriving Repr, DecidableEq

/-- How a scan ended. -/
inductive Outcome where
  | completed (s : Summary)
  | cancelled
deriving Repr, DecidableEq

/-! ### Pieces of work -/

/-- A look at whether to stop: which of its two steps comes next. -/
inductive Poll where
  /-- Look at the scan's own flag. -/
  | flag
  /-- Look at the number of the current scan. -/
  | number
deriving Repr, DecidableEq

/-- A change of state on its way: the state is read first, and then replaced if it is still the one
that was read. -/
structure Advance where
  next : ScanState
  /-- The state that was read, if it was. -/
  seen : Option ScanState
deriving Repr, DecidableEq

/-- A change of state at its start. -/
def Advance.to (next : ScanState) : Advance := ⟨next, none⟩

/-- One step of a change of state. No change is left when it was made, or when the state that was
read forbids it. -/
def Advance.step (a : Advance) (p : Progress) : Progress × Option Advance :=
  match a.seen with
  | none => (p, some { a with seen := some p.state })
  | some s =>
    if !(Progress.mayAdvance { p with state := s } a.next) then (p, none)
    else if p.state = s then ({ p with state := a.next }, none)
    else (p, some { a with seen := some p.state })

/-- The work on one file. -/
inductive FileTask where
  /-- Not begun. -/
  | waiting (poll : Poll)
  /-- About to be read. -/
  | opening
  /-- Read; all lines but the last ones, `left`, are indexed. -/
  | indexing (poll : Poll) (lines left : List String)
  /-- Indexed; about to be counted. -/
  | counting (index : FileIndex)
  /-- Counted; about to be noted as done. -/
  | visiting (index : FileIndex)
  /-- Done, or dropped without an index. -/
  | done (index : Option FileIndex)

/-- What is left to count after a list was published. -/
inductive Tally where
  | entry
  | references
  | totalEntries
  | totalReferences
deriving Repr, DecidableEq

/-- The work on one entry. -/
inductive EntryTask where
  /-- Not begun. -/
  | waiting (poll : Poll)
  /-- About to look up the lines to try. -/
  | lookingUp
  /-- Trying lines: those left, the rules compiled so far and the references found so far. -/
  | searching (poll : Poll) (left : List (FileIndex × Nat)) (matchers : Matchers)
      (found : List Reference)
  /-- Searched, whether to the end or not; about to look whether to publish. -/
  | checking (poll : Poll) (found : List Reference)
  /-- About to publish. -/
  | publishing (found : List Reference)
  /-- Published; about to be counted. -/
  | counting (tally : Tally) (count : Nat)
  /-- About to be noted as done. -/
  | visiting
  /-- Done or given up. -/
  | done

/-- What the thread of a scan does next. -/
inductive Stage where
  /-- Waiting for workers. -/
  | queued
  /-- The files are being indexed. -/
  | indexing
  /-- All files are done; looking whether to stop. -/
  | indexed (poll : Poll)
  /-- Going on to match entries. -/
  | starting (a : Advance)
  /-- The entries are being matched. -/
  | matching
  /-- All entries are done; looking whether to stop. -/
  | matched (poll : Poll)
  /-- Going idle after all is done. -/
  | completing (a : Advance)
  /-- Giving up: becoming cancelled. -/
  | yielding (a : Advance)
  /-- Giving up: going idle. -/
  | leaving (a : Advance)
  /-- About to say that it has finished. -/
  | finishing (o : Outcome)
  /-- About to hand over the outcome. -/
  | reporting (o : Outcome)
  /-- Over. -/
  | ended
deriving Repr, DecidableEq

/-- One scan: its thread and all it shares. -/
structure Scan where
  generation : Nat
  cancelled : Bool
  finished : Bool
  progress : Progress
  /-- The entries to match, by their positions. -/
  entries : List Nat
  files : List SourceFile
  rules : RuleSet
  stage : Stage
  candidates : Candidates
  fileTasks : List FileTask
  lookup : Lookup
  entryTasks : List EntryTask
  /-- How many entries this scan has published. -/
  entriesMatched : Nat
  /-- How many references this scan has published. -/
  referencesFound : Nat
  /-- The outcome, from the moment it is handed over until it is taken. -/
  outcome : Option Outcome

/-! ### Callers -/

/-- A request to stop one scan, on its way. -/
inductive CancelCall where
  /-- About to set the flag. -/
  | flagging
  /-- The flag was not set before; about to look at the state. -/
  | looking
  /-- The scan was at work; changing its state. -/
  | advancing (a : Advance)
deriving Repr, DecidableEq

/-- What a new scan is to work on. -/
structure ScanRequest where
  /-- Entries by their positions. -/
  entries : List Nat
  files : List SourceFile
  rules : RuleSet

/-- A call on its way. -/
inductive Call where
  /-- Stopping a given scan. -/
  | cancel (scan : Nat) (c : CancelCall)
  /-- About to stop the current scan, whichever that is. -/
  | stop
  /-- Stopping what was the current scan, which no other call can do meanwhile. -/
  | stopping (scan : Nat) (c : CancelCall)
  /-- About to begin a scan. -/
  | start (r : ScanRequest)
  /-- Stopping what was the current scan before the next one begins. -/
  | replacing (r : ScanRequest) (scan : Nat) (c : CancelCall)
  /-- About to take the next number. -/
  | numbering (r : ScanRequest)
  /-- Marking the entries that are left for the scan of the given number. -/
  | marking (r : ScanRequest) (generation : Nat) (left : List Nat)
  /-- Over. -/
  | returned

/-- The whole system. -/
structure Tracker where
  settings : ScanSettings
  entries : List Entry
  slots : List Slot
  /-- The number of the current scan. -/
  generation : Nat
  /-- The scan that stopping would stop, by its position. -/
  active : Option Nat
  /-- The call that keeps other calls from beginning or stopping scans. -/
  holder : Option Nat
  scans : List Scan
  calls : List Call
  counters : Counters
  log : List LogRecord
  files : FileTree

namespace Tracker

/-- A tracker that has not begun any scan. -/
def initial (settings : ScanSettings) (entries : List Entry) (files : FileTree) : Tracker :=
  ⟨settings, entries, entries.map fun _ => Slot.fresh, 0, none, none, [], [], {}, [], files⟩

end Tracker

end KeyTrace
