import KeyTrace.Proofs.Scan.Tasks

/-!
# The invariant of a scan

What holds of each scan at every moment of a run. Most of it is a choice: either the scan has been
asked to stop, or nothing has been dropped, cut short or refused so far. Where the thread of the
scan looks whether to stop, the first case is ruled out in two steps: the flag is found unset, so
that from then on only a later scan can be the reason, and then the number of the current scan is
found to be the scan's own.

The invariant speaks about a ledger of what has happened before: the file trees there have been, the
requests made and the attempts to publish.

## Main definitions

* `Ledger`: what has happened in a run.
* `Scan.LookupFull`: a scan's lookup is one over whole files.
* `Scan.Complete`: a scan has done all its work.
* `ScanCore`, `Scan.StageSound`: the invariant of a scan, apart from its stage and by its stage.
-/

namespace KeyTrace

/-- What has happened in a run, as far as the state does not tell. -/
@[ext]
structure Ledger where
  /-- The file trees there have been. -/
  trees : List FileTree
  /-- The requests to begin a scan. -/
  requests : List ScanRequest
  /-- The attempts to publish, in order. -/
  attempts : List Attempt

/-- The accepted attempts of the scan at a position. -/
def Attempt.publishedBy (g : Nat) (attempts : List Attempt) : List Attempt :=
  attempts.filter fun p => p.accepted && p.scan == g

/-- Replacing one element of a list replaces its share of a sum. -/
theorem sum_map_set {α : Type} (w : α → Nat) {xs : List α} {k : Nat} {a : α} (b : α)
    (h : xs[k]? = some a) : ((xs.set k b).map w).sum + w a = (xs.map w).sum + w b := by
  induction xs generalizing k with
  | nil => simp at h
  | cons x xs ih =>
    cases k with
    | zero =>
      obtain rfl : x = a := by simpa using h
      simp only [List.set_cons_zero, List.map_cons, List.sum_cons]
      omega
    | succ k =>
      have := ih (by simpa using h)
      simp only [List.set_cons_succ, List.map_cons, List.sum_cons]
      omega

/-- What the work on a file has added to the count of units done. -/
def FileTask.visits : FileTask → Nat
  | .done _ => 1
  | _ => 0

namespace EntryTask

/-- What the work on an entry has added to the count of units done. -/
def visits : EntryTask → Nat
  | .done => 1
  | _ => 0

/-- How many lists the work on an entry has published and not counted yet. -/
def uncounted : EntryTask → Nat
  | .counting .entry _ => 1
  | _ => 0

/-- How many references the work on an entry has published and not counted yet. -/
def unsummed : EntryTask → Nat
  | .counting .entry n => n
  | .counting .references n => n
  | _ => 0

/-- One for an entry that is past publishing. -/
def past (task : EntryTask) : Nat := if task.isPast then 1 else 0

end EntryTask

namespace Scan

/-- The keys of the entries a scan works on. -/
def keys (s : Scan) (entries : List Entry) : List String :=
  s.entries.filterMap fun id => (entries[id]?).map Entry.key

/-- The work on the files has left a whole index of each. -/
def FilesFull (trees : List FileTree) (s : Scan) : Prop :=
  List.Forall₂ (FileIndex.Full trees s.rules s.candidates) s.files (Tracker.indexesOf s.fileTasks)

/-- The lookup is one over whole indexes of all files, for the keys of all entries. -/
def LookupFull (trees : List FileTree) (entries : List Entry) (s : Scan) : Prop :=
  s.candidates = Candidates.ofKeys (s.keys entries) ∧
    ∃ indexes, List.Forall₂ (FileIndex.Full trees s.rules s.candidates) s.files indexes ∧
      s.lookup = Lookup.ofIndexes indexes

/-- The work on each file is over. -/
structure FilesOver (s : Scan) : Prop where
  length : s.fileTasks.length = s.files.length
  done : s.fileTasks.all Tracker.fileDone = true

/-- The work on each entry is over. -/
structure EntriesOver (s : Scan) : Prop where
  length : s.entryTasks.length = s.entries.length
  done : s.entryTasks.all Tracker.entryDone = true

/-- All work has been done: each file is indexed and each entry's list is published. -/
structure Complete (l : Ledger) (entries : List Entry) (g : Nat) (s : Scan) : Prop where
  filesOver : s.FilesOver
  entriesOver : s.EntriesOver
  lookup : s.LookupFull l.trees entries
  published : ∀ k < s.entries.length, ∃ p ∈ l.attempts,
    p.accepted = true ∧ p.scan = g ∧ p.task = k
  noneRefused : ∀ p ∈ l.attempts, p.scan = g → p.accepted = true
  entriesMatched : s.entriesMatched = s.entries.length
  visited : s.progress.visited = s.progress.total

/-- What holds at each stage of a scan. -/
def StageSound (l : Ledger) (t : Tracker) (g : Nat) (s : Scan) : Stage → Prop
  | .queued => s.fileTasks = [] ∧ s.entryTasks = []
  | .indexing =>
    s.candidates = Candidates.ofKeys (s.keys t.entries) ∧
      s.fileTasks.length = s.files.length ∧ s.entryTasks = []
  | .indexed .flag =>
    s.candidates = Candidates.ofKeys (s.keys t.entries) ∧ s.FilesOver ∧ s.entryTasks = []
  | .indexed .number =>
    s.candidates = Candidates.ofKeys (s.keys t.entries) ∧ s.FilesOver ∧ s.entryTasks = [] ∧
      (s.FilesFull l.trees ∨ t.generation ≠ s.generation)
  | .starting _ => s.FilesOver ∧ s.entryTasks = [] ∧ s.LookupFull l.trees t.entries
  | .matching =>
    s.FilesOver ∧ s.entryTasks.length = s.entries.length ∧ s.LookupFull l.trees t.entries
  | .matched .flag => s.FilesOver ∧ s.EntriesOver ∧ s.LookupFull l.trees t.entries
  | .matched .number =>
    s.Complete l t.entries g ∨ s.FilesOver ∧ s.EntriesOver ∧ t.generation ≠ s.generation
  | .completing _ => s.Complete l t.entries g
  | .yielding _ => True
  | .leaving _ => True
  | .finishing o => ∀ m, o = .completed m → s.Complete l t.entries g ∧ m = Tracker.summaryOf s
  | .reporting o => ∀ m, o = .completed m → s.Complete l t.entries g ∧ m = Tracker.summaryOf s
  | .ended =>
    ∀ m, s.outcome = some (.completed m) → s.Complete l t.entries g ∧ m = Tracker.summaryOf s

end Scan

/-- What holds of a scan at every stage. -/
structure ScanCore (l : Ledger) (t : Tracker) (g : Nat) (s : Scan) : Prop where
  number : s.generation = g + 1
  bound : s.generation ≤ t.generation
  request : ∃ r ∈ l.requests, s.entries = r.entries ∧ s.rules = r.rules ∧
    s.files = SourceFile.distinct t.settings r.files
  total : s.progress.total = s.entries.length + s.files.length
  files : ∀ {k : Nat} {f : SourceFile} {task : FileTask},
    s.files[k]? = some f → s.fileTasks[k]? = some task → task.Sound l.trees t s f
  entries : ∀ {k id : Nat} {e : Entry} {task : EntryTask}, s.entries[k]? = some id →
    t.entries[id]? = some e → s.entryTasks[k]? = some task → task.Sound t s e
  lookup : s.entryTasks = [] ∨ s.LookupFull l.trees t.entries
  quiet : s.entryTasks = [] → ∀ p ∈ l.attempts, p.scan ≠ g
  reached : ∀ {k : Nat} {task : EntryTask}, s.entryTasks[k]? = some task → task.isPast = true →
    (∃ p ∈ l.attempts, p.accepted = true ∧ p.scan = g ∧ p.task = k) ∨ t.Stops s
  noneRefused : (∀ p ∈ l.attempts, p.scan = g → p.accepted = true) ∨ t.Stops s
  counted : s.entriesMatched + (s.entryTasks.map EntryTask.uncounted).sum =
    (Attempt.publishedBy g l.attempts).length
  past : (Attempt.publishedBy g l.attempts).length = (s.entryTasks.map EntryTask.past).sum ∨
    t.Stops s
  summed : s.referencesFound + (s.entryTasks.map EntryTask.unsummed).sum =
    ((Attempt.publishedBy g l.attempts).map fun p => p.references.length).sum
  visited : s.progress.visited =
    (s.fileTasks.map FileTask.visits).sum + (s.entryTasks.map EntryTask.visits).sum ∨ t.Stops s

/-- The invariant of the scan at a position. -/
structure ScanInv (l : Ledger) (t : Tracker) (g : Nat) (s : Scan) : Prop where
  core : ScanCore l t g s
  stage : s.StageSound l t g s.stage
  outcome : s.stage = .ended ∨ s.outcome = none

end KeyTrace
