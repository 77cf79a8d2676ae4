import KeyTrace.Scan.Step

/-!
# Sessions

A session uses a tracker the plain way: each call runs to its end, and each scan does its work in
the order of its files and entries, as far as it can. At most as many scans run at a time as there
are workers; the others wait for their turn. A scan can be held at a point, so that what happens
meanwhile can be seen; it keeps a worker busy until it is released.

## Main definitions

* `Hold`: where a scan can be held.
* `Session`, `Session.start`: a tracker in plain use.
* `Session.begins`, `Session.stop`, `Session.cancel`, `Session.release`, `Session.take`: what
  callers do.
* `Session.state`, `Session.progress`: what callers see.
-/

namespace KeyTrace

/-- Where a scan is held. -/
inductive Hold where
  /-- Before any file is indexed. -/
  | index
  /-- When the entry at a position has been begun and not looked up yet. -/
  | entry (i : Nat)
deriving Repr, DecidableEq

/-- A tracker in plain use. -/
structure Session where
  tracker : Tracker
  workers : Nat
  /-- For each scan, where it is held. -/
  holds : List (Option Hold)

namespace Session

/-- A session without any scan. -/
def start (settings : ScanSettings) (workers : Nat) (entries : List Entry) (files : FileTree) :
    Session :=
  ⟨.initial settings entries files, workers, []⟩

/-! ### Running scans -/

/-- Whether a scan has come to the point where it is held. -/
def isHeld (s : Scan) : Option Hold → Bool
  | none => false
  | some .index =>
    match s.stage with
    | .queued => true
    | _ => false
  | some (.entry i) =>
    match s.stage, s.entryTasks[i]? with
    | .matching, some .lookingUp => true
    | _, _ => false

/-- The next step of a scan that handles its files and entries in order; none when it is over. -/
def next? (g : Nat) (s : Scan) : Option Action :=
  match s.stage with
  | .ended => none
  | .indexing =>
    match s.fileTasks.findIdx? fun task => !Tracker.fileDone task with
    | some k => some (.file g k)
    | none => some (.thread g)
  | .matching =>
    match s.entryTasks.findIdx? fun task => !Tracker.entryDone task with
    | some k => some (.entry g k)
    | none => some (.thread g)
  | _ => some (.thread g)

/-- Runs a scan until it is over or held. -/
def drive (g : Nat) (hold : Option Hold) : Nat → Tracker → Tracker
  | 0, t => t
  | fuel + 1, t =>
    match t.scans[g]? with
    | none => t
    | some s =>
      if isHeld s hold then t
      else
        match next? g s with
        | none => t
        | some a => drive g hold fuel (t.step a)

/-- A number of steps that is enough for any scan: each file has no more lines than all files have
bytes, and each line costs a few steps for each entry. -/
def enough (t : Tracker) (s : Scan) : Nat :=
  let lines := (t.files.filesBelow []).foldl (fun n f => n + f.2.length) 10
  let tasks := (s.files.length + 1) * (s.entries.length + 2)
  100 + 12 * (s.files.length + s.entries.length) + 4 * tasks * lines

/-- Runs the scans from position `g` on in order, `count` in number. `free` workers are left. -/
def settleFrom (holds : List (Option Hold)) : Nat → Nat → Nat → Tracker → Tracker
  | 0, _, _, t => t
  | count + 1, g, free, t =>
    match t.scans[g]? with
    | none => t
    | some s =>
      if s.stage = .ended then settleFrom holds count (g + 1) free t
      else if free = 0 then t
      else
        let hold := (holds[g]?).getD none
        let t := drive g hold (enough t s) t
        let isOver := (t.scans[g]?).all fun s => s.stage == .ended
        settleFrom holds count (g + 1) (if isOver then free else free - 1) t

/-- Runs all scans as far as they can. -/
def settle (s : Session) : Session :=
  { s with tracker := settleFrom s.holds s.tracker.scans.length 0 s.workers s.tracker }

/-! ### Calls -/

/-- Runs the call at a position to its end. -/
def complete (i : Nat) : Nat → Tracker → Tracker
  | 0, t => t
  | fuel + 1, t =>
    match t.calls[i]? with
    | some .returned => t
    | none => t
    | some _ => complete i fuel (t.step (.call i))

/-- Makes a call that takes at most so many steps. -/
def call (t : Tracker) (a : Action) (steps : Nat) : Tracker :=
  complete t.calls.length (steps + 16) (t.step a)

/-- Begins a scan, which is held at a point if one is given. -/
def begins (s : Session) (r : ScanRequest) (hold : Option Hold) : Session :=
  settle
    { s with tracker := call s.tracker (.begins r) r.entries.length, holds := s.holds ++ [hold] }

/-- Stops the current scan. -/
def stop (s : Session) : Session := settle { s with tracker := call s.tracker .stops 0 }

/-- Cancels a scan. -/
def cancel (s : Session) (g : Nat) : Session :=
  settle { s with tracker := call s.tracker (.cancels g) 0 }

/-- Lets a held scan go on. -/
def release (s : Session) (g : Nat) : Session := settle { s with holds := s.holds.set g none }

/-- Changes the files. -/
def setFiles (s : Session) (t : FileTree) : Session :=
  { s with tracker := s.tracker.step (.files t) }

/-- Takes the outcome of a scan; none while it is not over. An outcome can be taken once, after that
the scan looks cancelled. -/
def take (s : Session) (g : Nat) : Option Outcome × Session :=
  match s.tracker.scans[g]? with
  | none => (none, s)
  | some scan =>
    match scan.outcome with
    | some o => (some o, { s with tracker := s.tracker.step (.take g) })
    | none => (if scan.stage = .ended then some .cancelled else none, s)

/-! ### What callers see -/

/-- The state of the current scan; idle if there is none. -/
def state (s : Session) : ScanState :=
  match s.tracker.active.bind fun g => s.tracker.scans[g]? with
  | some scan => scan.progress.state
  | none => .idle

/-- The progress of the current scan; zero if there is none. -/
def progress (s : Session) : Nat :=
  match s.tracker.active.bind fun g => s.tracker.scans[g]? with
  | some scan => scan.progress.percent
  | none => 0

/-- The entries with their slots. -/
def listing (s : Session) : List (Entry × Slot) := s.tracker.entries.zip s.tracker.slots

end Session

end KeyTrace
