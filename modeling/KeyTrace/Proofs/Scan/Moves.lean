import KeyTrace.Scan.Step
import Mathlib

/-!
# What one step can do

Every action of a tracker is taken apart here once: `Tracker.Move t a t'` lists the ways in which
action `a` can lead from `t` to `t'`, each with the conditions under which it happens and with the
fields it changes. `Tracker.move_step` says that nothing else happens. Invariants are proved by
cases on a move, so that no other module looks into the step function.

The log and the counters are left open in a move: nothing that a scan decides depends on them.

## Main definitions

* `Tracker.Stops`: a scan has been asked to stop.
* `FileTask.Move`, `EntryTask.Move`, `Scan.ThreadMove`, `Tracker.CancelMove`: steps of one
  participant.
* `Scan.IsNew`: what a call makes.
* `Tracker.Move`: steps of the tracker.

## Main results

* `Tracker.move_step`: every step is a move.
-/

namespace KeyTrace

/-! ### Looking whether to stop -/

/-- A scan has been asked to stop: by its own flag, or because it is no longer the current one. -/
def Tracker.Stops (t : Tracker) (s : Scan) : Prop :=
  s.cancelled = true ∨ t.generation ≠ s.generation

namespace Tracker

variable {t : Tracker} {s : Scan} {poll : Poll}

theorem look_eq_none (h : t.look s poll = none) : poll = .flag ∧ s.cancelled = false := by
  cases poll with
  | flag => simpa [look] using h
  | number => simp [look] at h

/-- The answer to stop is never wrong. -/
theorem stops_of_look (h : t.look s poll = some true) : t.Stops s := by
  cases poll with
  | flag =>
    refine Or.inl ?_
    by_contra hc
    simp [look, hc] at h
  | number => exact Or.inr (by simpa [look] using h)

/-- The answer to go on is given on the number of the current scan only; the flag was looked at
before, and may have been set since. -/
theorem look_eq_false (h : t.look s poll = some false) :
    poll = .number ∧ t.generation = s.generation := by
  cases poll with
  | flag => simp [look] at h
  | number => exact ⟨rfl, by simpa [look] using h⟩

end Tracker

/-! ### Tasks -/

/-- What one step makes of the work on a file. -/
inductive FileTask.Move (t : Tracker) (s : Scan) (f : SourceFile) : FileTask → FileTask → Prop
  | unflagged (h : s.cancelled = false) : Move t s f (.waiting .flag) (.waiting .number)
  | dropped {poll : Poll} (h : t.Stops s) : Move t s f (.waiting poll) (.done none)
  | begun (h : t.generation = s.generation) : Move t s f (.waiting .number) .opening
  | unread (h : s.rules.idsFor f.extension = []) :
      Move t s f .opening (.counting (FileIndex.unread f))
  | read (h : s.rules.idsFor f.extension ≠ []) :
      Move t s f .opening (.indexing .flag (f.readLines t.files).1 (f.readLines t.files).1)
  | exhausted {poll : Poll} {lines : List String} :
      Move t s f (.indexing poll lines []) (.counting (Tracker.indexOf s f lines []))
  | lineUnflagged {lines left : List String} (h : s.cancelled = false) :
      Move t s f (.indexing .flag lines left) (.indexing .number lines left)
  | cut {poll : Poll} {lines left : List String} (h : t.Stops s) :
      Move t s f (.indexing poll lines left) (.counting (Tracker.indexOf s f lines left))
  | line {lines left : List String} {l : String} (h : t.generation = s.generation) :
      Move t s f (.indexing .number lines (l :: left)) (.indexing .flag lines left)
  | counted {index : FileIndex} : Move t s f (.counting index) (.visiting index)
  | visited {index : FileIndex} : Move t s f (.visiting index) (.done (some index))

/-- The rules compiled and the references found once one more line has been tried. -/
def SearchContext.tryLine (x : SearchContext) (file : FileIndex) (i : Nat)
    (p : Matchers × List Reference) : Matchers × List Reference :=
  match file.line? i with
  | none => p
  | some line =>
    let r := x.tryRules file.file (i + 1) line p.1 file.ruleIds
    (r.matchers, p.2 ++ (r.segments.map (Tracker.referenceAt file i)).toList)

/-- What one step makes of the work on an entry, publishing apart. -/
inductive EntryTask.Move (t : Tracker) (s : Scan) (e : Entry) : EntryTask → EntryTask → Prop
  | unflagged (h : s.cancelled = false) : Move t s e (.waiting .flag) (.waiting .number)
  | dropped {poll : Poll} (h : t.Stops s) : Move t s e (.waiting poll) .done
  | begun (h : t.generation = s.generation) : Move t s e (.waiting .number) .lookingUp
  | lookedUp : Move t s e .lookingUp (.searching .flag (s.lookup.work e.key) [] [])
  | exhausted {poll : Poll} {m : Matchers} {found : List Reference} :
      Move t s e (.searching poll [] m found) (.checking .flag found)
  | lineUnflagged {left : List (FileIndex × Nat)} {m : Matchers} {found : List Reference}
      (h : s.cancelled = false) :
      Move t s e (.searching .flag left m found) (.searching .number left m found)
  | cut {poll : Poll} {left : List (FileIndex × Nat)} {m : Matchers} {found : List Reference}
      (h : t.Stops s) : Move t s e (.searching poll left m found) (.checking .flag found)
  | tried {file : FileIndex} {i : Nat} {left : List (FileIndex × Nat)} {m m' : Matchers}
      {found found' : List Reference} (h : t.generation = s.generation)
      (hx : SearchContext.tryLine ⟨s.rules, e, t.settings.patternSizeLimit⟩ file i (m, found) =
        (m', found')) :
      Move t s e (.searching .number ((file, i) :: left) m found) (.searching .flag left m' found')
  | checkUnflagged {found : List Reference} (h : s.cancelled = false) :
      Move t s e (.checking .flag found) (.checking .number found)
  | givenUp {poll : Poll} {found : List Reference} (h : t.Stops s) :
      Move t s e (.checking poll found) .done
  | cleared {found : List Reference} (h : t.generation = s.generation) :
      Move t s e (.checking .number found) (.publishing found)
  | entryCounted {n : Nat} : Move t s e (.counting .entry n) (.counting .references n)
  | referencesCounted {n : Nat} : Move t s e (.counting .references n) (.counting .totalEntries n)
  | entryTotalled {n : Nat} : Move t s e (.counting .totalEntries n) (.counting .totalReferences n)
  | referencesTotalled {n : Nat} : Move t s e (.counting .totalReferences n) .visiting
  | visited : Move t s e .visiting .done

namespace Scan

/-- The scan once a step has made `task'` of the `k`-th file's `task`. -/
def afterFile (s : Scan) (k : Nat) (task task' : FileTask) : Scan :=
  { s with
    fileTasks := s.fileTasks.set k task'
    progress := match task with
      | .visiting _ => s.progress.visit
      | _ => s.progress }

/-- The scan once a step has made `task'` of the `k`-th entry's `task`. -/
def afterEntry (s : Scan) (k : Nat) (task task' : EntryTask) : Scan :=
  { s with
    entryTasks := s.entryTasks.set k task'
    progress := match task with
      | .visiting => s.progress.visit
      | _ => s.progress
    entriesMatched := match task with
      | .counting .entry _ => s.entriesMatched + 1
      | _ => s.entriesMatched
    referencesFound := match task with
      | .counting .references n => s.referencesFound + n
      | _ => s.referencesFound }

/-! ### The thread of a scan -/

/-- What one step of its thread makes of a scan. -/
inductive ThreadMove (t : Tracker) (s : Scan) : Scan → Prop
  | started (h : s.stage = .queued) :
      ThreadMove t s { s with
        stage := .indexing
        candidates := Candidates.ofKeys
          (s.entries.filterMap fun id => (t.entries[id]?).map Entry.key)
        fileTasks := s.files.map fun _ => .waiting .flag }
  | filesDone (h : s.stage = .indexing) (hd : s.fileTasks.all Tracker.fileDone = true) :
      ThreadMove t s { s with stage := .indexed .flag }
  | filesUnflagged (h : s.stage = .indexed .flag) (hc : s.cancelled = false) :
      ThreadMove t s { s with stage := .indexed .number }
  | filesStopped {poll : Poll} (h : s.stage = .indexed poll) (hs : t.Stops s) :
      ThreadMove t s { s with stage := .yielding (.to .cancelled) }
  | filesCleared (h : s.stage = .indexed .number) (hn : t.generation = s.generation) :
      ThreadMove t s { s with
        stage := .starting (.to .matching)
        lookup := Lookup.ofIndexes (Tracker.indexesOf s.fileTasks) }
  | starting {a b : Advance} (h : s.stage = .starting a) (ha : (a.step s.progress).2 = some b) :
      ThreadMove t s { s with progress := (a.step s.progress).1, stage := .starting b }
  | matchingBegun {a : Advance} (h : s.stage = .starting a) (ha : (a.step s.progress).2 = none) :
      ThreadMove t s { s with
        progress := (a.step s.progress).1
        stage := .matching
        entryTasks := s.entries.map fun _ => .waiting .flag }
  | entriesDone (h : s.stage = .matching) (hd : s.entryTasks.all Tracker.entryDone = true) :
      ThreadMove t s { s with stage := .matched .flag }
  | entriesUnflagged (h : s.stage = .matched .flag) (hc : s.cancelled = false) :
      ThreadMove t s { s with stage := .matched .number }
  | entriesStopped {poll : Poll} (h : s.stage = .matched poll) (hs : t.Stops s) :
      ThreadMove t s { s with stage := .yielding (.to .cancelled) }
  | entriesCleared (h : s.stage = .matched .number) (hn : t.generation = s.generation) :
      ThreadMove t s { s with stage := .completing (.to .idle) }
  | completing {a b : Advance} (h : s.stage = .completing a)
      (ha : (a.step s.progress).2 = some b) :
      ThreadMove t s { s with progress := (a.step s.progress).1, stage := .completing b }
  | completed {a : Advance} (h : s.stage = .completing a) (ha : (a.step s.progress).2 = none) :
      ThreadMove t s { s with
        progress := (a.step s.progress).1
        stage := .finishing (.completed (Tracker.summaryOf s)) }
  | yielding {a b : Advance} (h : s.stage = .yielding a) (ha : (a.step s.progress).2 = some b) :
      ThreadMove t s { s with progress := (a.step s.progress).1, stage := .yielding b }
  | yielded {a : Advance} (h : s.stage = .yielding a) (ha : (a.step s.progress).2 = none) :
      ThreadMove t s { s with progress := (a.step s.progress).1, stage := .leaving (.to .idle) }
  | leaving {a b : Advance} (h : s.stage = .leaving a) (ha : (a.step s.progress).2 = some b) :
      ThreadMove t s { s with progress := (a.step s.progress).1, stage := .leaving b }
  | departed {a : Advance} (h : s.stage = .leaving a) (ha : (a.step s.progress).2 = none) :
      ThreadMove t s { s with progress := (a.step s.progress).1, stage := .finishing .cancelled }
  | finished {o : Outcome} (h : s.stage = .finishing o) :
      ThreadMove t s { s with finished := true, stage := .reporting o }
  | reported {o : Outcome} (h : s.stage = .reporting o) :
      ThreadMove t s { s with outcome := some o, stage := .ended }

end Scan

/-- A scan as the call that makes it leaves it: about to run, or without a thread if none could be
started. -/
inductive Scan.IsNew (settings : ScanSettings) (r : ScanRequest) (n : Nat) : Scan → Prop
  | queued : IsNew settings r n (Tracker.newScan settings r n)
  | unstarted : IsNew settings r n (Tracker.unstarted (Tracker.newScan settings r n))

theorem Scan.IsNew.entries {settings : ScanSettings} {r : ScanRequest} {n : Nat} {s : Scan}
    (h : s.IsNew settings r n) : s.entries = r.entries := by
  cases h <;> rfl

/-! ### Attempts to publish -/

/-- An attempt to publish a list into the slot of an entry. -/
structure Attempt where
  /-- The scan, by its position. -/
  scan : Nat
  /-- The position of the entry in the request of the scan. -/
  task : Nat
  entry : Nat
  references : List Reference
  accepted : Bool

namespace Tracker

/-- The attempt that a step makes, if it makes one. -/
def attempt? (t : Tracker) : Action → Option Attempt
  | .entry g k =>
    match t.scans[g]? with
    | none => none
    | some s =>
      match s.entries[k]?, s.entryTasks[k]? with
      | some id, some (.publishing found) =>
        if (t.entries[id]?).isSome then
          some ⟨g, k, id, found, (t.slots[id]?).any fun slot => slot.accepts s.generation⟩
        else none
      | _, _ => none
  | _ => none

variable {t : Tracker} {g k id : Nat} {s : Scan} {e : Entry} {task : EntryTask}

/-- Only a task that is about to publish makes an attempt. -/
theorem attempt?_entry (hs : t.scans[g]? = some s) (hid : s.entries[k]? = some id)
    (he : t.entries[id]? = some e) (ht : s.entryTasks[k]? = some task) :
    t.attempt? (.entry g k) =
      match task with
      | .publishing found =>
        some ⟨g, k, id, found, (t.slots[id]?).any fun slot => slot.accepts s.generation⟩
      | _ => none := by
  cases task <;> simp [attempt?, hs, hid, he, ht]

theorem attempt?_of_move {task' : EntryTask} (hs : t.scans[g]? = some s)
    (hid : s.entries[k]? = some id) (he : t.entries[id]? = some e)
    (ht : s.entryTasks[k]? = some task) (h : task.Move t s e task') :
    t.attempt? (.entry g k) = none := by
  rw [attempt?_entry hs hid he ht]
  cases h <;> rfl

/-- A call makes no attempt, with a thread or without. -/
theorem attempt?_call {a : Action} {i : Nat} (ha : a = .call i ∨ ∃ cause, a = .deny i cause) :
    t.attempt? a = none := by
  rcases ha with rfl | ⟨_, rfl⟩ <;> rfl

/-- What an attempt tells about the scan that makes it. -/
theorem scan_of_attempt? {a : Action} {p : Attempt} (h : t.attempt? a = some p) :
    ∃ s e, a = .entry p.scan p.task ∧ t.scans[p.scan]? = some s ∧
      s.entries[p.task]? = some p.entry ∧ t.entries[p.entry]? = some e ∧
      s.entryTasks[p.task]? = some (.publishing p.references) ∧
      p.accepted = (t.slots[p.entry]?).any fun slot => slot.accepts s.generation := by
  cases a with
  | entry g k =>
    rw [attempt?] at h
    split at h
    · cases h
    · rename_i s hs
      split at h
      · rename_i id found hid ht
        split at h
        · rename_i he
          obtain ⟨e, he⟩ := Option.isSome_iff_exists.1 he
          obtain rfl := Option.some.inj h
          exact ⟨s, e, rfl, hs, hid, he, ht, rfl⟩
        · cases h
      · cases h
  | _ => cases h

/-! ### Calls -/

/-- What one step of a request to stop makes of the scans. -/
inductive CancelMove (t : Tracker) : List Scan → Prop
  | same : CancelMove t t.scans
  | flagged {g : Nat} {s : Scan} (hs : t.scans[g]? = some s) :
      CancelMove t (t.scans.set g { s with cancelled := true })
  | advanced {g : Nat} {s : Scan} {a : Advance} (hs : t.scans[g]? = some s) :
      CancelMove t (t.scans.set g { s with progress := (a.step s.progress).1 })

/-- The call that an action starts. -/
def firstCall? : Action → Option Call
  | .begins r => some (.start r)
  | .stops => some .stop
  | .cancels g => some (.cancel g .flagging)
  | _ => none

/-- What one step makes of a tracker. -/
inductive Move (t : Tracker) : Action → Tracker → Prop
  | idle {a : Action} (h : t.attempt? a = none) : Move t a t
  | called {a : Action} {c : Call} (h : firstCall? a = some c) :
      Move t a { t with calls := t.calls ++ [c] }
  | cancelling {i g : Nat} {c c' : CancelCall} {scans : List Scan}
      (hc : t.calls[i]? = some (.cancel g c)) (h : CancelMove t scans) :
      Move t (.call i) { t with scans := scans, calls := t.calls.set i (.cancel g c') }
  | cancelled {i g : Nat} {c : CancelCall} {scans : List Scan}
      (hc : t.calls[i]? = some (.cancel g c)) (h : CancelMove t scans) :
      Move t (.call i) { t with scans := scans, calls := t.calls.set i .returned }
  | stopIdle {i : Nat} (hc : t.calls[i]? = some .stop) :
      Move t (.call i) { t with calls := t.calls.set i .returned }
  | stopBegun {i g : Nat} (hc : t.calls[i]? = some .stop) (hh : t.holder = none) :
      Move t (.call i) { t with
        active := none, holder := some i, calls := t.calls.set i (.stopping g .flagging) }
  | stopping {i g : Nat} {c c' : CancelCall} {scans : List Scan}
      (hc : t.calls[i]? = some (.stopping g c)) (h : CancelMove t scans) :
      Move t (.call i) { t with scans := scans, calls := t.calls.set i (.stopping g c') }
  | stopped {i g : Nat} {c : CancelCall} {scans : List Scan}
      (hc : t.calls[i]? = some (.stopping g c)) (h : CancelMove t scans) :
      Move t (.call i) { t with
        scans := scans, holder := none, calls := t.calls.set i .returned }
  | startIdle {i : Nat} {r : ScanRequest} (hc : t.calls[i]? = some (.start r))
      (hh : t.holder = none) :
      Move t (.call i) { t with holder := some i, calls := t.calls.set i (.numbering r) }
  | startBegun {i g : Nat} {r : ScanRequest} (hc : t.calls[i]? = some (.start r))
      (hh : t.holder = none) :
      Move t (.call i) { t with
        active := none, holder := some i, calls := t.calls.set i (.replacing r g .flagging) }
  | replacing {i g : Nat} {r : ScanRequest} {c c' : CancelCall} {scans : List Scan}
      (hc : t.calls[i]? = some (.replacing r g c)) (h : CancelMove t scans) :
      Move t (.call i) { t with scans := scans, calls := t.calls.set i (.replacing r g c') }
  | replaced {i g : Nat} {r : ScanRequest} {c : CancelCall} {scans : List Scan}
      (hc : t.calls[i]? = some (.replacing r g c)) (h : CancelMove t scans) :
      Move t (.call i) { t with scans := scans, calls := t.calls.set i (.numbering r) }
  | numbered {i : Nat} {r : ScanRequest} (hc : t.calls[i]? = some (.numbering r)) :
      Move t (.call i) { t with
        generation := t.generation + 1
        calls := t.calls.set i (.marking r (t.generation + 1) r.entries) }
  | marked {i id n : Nat} {r : ScanRequest} {rest : List Nat}
      (hc : t.calls[i]? = some (.marking r n (id :: rest))) :
      Move t (.call i) { t with
        slots := t.slots.modify id fun slot => slot.mark n
        calls := t.calls.set i (.marking r n rest) }
  | launched {a : Action} {i n : Nat} {r : ScanRequest} {s : Scan} {log : List LogRecord}
      (ha : a = .call i ∨ ∃ cause, a = .deny i cause)
      (hc : t.calls[i]? = some (.marking r n [])) (hs : s.IsNew t.settings r n) :
      Move t a { t with
        scans := t.scans ++ [s]
        active := some t.scans.length
        holder := none
        calls := t.calls.set i .returned
        log := log }
  | thread {g : Nat} {s s' : Scan} (hs : t.scans[g]? = some s) (h : s.ThreadMove t s') :
      Move t (.thread g) { t with scans := t.scans.set g s' }
  | file {g k : Nat} {s : Scan} {f : SourceFile} {task task' : FileTask}
      {counters : Counters} {log : List LogRecord}
      (hs : t.scans[g]? = some s) (hf : s.files[k]? = some f) (ht : s.fileTasks[k]? = some task)
      (h : task.Move t s f task') :
      Move t (.file g k) { t with
        scans := t.scans.set g (s.afterFile k task task'), counters := counters, log := log }
  | entry {g k id : Nat} {s : Scan} {e : Entry} {task task' : EntryTask}
      {counters : Counters} {log : List LogRecord}
      (hs : t.scans[g]? = some s) (hid : s.entries[k]? = some id) (he : t.entries[id]? = some e)
      (ht : s.entryTasks[k]? = some task) (h : task.Move t s e task') :
      Move t (.entry g k) { t with
        scans := t.scans.set g (s.afterEntry k task task'), counters := counters, log := log }
  | published {g k id : Nat} {s : Scan} {e : Entry} {found : List Reference} {slot : Slot}
      (hs : t.scans[g]? = some s) (hid : s.entries[k]? = some id) (he : t.entries[id]? = some e)
      (ht : s.entryTasks[k]? = some (.publishing found)) (hslot : t.slots[id]? = some slot)
      (ha : slot.accepts s.generation = true) :
      Move t (.entry g k) { t with
        slots := t.slots.set id (slot.publish s.generation found)
        scans := t.scans.set g
          { s with entryTasks := s.entryTasks.set k (.counting .entry found.length) } }
  | refused {g k id : Nat} {s : Scan} {e : Entry} {found : List Reference}
      (hs : t.scans[g]? = some s) (hid : s.entries[k]? = some id) (he : t.entries[id]? = some e)
      (ht : s.entryTasks[k]? = some (.publishing found))
      (ha : ∀ slot, t.slots[id]? = some slot → slot.accepts s.generation = false) :
      Move t (.entry g k) { t with
        scans := t.scans.set g { s with entryTasks := s.entryTasks.set k .visiting } }
  | taken {g : Nat} {s : Scan} (hs : t.scans[g]? = some s) :
      Move t (.take g) { t with scans := t.scans.set g { s with outcome := none } }
  | files {tree : FileTree} : Move t (.files tree) { t with files := tree }

/-! ### Every step is a move -/

theorem updateScan_eq (hs : t.scans[g]? = some s) (f : Scan → Scan) :
    t.updateScan g f = { t with scans := t.scans.set g (f s) } := by
  simp [updateScan, List.modify_eq_set_getElem?, hs]

/-- A scan that has just been changed is found in its place. -/
theorem getElem?_updateScan (hs : t.scans[g]? = some s) (f : Scan → Scan) :
    (t.updateScan g f).scans[g]? = some (f s) := by
  simp [updateScan, hs]

theorem setFileTask_eq (hs : t.scans[g]? = some s) (k : Nat) (task : FileTask) :
    t.setFileTask g k task =
      { t with scans := t.scans.set g { s with fileTasks := s.fileTasks.set k task } } :=
  updateScan_eq hs _

theorem setEntryTask_eq (hs : t.scans[g]? = some s) (k : Nat) (task : EntryTask) :
    t.setEntryTask g k task =
      { t with scans := t.scans.set g { s with entryTasks := s.entryTasks.set k task } } :=
  updateScan_eq hs _

theorem setStage_eq (hs : t.scans[g]? = some s) (stage : Stage) :
    t.setStage g stage = { t with scans := t.scans.set g { s with stage := stage } } :=
  updateScan_eq hs _

theorem move_file {f : SourceFile} {task : FileTask} (hs : t.scans[g]? = some s)
    (hf : s.files[k]? = some f) (ht : s.fileTasks[k]? = some task) :
    Move t (.file g k) (t.stepFile g k s f task) := by
  cases task with
  | waiting poll =>
    simp only [stepFile]
    split <;> rename_i h <;> rw [setFileTask_eq hs]
    · obtain ⟨rfl, hc⟩ := look_eq_none h
      exact .file hs hf ht (.unflagged hc)
    · exact .file hs hf ht (.dropped (stops_of_look h))
    · obtain ⟨rfl, hn⟩ := look_eq_false h
      exact .file hs hf ht (.begun hn)
  | opening =>
    simp only [stepFile]
    split <;> rename_i h
    · rw [setFileTask_eq hs]
      exact .file hs hf ht (.unread (by simpa using h))
    · rw [setFileTask_eq (t := t.report _) hs]
      exact .file hs hf ht (.read (by simpa using h))
  | indexing poll lines left =>
    cases left with
    | nil =>
      rw [stepFile, setFileTask_eq hs]
      exact .file hs hf ht .exhausted
    | cons l rest =>
      simp only [stepFile]
      split <;> rename_i h <;> rw [setFileTask_eq hs]
      · obtain ⟨rfl, hc⟩ := look_eq_none h
        exact .file hs hf ht (.lineUnflagged hc)
      · exact .file hs hf ht (.cut (stops_of_look h))
      · obtain ⟨rfl, hn⟩ := look_eq_false h
        exact .file hs hf ht (.line hn)
  | counting index =>
    rw [stepFile, setFileTask_eq (s := s)]
    · exact .file hs hf ht .counted
    · exact hs
  | visiting index =>
    rw [stepFile, setFileTask_eq (getElem?_updateScan hs _), updateScan_eq hs]
    simp only [List.set_set]
    exact .file hs hf ht .visited
  | done index => exact .idle rfl

theorem move_tryLine {id i : Nat} {e : Entry} {file : FileIndex} {m : Matchers}
    {left : List (FileIndex × Nat)} {found : List Reference}
    (hs : t.scans[g]? = some s) (hid : s.entries[k]? = some id) (he : t.entries[id]? = some e)
    (ht : s.entryTasks[k]? = some (.searching .number ((file, i) :: left) m found))
    (hn : t.generation = s.generation) :
    Move t (.entry g k) (t.tryLine g k s e file i left m found) := by
  rw [tryLine]
  split
  · rename_i hl
    rw [setEntryTask_eq hs]
    exact .entry hs hid he ht (.tried hn (by simp [SearchContext.tryLine, hl]))
  · rename_i line hl
    rw [setEntryTask_eq (s := s)]
    · refine .entry hs hid he ht (.tried hn ?_)
      simp only [SearchContext.tryLine, hl]
      cases (SearchContext.tryRules ⟨s.rules, e, t.settings.patternSizeLimit⟩ file.file (i + 1)
        line m file.ruleIds).segments <;> simp
    · exact hs

theorem move_entry {id : Nat} {e : Entry} {task : EntryTask} (hs : t.scans[g]? = some s)
    (hid : s.entries[k]? = some id) (he : t.entries[id]? = some e)
    (ht : s.entryTasks[k]? = some task) :
    Move t (.entry g k) (t.stepEntry g k s id e task) := by
  cases task with
  | waiting poll =>
    simp only [stepEntry]
    split <;> rename_i h <;> rw [setEntryTask_eq hs]
    · obtain ⟨rfl, hc⟩ := look_eq_none h
      exact .entry hs hid he ht (.unflagged hc)
    · exact .entry hs hid he ht (.dropped (stops_of_look h))
    · obtain ⟨rfl, hn⟩ := look_eq_false h
      exact .entry hs hid he ht (.begun hn)
  | lookingUp =>
    rw [stepEntry, setEntryTask_eq hs]
    exact .entry hs hid he ht .lookedUp
  | searching poll left m found =>
    rcases left with _ | ⟨⟨file, i⟩, rest⟩
    · rw [stepEntry, setEntryTask_eq hs]
      exact .entry hs hid he ht .exhausted
    · simp only [stepEntry]
      split <;> rename_i h
      · rw [setEntryTask_eq hs]
        obtain ⟨rfl, hc⟩ := look_eq_none h
        exact .entry hs hid he ht (.lineUnflagged hc)
      · rw [setEntryTask_eq hs]
        exact .entry hs hid he ht (.cut (stops_of_look h))
      · obtain ⟨rfl, hn⟩ := look_eq_false h
        exact move_tryLine hs hid he ht hn
  | checking poll found =>
    simp only [stepEntry]
    split <;> rename_i h <;> rw [setEntryTask_eq hs]
    · obtain ⟨rfl, hc⟩ := look_eq_none h
      exact .entry hs hid he ht (.checkUnflagged hc)
    · exact .entry hs hid he ht (.givenUp (stops_of_look h))
    · obtain ⟨rfl, hn⟩ := look_eq_false h
      exact .entry hs hid he ht (.cleared hn)
  | publishing found =>
    simp only [stepEntry]
    split
    · rename_i hslot
      rw [setEntryTask_eq hs]
      exact .refused hs hid he ht fun slot h => by simp [hslot] at h
    · rename_i slot hslot
      split
      · rename_i ha
        rw [setEntryTask_eq (s := s)]
        · exact .published hs hid he ht hslot ha
        · exact hs
      · rename_i ha
        rw [setEntryTask_eq hs]
        refine .refused hs hid he ht fun slot' h => ?_
        obtain rfl : slot = slot' := Option.some.inj (hslot.symm.trans h)
        simpa using ha
  | counting tally n =>
    cases tally with
    | entry =>
      rw [stepEntry, setEntryTask_eq (getElem?_updateScan hs _), updateScan_eq hs]
      simp only [List.set_set]
      exact .entry hs hid he ht .entryCounted
    | references =>
      rw [stepEntry, setEntryTask_eq (getElem?_updateScan hs _), updateScan_eq hs]
      simp only [List.set_set]
      exact .entry hs hid he ht .referencesCounted
    | totalEntries =>
      rw [stepEntry, setEntryTask_eq (s := s)]
      · exact .entry hs hid he ht .entryTotalled
      · exact hs
    | totalReferences =>
      rw [stepEntry, setEntryTask_eq (s := s)]
      · exact .entry hs hid he ht .referencesTotalled
      · exact hs
  | visiting =>
    rw [stepEntry, setEntryTask_eq (getElem?_updateScan hs _), updateScan_eq hs]
    simp only [List.set_set]
    exact .entry hs hid he ht .visited
  | done => exact .idle (attempt?_entry hs hid he ht)

theorem stepAdvance_eq (hs : t.scans[g]? = some s) (a : Advance) (left : Advance → Stage)
    (done : Stage) :
    t.stepAdvance g s a left done =
      { t with scans := t.scans.set g { s with
          progress := (a.step s.progress).1
          stage := (a.step s.progress).2.elim done left } } :=
  updateScan_eq hs _

theorem getElem?_stepAdvance (hs : t.scans[g]? = some s) (a : Advance) (left : Advance → Stage)
    (done : Stage) :
    (t.stepAdvance g s a left done).scans[g]? = some { s with
      progress := (a.step s.progress).1
      stage := (a.step s.progress).2.elim done left } :=
  getElem?_updateScan hs _

theorem move_thread (hs : t.scans[g]? = some s) : Move t (.thread g) (t.stepThread g s) := by
  rw [stepThread]
  split <;> rename_i h
  · rw [updateScan_eq hs]
    exact .thread hs (.started h)
  · split
    · rename_i hd
      rw [setStage_eq hs]
      exact .thread hs (.filesDone h hd)
    · exact .idle rfl
  · split <;> rename_i hl
    · obtain ⟨rfl, hc⟩ := look_eq_none hl
      rw [setStage_eq hs]
      exact .thread hs (.filesUnflagged h hc)
    · rw [setStage_eq hs]
      exact .thread hs (.filesStopped h (stops_of_look hl))
    · obtain ⟨rfl, hn⟩ := look_eq_false hl
      rw [updateScan_eq hs]
      exact .thread hs (.filesCleared h hn)
  · rename_i a
    rw [updateScan_eq (getElem?_stepAdvance hs ..), stepAdvance_eq hs]
    cases ha : (a.step s.progress).2 with
    | none =>
      simp only [Option.elim, List.set_set]
      exact .thread hs (.matchingBegun h ha)
    | some b =>
      simp only [Option.elim, List.set_set]
      exact .thread hs (.starting h ha)
  · split
    · rename_i hd
      rw [setStage_eq hs]
      exact .thread hs (.entriesDone h hd)
    · exact .idle rfl
  · split <;> rename_i hl <;> rw [setStage_eq hs]
    · obtain ⟨rfl, hc⟩ := look_eq_none hl
      exact .thread hs (.entriesUnflagged h hc)
    · exact .thread hs (.entriesStopped h (stops_of_look hl))
    · obtain ⟨rfl, hn⟩ := look_eq_false hl
      exact .thread hs (.entriesCleared h hn)
  · rename_i a
    rw [stepAdvance_eq hs]
    cases ha : (a.step s.progress).2 with
    | none => exact .thread hs (.completed h ha)
    | some b => exact .thread hs (.completing h ha)
  · rename_i a
    rw [stepAdvance_eq hs]
    cases ha : (a.step s.progress).2 with
    | none => exact .thread hs (.yielded h ha)
    | some b => exact .thread hs (.yielding h ha)
  · rename_i a
    rw [stepAdvance_eq hs]
    cases ha : (a.step s.progress).2 with
    | none => exact .thread hs (.departed h ha)
    | some b => exact .thread hs (.leaving h ha)
  · rw [updateScan_eq hs]
    exact .thread hs (.finished h)
  · rw [updateScan_eq hs]
    exact .thread hs (.reported h)
  · exact .idle rfl

/-- A request to stop changes nothing but one scan. -/
theorem stepCancel_eq (t : Tracker) (g : Nat) (c : CancelCall) :
    ∃ scans, CancelMove t scans ∧ (t.stepCancel g c).1 = { t with scans := scans } := by
  rw [stepCancel]
  split
  · exact ⟨_, .same, rfl⟩
  · rename_i s hs
    cases c with
    | flagging => exact ⟨_, .flagged hs, updateScan_eq hs _⟩
    | looking => exact ⟨_, .same, rfl⟩
    | advancing a => exact ⟨_, .advanced hs, updateScan_eq hs _⟩

theorem move_call {i : Nat} {c : Call} (hc : t.calls[i]? = some c) :
    Move t (.call i) (t.stepCall i c) := by
  cases c with
  | cancel g c =>
    obtain ⟨scans, hm, he⟩ := stepCancel_eq t g c
    simp only [stepCall, setCall, he]
    cases (t.stepCancel g c).2 with
    | none => exact .cancelled hc hm
    | some c' => exact .cancelling hc hm
  | stop =>
    rw [stepCall]
    split
    · exact .idle rfl
    · rename_i hh
      have hh : t.holder = none := by simpa using hh
      split
      · exact .stopIdle hc
      · exact .stopBegun hc hh
  | stopping g c =>
    obtain ⟨scans, hm, he⟩ := stepCancel_eq t g c
    rw [stepCall]
    split
    · rename_i t' c' h
      obtain rfl : t' = { t with scans := scans } := by rw [← he, h]
      exact .stopping hc hm
    · rename_i t' h
      obtain rfl : t' = { t with scans := scans } := by rw [← he, h]
      exact .stopped hc hm
  | start r =>
    rw [stepCall]
    split
    · exact .idle rfl
    · rename_i hh
      have hh : t.holder = none := by simpa using hh
      split
      · exact .startIdle hc hh
      · exact .startBegun hc hh
  | replacing r g c =>
    obtain ⟨scans, hm, he⟩ := stepCancel_eq t g c
    rw [stepCall]
    split
    · rename_i t' c' h
      obtain rfl : t' = { t with scans := scans } := by rw [← he, h]
      exact .replacing hc hm
    · rename_i t' h
      obtain rfl : t' = { t with scans := scans } := by rw [← he, h]
      exact .replaced hc hm
  | numbering r => exact .numbered hc
  | marking r n left =>
    cases left with
    | nil => exact .launched (Or.inl rfl) hc .queued
    | cons id rest => exact .marked hc
  | returned => exact .idle rfl

theorem move_deny {i : Nat} {c : Call} (cause : String) (hc : t.calls[i]? = some c) :
    Move t (.deny i cause) (t.denyCall i cause c) := by
  unfold denyCall
  split
  · exact .launched (Or.inr ⟨cause, rfl⟩) hc .unstarted
  · exact .idle rfl

/-- **Every step is a move.** -/
theorem move_step (t : Tracker) (a : Action) : Move t a (t.step a) := by
  cases a with
  | begins r => exact .called rfl
  | stops => exact .called rfl
  | cancels g => exact .called rfl
  | call i =>
    rw [step]
    split
    · exact move_call ‹_›
    · exact .idle rfl
  | deny i cause =>
    rw [step]
    split
    · exact move_deny cause ‹_›
    · exact .idle rfl
  | thread g =>
    rw [step]
    split
    · exact move_thread ‹_›
    · exact .idle rfl
  | file g k =>
    rw [step]
    split
    · exact .idle rfl
    · split
      · exact move_file ‹_› ‹_› ‹_›
      · exact .idle rfl
  | entry g k =>
    rw [step]
    split
    · rename_i hs
      exact .idle (by simp [attempt?, hs])
    · rename_i s hs
      split
      · rename_i id task hid ht
        split
        · exact move_entry hs hid ‹_› ht
        · rename_i he
          exact .idle (by cases task <;> simp [attempt?, hs, hid, ht, he])
      · rename_i hno
        exact .idle (by simp only [attempt?, hs]; split <;> simp_all)
  | take g =>
    rw [step]
    cases hs : t.scans[g]? with
    | none =>
      have : t.updateScan g (fun s => { s with outcome := none }) = t := by
        simp [updateScan, List.modify_eq_set_getElem?, hs]
      rw [this]
      exact .idle rfl
    | some s =>
      rw [updateScan_eq hs]
      exact .taken hs
  | files tree => exact .files

end Tracker

end KeyTrace
