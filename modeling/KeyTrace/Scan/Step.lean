import KeyTrace.Scan.Machine

/-!
# Steps of the tracker

Each action lets one participant take one step. An action that is not possible, such as a step of a
task that is done or of a call that has to wait for another one, changes nothing.

## Main definitions

* `Action`: who takes the next step.
* `Tracker.step`, `Tracker.run`: one step, and a sequence of them.
-/

namespace KeyTrace

/-- Who takes the next step. -/
inductive Action where
  /-- A caller starts to begin a scan. -/
  | begins (r : ScanRequest)
  /-- A caller starts to stop the current scan, as dropping the tracker does. -/
  | stops
  /-- A caller starts to cancel a scan. -/
  | cancels (scan : Nat)
  /-- A call goes on. -/
  | call (i : Nat)
  /-- A call is about to start the thread of its scan, and the system denies it one for a cause. -/
  | deny (i : Nat) (cause : String)
  /-- The thread of a scan goes on. -/
  | thread (scan : Nat)
  /-- The work of a scan on one of its files goes on. -/
  | file (scan task : Nat)
  /-- The work of a scan on one of its entries goes on. -/
  | entry (scan task : Nat)
  /-- The outcome of a scan is taken. -/
  | take (scan : Nat)
  /-- The files change. -/
  | files (t : FileTree)

namespace Tracker

/-- Changes one scan. -/
def updateScan (t : Tracker) (g : Nat) (f : Scan → Scan) : Tracker :=
  { t with scans := t.scans.modify g f }

/-- Adds records to the log. -/
def report (t : Tracker) (records : List LogRecord) : Tracker := { t with log := t.log ++ records }

/-- One step of a look at whether to stop: `some` answer, or `none` when the second step is left. -/
def look (t : Tracker) (s : Scan) : Poll → Option Bool
  | .flag => if s.cancelled then some true else none
  | .number => some (t.generation != s.generation)

/-! ### Work on files -/

/-- Replaces the task on a file. -/
def setFileTask (t : Tracker) (g k : Nat) (task : FileTask) : Tracker :=
  t.updateScan g fun s => { s with fileTasks := s.fileTasks.set k task }

/-- The index of a file over all its lines but the last ones, `left`. -/
def indexOf (s : Scan) (file : SourceFile) (lines left : List String) : FileIndex :=
  FileIndex.ofLines file s.rules s.candidates lines (lines.length - left.length)

/-- One step of the work on a file. -/
def stepFile (t : Tracker) (g k : Nat) (s : Scan) (file : SourceFile) : FileTask → Tracker
  | .waiting poll =>
    match t.look s poll with
    | none => t.setFileTask g k (.waiting .number)
    | some true => t.setFileTask g k (.done none)
    | some false => t.setFileTask g k .opening
  | .opening =>
    if (s.rules.idsFor file.extension).isEmpty then
      t.setFileTask g k (.counting (FileIndex.unread file))
    else
      let (lines, log) := file.readLines t.files
      (t.report log).setFileTask g k (.indexing .flag lines lines)
  | .indexing poll lines left =>
    match left with
    | [] => t.setFileTask g k (.counting (indexOf s file lines left))
    | _ :: rest =>
      match t.look s poll with
      | none => t.setFileTask g k (.indexing .number lines left)
      | some true => t.setFileTask g k (.counting (indexOf s file lines left))
      | some false => t.setFileTask g k (.indexing .flag lines rest)
  | .counting index =>
    let c := t.counters
    let c := if index.isApplicable then { c with filesIndexed := c.filesIndexed + 1 }
      else { c with filesSkipped := c.filesSkipped + 1 }
    { t with counters := c }.setFileTask g k (.visiting index)
  | .visiting index =>
    (t.updateScan g fun s => { s with progress := s.progress.visit }).setFileTask g k
      (.done (some index))
  | .done _ => t

/-! ### Work on entries -/

/-- Replaces the task on an entry. -/
def setEntryTask (t : Tracker) (g k : Nat) (task : EntryTask) : Tracker :=
  t.updateScan g fun s => { s with entryTasks := s.entryTasks.set k task }

/-- The reference that segments on a line make. -/
def referenceAt (file : FileIndex) (i : Nat) (segments : Segments) : Reference :=
  ⟨file.file, i + 1, segments⟩

/-- Tries one line for an entry. -/
def tryLine (t : Tracker) (g k : Nat) (s : Scan) (e : Entry) (file : FileIndex) (i : Nat)
    (left : List (FileIndex × Nat)) (matchers : Matchers) (found : List Reference) : Tracker :=
  match file.line? i with
  | none => t.setEntryTask g k (.searching .flag left matchers found)
  | some line =>
    let x : SearchContext := ⟨s.rules, e, t.settings.patternSizeLimit⟩
    let r := x.tryRules file.file (i + 1) line matchers file.ruleIds
    let found := match r.segments with
      | some segments => found ++ [referenceAt file i segments]
      | none => found
    let errors := t.counters.templateErrors + r.log.length
    let t := { t with counters := { t.counters with templateErrors := errors } }
    (t.report r.log).setEntryTask g k (.searching .flag left r.matchers found)

/-- One step of the work on an entry, the `id`-th of the tracker. -/
def stepEntry (t : Tracker) (g k : Nat) (s : Scan) (id : Nat) (e : Entry) : EntryTask → Tracker
  | .waiting poll =>
    match t.look s poll with
    | none => t.setEntryTask g k (.waiting .number)
    | some true => t.setEntryTask g k .done
    | some false => t.setEntryTask g k .lookingUp
  | .lookingUp => t.setEntryTask g k (.searching .flag (s.lookup.work e.key) [] [])
  | .searching poll left matchers found =>
    match left with
    | [] => t.setEntryTask g k (.checking .flag found)
    | (file, i) :: rest =>
      match t.look s poll with
      | none => t.setEntryTask g k (.searching .number left matchers found)
      | some true => t.setEntryTask g k (.checking .flag found)
      | some false => t.tryLine g k s e file i rest matchers found
  | .checking poll found =>
    match t.look s poll with
    | none => t.setEntryTask g k (.checking .number found)
    | some true => t.setEntryTask g k .done
    | some false => t.setEntryTask g k (.publishing found)
  | .publishing found =>
    match t.slots[id]? with
    | none => t.setEntryTask g k .visiting
    | some slot =>
      if slot.accepts s.generation then
        { t with slots := t.slots.set id (slot.publish s.generation found) }.setEntryTask g k
          (.counting .entry found.length)
      else t.setEntryTask g k .visiting
  | .counting tally n =>
    match tally with
    | .entry =>
      (t.updateScan g fun s => { s with entriesMatched := s.entriesMatched + 1 }).setEntryTask g k
        (.counting .references n)
    | .references =>
      (t.updateScan g fun s => { s with referencesFound := s.referencesFound + n }).setEntryTask g k
        (.counting .totalEntries n)
    | .totalEntries =>
      let c := { t.counters with entriesMatched := t.counters.entriesMatched + 1 }
      { t with counters := c }.setEntryTask g k (.counting .totalReferences n)
    | .totalReferences =>
      let c := { t.counters with referencesFound := t.counters.referencesFound + n }
      { t with counters := c }.setEntryTask g k .visiting
  | .visiting =>
    (t.updateScan g fun s => { s with progress := s.progress.visit }).setEntryTask g k .done
  | .done => t

/-! ### The thread of a scan -/

/-- Whether the work on a file is over. -/
def fileDone : FileTask → Bool
  | .done _ => true
  | _ => false

/-- Whether the work on an entry is over. -/
def entryDone : EntryTask → Bool
  | .done => true
  | _ => false

/-- The indexes that the work on files has left, in the order of the files. -/
def indexesOf (tasks : List FileTask) : List FileIndex :=
  tasks.filterMap fun task =>
    match task with
    | .done index => index
    | _ => none

/-- The counts of a scan that has done all its work. -/
def summaryOf (s : Scan) : Summary :=
  ⟨s.lookup.fileCount, s.files.length - s.lookup.fileCount, s.entriesMatched, s.referencesFound⟩

/-- Puts the thread of a scan at another stage. -/
def setStage (t : Tracker) (g : Nat) (stage : Stage) : Tracker :=
  t.updateScan g fun s => { s with stage := stage }

/-- One step of a change of the scan's state, then `left` while it is on its way and `done`
after. -/
def stepAdvance (t : Tracker) (g : Nat) (s : Scan) (a : Advance) (left : Advance → Stage)
    (done : Stage) : Tracker :=
  let (progress, rest) := a.step s.progress
  t.updateScan g fun s => { s with progress := progress, stage := rest.elim done left }

/-- One step of the thread of a scan. -/
def stepThread (t : Tracker) (g : Nat) (s : Scan) : Tracker :=
  match s.stage with
  | .queued =>
    let keys := s.entries.filterMap fun id => (t.entries[id]?).map Entry.key
    t.updateScan g fun s => { s with
      stage := .indexing, candidates := Candidates.ofKeys keys,
      fileTasks := s.files.map fun _ => .waiting .flag }
  | .indexing => if s.fileTasks.all fileDone then t.setStage g (.indexed .flag) else t
  | .indexed poll =>
    match t.look s poll with
    | none => t.setStage g (.indexed .number)
    | some true => t.setStage g (.yielding (.to .cancelled))
    | some false =>
      t.updateScan g fun s => { s with
        stage := .starting (.to .matching), lookup := Lookup.ofIndexes (indexesOf s.fileTasks) }
  | .starting a =>
    let t := t.stepAdvance g s a .starting .matching
    t.updateScan g fun s =>
      match s.stage with
      | .matching => { s with entryTasks := s.entries.map fun _ => .waiting .flag }
      | _ => s
  | .matching => if s.entryTasks.all entryDone then t.setStage g (.matched .flag) else t
  | .matched poll =>
    match t.look s poll with
    | none => t.setStage g (.matched .number)
    | some true => t.setStage g (.yielding (.to .cancelled))
    | some false => t.setStage g (.completing (.to .idle))
  | .completing a => t.stepAdvance g s a .completing (.finishing (.completed (summaryOf s)))
  | .yielding a => t.stepAdvance g s a .yielding (.leaving (.to .idle))
  | .leaving a => t.stepAdvance g s a .leaving (.finishing .cancelled)
  | .finishing o => t.updateScan g fun s => { s with finished := true, stage := .reporting o }
  | .reporting o => t.updateScan g fun s => { s with outcome := some o, stage := .ended }
  | .ended => t

/-! ### Calls -/

/-- One step of a request to stop a scan; `none` when the request is done. -/
def stepCancel (t : Tracker) (g : Nat) (c : CancelCall) : Tracker × Option CancelCall :=
  match t.scans[g]? with
  | none => (t, none)
  | some s =>
    match c with
    | .flagging =>
      (t.updateScan g fun s => { s with cancelled := true },
        if s.cancelled then none else some .looking)
    | .looking =>
      (t, if s.progress.state.isActive then some (.advancing (.to .cancelled)) else none)
    | .advancing a =>
      let (progress, rest) := a.step s.progress
      (t.updateScan g fun s => { s with progress := progress }, rest.map .advancing)

/-- Replaces a call. -/
def setCall (t : Tracker) (i : Nat) (c : Call) : Tracker := { t with calls := t.calls.set i c }

/-- Ends a call that kept others waiting. -/
def release (t : Tracker) (i : Nat) : Tracker := { t with holder := none }.setCall i .returned

/-- The scan of a request, which has been given a number and not begun to run. It works on the
distinct files that are to be searched, in ascending order. -/
def newScan (settings : ScanSettings) (r : ScanRequest) (generation : Nat) : Scan :=
  let files := SourceFile.distinct settings r.files
  ⟨generation, false, false, ⟨0, r.entries.length + files.length, .indexing⟩, r.entries, files,
    r.rules, .queued, [], [], ⟨[]⟩, [], 0, 0, none⟩

/-- What becomes of a new scan whose thread cannot be started: it is cancelled, goes idle and says
that it has finished. There is no outcome to wait for. -/
def unstarted (s : Scan) : Scan :=
  { s with
    cancelled := true
    finished := true
    progress := (s.progress.advance .cancelled).advance .idle
    stage := .ended }

/-- The record of a scan whose thread cannot be started. -/
def denial (generation : Nat) (cause : String) : LogRecord :=
  ⟨.error, "Failed to start scan #" ++ toString generation ++ ": " ++ cause⟩

/-- Marks one slot for a scan. -/
def markSlot (t : Tracker) (id generation : Nat) : Tracker :=
  { t with slots := t.slots.modify id fun s => s.mark generation }

/-- One step of a call. Beginning and stopping keep other calls of these kinds waiting. -/
def stepCall (t : Tracker) (i : Nat) : Call → Tracker
  | .cancel g c =>
    let (t, rest) := t.stepCancel g c
    t.setCall i (rest.elim .returned (.cancel g))
  | .stop =>
    if t.holder.isSome then t
    else
      match t.active with
      | none => t.setCall i .returned
      | some g => { t with active := none, holder := some i }.setCall i (.stopping g .flagging)
  | .stopping g c =>
    match t.stepCancel g c with
    | (t, some c) => t.setCall i (.stopping g c)
    | (t, none) => t.release i
  | .start r =>
    if t.holder.isSome then t
    else
      match t.active with
      | none => { t with holder := some i }.setCall i (.numbering r)
      | some g => { t with active := none, holder := some i }.setCall i (.replacing r g .flagging)
  | .replacing r g c =>
    match t.stepCancel g c with
    | (t, some c) => t.setCall i (.replacing r g c)
    | (t, none) => t.setCall i (.numbering r)
  | .numbering r =>
    { t with generation := t.generation + 1 }.setCall i (.marking r (t.generation + 1) r.entries)
  | .marking r generation left =>
    match left with
    | id :: rest => (t.markSlot id generation).setCall i (.marking r generation rest)
    | [] =>
      { t with
        scans := t.scans ++ [newScan t.settings r generation]
        active := some t.scans.length }.release i
  | .returned => t

/-- A call that is denied a thread. Nobody else knows of the scan before the call is over, so all of
this is one step. -/
def denyCall (t : Tracker) (i : Nat) (cause : String) : Call → Tracker
  | .marking r generation [] =>
    { t.report [denial generation cause] with
      scans := t.scans ++ [unstarted (newScan t.settings r generation)]
      active := some t.scans.length }.release i
  | _ => t

/-! ### Actions -/

/-- One step. -/
def step (t : Tracker) : Action → Tracker
  | .begins r => { t with calls := t.calls ++ [.start r] }
  | .stops => { t with calls := t.calls ++ [.stop] }
  | .cancels g => { t with calls := t.calls ++ [.cancel g .flagging] }
  | .call i =>
    match t.calls[i]? with
    | some c => t.stepCall i c
    | none => t
  | .deny i cause =>
    match t.calls[i]? with
    | some c => t.denyCall i cause c
    | none => t
  | .thread g =>
    match t.scans[g]? with
    | some s => t.stepThread g s
    | none => t
  | .file g k =>
    match t.scans[g]? with
    | none => t
    | some s =>
      match s.files[k]?, s.fileTasks[k]? with
      | some file, some task => t.stepFile g k s file task
      | _, _ => t
  | .entry g k =>
    match t.scans[g]? with
    | none => t
    | some s =>
      match s.entries[k]?, s.entryTasks[k]? with
      | some id, some task =>
        match t.entries[id]? with
        | some e => t.stepEntry g k s id e task
        | none => t
      | _, _ => t
  | .take g => t.updateScan g fun s => { s with outcome := none }
  | .files f => { t with files := f }

/-- Steps one after the other. -/
def run (t : Tracker) (actions : List Action) : Tracker := actions.foldl step t

end Tracker

end KeyTrace
