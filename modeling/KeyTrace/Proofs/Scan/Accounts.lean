import KeyTrace.Proofs.Scan.Publication

/-!
# What the counters count

The counters of a tracker are shared by all of its scans, and they are brought up to date some steps
after what they count has happened. Each of them is kept like an account: what it shows and what is
still owed to it add up to what has been booked for it, by the indexes that the work on files has
left and by the lists that were accepted. Each step keeps every account in balance, also the steps
of scans that were asked to stop.

Where no task is about to be counted, nothing is owed, so that the counters show what has happened.

## Main definitions

* `Account`, `Account.Sound`: what is booked for a counter, and what is owed to it.
* `Account.files`, `Account.entries`, `Account.references`: the accounts of the four counters.
* `Tracker.Settled`: no task is about to be counted.
* `Tracker.indexed`: the indexes that the scans have made.
* `Counters.Shows`: the counters show what has happened.

## Main results

* `Account.Sound.step`, `Account.Sound.run`: an account stays in balance.
* `Tracker.Settled.shows`: what the counters show.
-/

namespace KeyTrace

/-! ### What a task is about to count -/

/-- Whether the file has been indexed and not been counted yet. -/
def FileTask.isCounting : FileTask → Bool
  | .counting _ => true
  | _ => false

/-- Whether the list has been accepted and not been counted in full yet. -/
def EntryTask.isCounting : EntryTask → Bool
  | .counting _ _ => true
  | _ => false

/-- The counters once the work on a file has taken a step. -/
def FileTask.tallied (c : Counters) : FileTask → Counters
  | .counting index =>
    if index.isApplicable then { c with filesIndexed := c.filesIndexed + 1 }
    else { c with filesSkipped := c.filesSkipped + 1 }
  | _ => c

/-- The counters once the work on an entry has taken a step, templates that do not compile apart. -/
def EntryTask.tallied (c : Counters) : EntryTask → Counters
  | .counting .totalEntries _ => { c with entriesMatched := c.entriesMatched + 1 }
  | .counting .totalReferences n => { c with referencesFound := c.referencesFound + n }
  | _ => c

namespace Tracker

variable {t : Tracker} {g k : Nat} {s : Scan}

theorem counters_stepFile (t : Tracker) (g k : Nat) (s : Scan) (f : SourceFile) (task : FileTask) :
    (t.stepFile g k s f task).counters = task.tallied t.counters := by
  cases task with
  | waiting poll =>
    rw [stepFile]
    split <;> rfl
  | opening =>
    rw [stepFile]
    split <;> rfl
  | indexing poll lines left =>
    cases left with
    | nil => rfl
    | cons l rest =>
      rw [stepFile]
      split <;> rfl
  | counting index => rfl
  | visiting index => rfl
  | done index => rfl

/-- How the work on a file changes the counters. -/
theorem counters_file {f : SourceFile} {task : FileTask} (hs : t.scans[g]? = some s)
    (hf : s.files[k]? = some f) (ht : s.fileTasks[k]? = some task) :
    (t.step (.file g k)).counters = task.tallied t.counters := by
  simp only [step, hs, hf, ht]
  exact t.counters_stepFile g k s f task

theorem counters_stepEntry (t : Tracker) (g k : Nat) (s : Scan) (id : Nat) (e : Entry)
    (task : EntryTask) :
    ∃ n, (t.stepEntry g k s id e task).counters =
      { task.tallied t.counters with templateErrors := n } := by
  cases task with
  | waiting poll =>
    rw [stepEntry]
    split <;> exact ⟨_, rfl⟩
  | lookingUp => exact ⟨_, rfl⟩
  | searching poll left m found =>
    rcases left with _ | ⟨⟨file, i⟩, rest⟩
    · exact ⟨_, rfl⟩
    · rw [stepEntry]
      split
      · exact ⟨_, rfl⟩
      · exact ⟨_, rfl⟩
      · rw [tryLine]
        split <;> exact ⟨_, rfl⟩
  | checking poll found =>
    rw [stepEntry]
    split <;> exact ⟨_, rfl⟩
  | publishing found =>
    rw [stepEntry]
    split
    · exact ⟨_, rfl⟩
    · split <;> exact ⟨_, rfl⟩
  | counting tally n => cases tally <;> exact ⟨_, rfl⟩
  | visiting => exact ⟨_, rfl⟩
  | done => exact ⟨_, rfl⟩

/-- How the work on an entry changes the counters. -/
theorem counters_entry {id : Nat} {e : Entry} {task : EntryTask} (hs : t.scans[g]? = some s)
    (hid : s.entries[k]? = some id) (he : t.entries[id]? = some e)
    (ht : s.entryTasks[k]? = some task) :
    ∃ n, (t.step (.entry g k)).counters =
      { task.tallied t.counters with templateErrors := n } := by
  simp only [step, hs, hid, he, ht]
  exact t.counters_stepEntry g k s id e task

end Tracker

/-! ### Accounts -/

/-- What is kept beside a counter. -/
structure Account where
  counter : Counters → Nat
  /-- What the work on a file has been booked with. -/
  file : FileTask → Nat
  /-- What an accepted list has been booked with. -/
  credit : List Reference → Nat
  /-- What the work on an entry owes to the counter. -/
  entry : EntryTask → Nat

namespace Account

/-- The account goes with the steps of the work. -/
structure Sound (x : Account) : Prop where
  fresh : x.counter {} = 0
  templateErrors : ∀ c n, x.counter { c with templateErrors := n } = x.counter c
  fileWaiting : x.file (.waiting .flag) = 0
  entryIdle : ∀ task : EntryTask, task.isCounting = false → x.entry task = 0
  fileStep : ∀ {t s f} {task task' : FileTask} (c : Counters), task.Move t s f task' →
    x.counter (task.tallied c) + x.file task = x.counter c + x.file task'
  entryStep : ∀ {t s e} {task task' : EntryTask} (c : Counters), task.Move t s e task' →
    x.counter (task.tallied c) + x.entry task' = x.counter c + x.entry task
  published : ∀ found, x.entry (.counting .entry found.length) = x.credit found

variable (x : Account)

/-- What the work of a scan on its files has been booked with. -/
def booked (s : Scan) : Nat := (s.fileTasks.map x.file).sum

/-- What the work of a scan on its entries owes. -/
def owed (s : Scan) : Nat := (s.entryTasks.map x.entry).sum

/-- What the accepted ones among some attempts have been booked with. -/
def credited (attempts : List Attempt) : Nat :=
  ((attempts.filter Attempt.accepted).map fun p => x.credit p.references).sum

/-- The counter and what is owed to it add up to what has been booked. -/
def Balanced (attempts : List Attempt) (t : Tracker) : Prop :=
  x.counter t.counters + (t.scans.map x.owed).sum =
    (t.scans.map x.booked).sum + x.credited attempts

theorem credited_append (attempts more : List Attempt) :
    x.credited (attempts ++ more) = x.credited attempts + x.credited more := by
  simp [credited, List.filter_append]

/-! ### Steps -/

section

variable {x : Account} {l : Ledger} {t t' : Tracker} {g k : Nat} {s s' : Scan}
  {attempts more : List Attempt}

/-- Where one scan is replaced, the account stays in balance if it does so for this scan. -/
theorem Balanced.set (hb : x.Balanced attempts t) (hs : t.scans[g]? = some s)
    (hscans : t'.scans = t.scans.set g s')
    (h : x.counter t'.counters + x.owed s' + x.booked s =
      x.counter t.counters + x.owed s + x.booked s' + x.credited more) :
    x.Balanced (attempts ++ more) t' := by
  have howed := sum_map_set x.owed s' hs
  have hbooked := sum_map_set x.booked s' hs
  rw [Balanced] at hb
  rw [Balanced, hscans, credited_append]
  omega

/-- A step that leaves tasks and counters alone. -/
theorem Balanced.keep (hb : x.Balanced attempts t) (hs : t.scans[g]? = some s)
    (hscans : t'.scans = t.scans.set g s') (hcounters : t'.counters = t.counters)
    (howed : x.owed s' = x.owed s) (hbooked : x.booked s' = x.booked s) :
    x.Balanced attempts t' := by
  rw [← List.append_nil attempts]
  refine hb.set hs hscans ?_
  rw [hcounters, howed, hbooked]
  rfl

theorem Balanced.cancel {scans : List Scan} (hb : x.Balanced attempts t)
    (hm : t.CancelMove scans) (hscans : t'.scans = scans)
    (hcounters : t'.counters = t.counters) : x.Balanced attempts t' := by
  cases hm with
  | same =>
    rw [Balanced, hscans, hcounters]
    exact hb
  | flagged hs => exact hb.keep hs hscans hcounters rfl rfl
  | advanced hs => exact hb.keep hs hscans hcounters rfl rfl

namespace Sound

variable (hx : x.Sound)
include hx

/-- The thread of a scan begins work, which has not been booked with anything. -/
theorem booked_thread (h : ScanInv l t g s) (hm : s.ThreadMove t s') :
    x.booked s' = x.booked s := by
  have hst := h.stage
  cases hm with
  | started hs =>
    rw [hs] at hst
    simp [booked, hst.1, hx.fileWaiting]
  | _ => rfl

theorem owed_thread (h : ScanInv l t g s) (hm : s.ThreadMove t s') : x.owed s' = x.owed s := by
  have hst := h.stage
  cases hm with
  | matchingBegun hs =>
    rw [hs] at hst
    simp [owed, hst.2.1, hx.entryIdle (.waiting .flag) rfl]
  | _ => rfl

/-- The work on a file keeps an account in balance. -/
theorem file {f : SourceFile} {task task' : FileTask} (hb : x.Balanced attempts t)
    (hs : t.scans[g]? = some s) (hf : s.files[k]? = some f) (ht : s.fileTasks[k]? = some task)
    (hm : task.Move t s f task') (ht' : t.step (.file g k) = t')
    (hscans : t'.scans = t.scans.set g (s.afterFile k task task')) :
    x.Balanced attempts t' := by
  have hcounters : t'.counters = task.tallied t.counters :=
    ht' ▸ Tracker.counters_file hs hf ht
  have htasks : x.booked (s.afterFile k task task') + x.file task = x.booked s + x.file task' :=
    sum_map_set x.file task' ht
  have howed : x.owed (s.afterFile k task task') = x.owed s := rfl
  have hstep := hx.fileStep t.counters hm
  have hnone : x.credited [] = 0 := rfl
  rw [← List.append_nil attempts]
  refine hb.set hs hscans ?_
  rw [hcounters]
  omega

/-- The work on an entry keeps an account in balance, publishing apart. -/
theorem entry {id : Nat} {e : Entry} {task task' : EntryTask} (hb : x.Balanced attempts t)
    (hs : t.scans[g]? = some s) (hid : s.entries[k]? = some id) (he : t.entries[id]? = some e)
    (ht : s.entryTasks[k]? = some task) (hm : task.Move t s e task')
    (ht' : t.step (.entry g k) = t')
    (hscans : t'.scans = t.scans.set g (s.afterEntry k task task')) :
    x.Balanced attempts t' := by
  have hcounters : x.counter t'.counters = x.counter (task.tallied t.counters) := by
    obtain ⟨n, hc⟩ := Tracker.counters_entry hs hid he ht
    rw [← ht', hc]
    exact hx.templateErrors _ n
  have htasks : x.owed (s.afterEntry k task task') + x.entry task = x.owed s + x.entry task' :=
    sum_map_set x.entry task' ht
  have hbooked : x.booked (s.afterEntry k task task') = x.booked s := rfl
  have hstep := hx.entryStep t.counters hm
  have hnone : x.credited [] = 0 := rfl
  rw [← List.append_nil attempts]
  refine hb.set hs hscans ?_
  omega

/-- An attempt to publish keeps an account in balance: what is credited for an accepted list is
owed from then on. -/
theorem attempted {p : Attempt} (hb : x.Balanced attempts t) (hs : t.scans[g]? = some s)
    (ht : s.entryTasks[k]? = some (.publishing p.references))
    (hscans : t'.scans = t.scans.set g
      { s with entryTasks := s.entryTasks.set k (.afterAttempt p.accepted p.references) })
    (hcounters : t'.counters = t.counters) : x.Balanced (attempts ++ [p]) t' := by
  have htasks := sum_map_set x.entry (.afterAttempt p.accepted p.references) ht
  have hpublishing := hx.entryIdle (.publishing p.references) rfl
  have hpublished := hx.published p.references
  have hrefused := hx.entryIdle .visiting rfl
  refine hb.set hs hscans ?_
  rw [hcounters]
  show _ + ((s.entryTasks.set k (.afterAttempt p.accepted p.references)).map x.entry).sum + _ =
    _ + (s.entryTasks.map x.entry).sum + _ + _
  cases hp : p.accepted <;> simp [EntryTask.afterAttempt, credited, hp, booked] at htasks ⊢ <;>
    omega

/-- **Each step keeps an account in balance.** -/
theorem step (h : TrackerInv l t) (hb : x.Balanced attempts t) (a : Action) :
    x.Balanced (attempts ++ (t.attempt? a).toList) (t.step a) := by
  have hnone : t.attempt? a = none → attempts ++ (t.attempt? a).toList = attempts := fun h => by
    rw [h]
    exact List.append_nil _
  generalize ht : t.step a = t'
  have hm : Tracker.Move t a t' := ht ▸ t.move_step a
  cases hm with
  | idle h => rwa [hnone h]
  | called h =>
    rw [hnone (by cases a <;> first | rfl | cases h)]
    exact hb
  | cancelling _ hm | cancelled _ hm | stopping _ hm | stopped _ hm | replacing _ hm
  | replaced _ hm =>
    rw [hnone rfl]
    exact hb.cancel hm rfl rfl
  | launched ha _ hnew =>
    rw [hnone (Tracker.attempt?_call ha), Balanced, List.map_append, List.map_append,
      List.sum_append, List.sum_append]
    cases hnew <;> exact hb
  | thread hs hm =>
    rw [hnone rfl]
    exact hb.keep hs rfl rfl (hx.owed_thread (h.scans hs) hm) (hx.booked_thread (h.scans hs) hm)
  | file hs hf htask hm =>
    rw [hnone rfl]
    exact hx.file hb hs hf htask hm ht rfl
  | entry hs hid he htask hm =>
    rw [hnone (Tracker.attempt?_of_move hs hid he htask hm)]
    exact hx.entry hb hs hid he htask hm ht rfl
  | @published g k id s e found slot hs hid he htask hslot ha =>
    have hp : t.attempt? (.entry g k) = some ⟨g, k, id, found, true⟩ := by
      simp [Tracker.attempt?_entry hs hid he htask, hslot, ha]
    rw [hp]
    exact hx.attempted (p := ⟨g, k, id, found, true⟩) hb hs htask rfl rfl
  | @refused g k id s e found hs hid he htask ha =>
    have hp : t.attempt? (.entry g k) = some ⟨g, k, id, found, false⟩ := by
      rw [Tracker.attempt?_entry hs hid he htask]
      cases hslot : t.slots[id]? with
      | none => rfl
      | some slot => simp [ha slot hslot]
    rw [hp]
    exact hx.attempted (p := ⟨g, k, id, found, false⟩) hb hs htask rfl rfl
  | taken hs =>
    rw [hnone rfl]
    exact hb.keep hs rfl rfl rfl rfl
  | _ =>
    rw [hnone rfl]
    exact hb

/-- **Each run keeps an account in balance.** -/
theorem run (h : TrackerInv l t) (hb : x.Balanced attempts t) (actions : List Action) :
    x.Balanced (attempts ++ t.attempts actions) (t.run actions) := by
  induction actions generalizing t l attempts with
  | nil => rwa [Tracker.attempts, List.append_nil]
  | cons a rest ih =>
    rw [Tracker.attempts, ← List.append_assoc, Tracker.run_cons]
    exact ih (h.step a) (hx.step h hb a)

end Sound

end

/-! ### The accounts of the counters -/

/-- The account of the files that some rule covers, or of those that none does: booked are the
indexes that have been counted. -/
def files (applicable : Bool) : Account where
  counter c := if applicable then c.filesIndexed else c.filesSkipped
  file
    | .visiting index => if index.isApplicable == applicable then 1 else 0
    | .done (some index) => if index.isApplicable == applicable then 1 else 0
    | _ => 0
  credit _ := 0
  entry _ := 0

/-- The account of the entries for which a list was accepted. -/
def entries : Account where
  counter := Counters.entriesMatched
  file _ := 0
  credit _ := 1
  entry
    | .counting .totalReferences _ => 0
    | .counting _ _ => 1
    | _ => 0

/-- The account of the references in the lists that were accepted. -/
def references : Account where
  counter := Counters.referencesFound
  file _ := 0
  credit := List.length
  entry
    | .counting _ n => n
    | _ => 0

theorem sound_files (applicable : Bool) : (files applicable).Sound where
  fresh := by cases applicable <;> rfl
  templateErrors _ _ := rfl
  fileWaiting := rfl
  entryIdle _ _ := rfl
  fileStep c hm := by
    cases hm with
    | @counted index =>
      cases applicable <;> cases h : index.isApplicable <;> simp [files, FileTask.tallied, h]
    | _ => rfl
  entryStep c hm := by cases hm <;> rfl
  published _ := rfl

theorem sound_entries : entries.Sound where
  fresh := rfl
  templateErrors _ _ := rfl
  fileWaiting := rfl
  entryIdle task h := by
    cases task with
    | counting tally n => cases h
    | _ => rfl
  fileStep c hm := by
    cases hm with
    | @counted index => cases h : index.isApplicable <;> simp [entries, FileTask.tallied, h]
    | _ => rfl
  entryStep c hm := by cases hm <;> rfl
  published _ := rfl

theorem sound_references : references.Sound where
  fresh := rfl
  templateErrors _ _ := rfl
  fileWaiting := rfl
  entryIdle task h := by
    cases task with
    | counting tally n => cases h
    | _ => rfl
  fileStep c hm := by
    cases hm with
    | @counted index => cases h : index.isApplicable <;> simp [references, FileTask.tallied, h]
    | _ => rfl
  entryStep c hm := by cases hm <;> rfl
  published _ := rfl

end Account

/-! ### Settled trackers -/

/-- The index that the work on a file has made. -/
def FileTask.index? : FileTask → Option FileIndex
  | .counting index => some index
  | .visiting index => some index
  | .done index => index
  | _ => none

/-- No work of the scan is about to be counted. -/
def Scan.Settled (s : Scan) : Prop :=
  (∀ task ∈ s.fileTasks, task.isCounting = false) ∧ ∀ task ∈ s.entryTasks, task.isCounting = false

instance (s : Scan) : Decidable s.Settled := inferInstanceAs (Decidable (_ ∧ _))

/-- No work of any scan is about to be counted. -/
def Tracker.Settled (t : Tracker) : Prop := ∀ s ∈ t.scans, s.Settled

instance (t : Tracker) : Decidable t.Settled := inferInstanceAs (Decidable (∀ s ∈ t.scans, _))

/-- The indexes of the files that have passed through indexing in some scan. -/
def Tracker.indexed (t : Tracker) : List FileIndex :=
  t.scans.flatMap fun s => s.fileTasks.filterMap FileTask.index?

/-- The counters show which attempts were accepted and which indexes were made. -/
structure Counters.Shows (c : Counters) (attempts : List Attempt) (indexed : List FileIndex) :
    Prop where
  entriesMatched : c.entriesMatched = (attempts.filter Attempt.accepted).length
  referencesFound : c.referencesFound =
    ((attempts.filter Attempt.accepted).map fun p => p.references.length).sum
  filesIndexed : c.filesIndexed = (indexed.filter FileIndex.isApplicable).length
  filesSkipped : c.filesSkipped = (indexed.filter fun x => !x.isApplicable).length

theorem Counters.Shows.files {c : Counters} {attempts : List Attempt} {indexed : List FileIndex}
    (h : c.Shows attempts indexed) : c.filesIndexed + c.filesSkipped = indexed.length := by
  rw [h.filesIndexed, h.filesSkipped]
  exact (List.length_eq_length_filter_add FileIndex.isApplicable).symm

/-- A settled scan owes nothing. -/
theorem Scan.Settled.owed {s : Scan} (h : s.Settled) {x : Account} (hx : x.Sound) :
    x.owed s = 0 := by
  rw [Account.owed, List.sum_eq_zero_iff]
  intro n hn
  obtain ⟨task, htask, rfl⟩ := List.mem_map.1 hn
  exact hx.entryIdle task (h.2 task htask)

/-- The work of a settled scan on its files has been booked with the indexes it has made. -/
theorem Scan.Settled.booked_files {s : Scan} (h : s.Settled) (applicable : Bool) :
    (Account.files applicable).booked s =
      ((s.fileTasks.filterMap FileTask.index?).filter
        fun x => x.isApplicable == applicable).length := by
  have hfiles := h.1
  rw [Account.booked]
  generalize s.fileTasks = tasks at hfiles
  induction tasks with
  | nil => rfl
  | cons task tasks ih =>
    have hrest := ih fun task htask => hfiles task (List.mem_cons_of_mem _ htask)
    have htask := hfiles task List.mem_cons_self
    rw [List.map_cons, List.sum_cons, hrest, List.filterMap_cons]
    cases task with
    | counting index => cases htask
    | visiting index =>
      simp only [FileTask.index?, Account.files, List.filter_cons]
      split <;> simp [Nat.add_comm]
    | done index =>
      cases index with
      | none => simp [FileTask.index?, Account.files]
      | some index =>
        simp only [FileTask.index?, Account.files, List.filter_cons]
        split <;> simp [Nat.add_comm]
    | _ => simp [FileTask.index?, Account.files]

namespace Tracker

variable {t : Tracker} {attempts : List Attempt}

theorem Settled.owed (h : t.Settled) {x : Account} (hx : x.Sound) :
    (t.scans.map x.owed).sum = 0 := by
  rw [List.sum_eq_zero_iff]
  intro n hn
  obtain ⟨s, hs, rfl⟩ := List.mem_map.1 hn
  exact (h s hs).owed hx

theorem Settled.booked_files (h : t.Settled) (applicable : Bool) :
    (t.scans.map (Account.files applicable).booked).sum =
      (t.indexed.filter fun x => x.isApplicable == applicable).length := by
  rw [indexed, List.filter_flatMap, List.length_flatMap]
  congr 1
  exact List.map_congr_left fun s hs => (h s hs).booked_files applicable

/-- A settled tracker shows what has been booked. -/
theorem Settled.counter (h : t.Settled) {x : Account} (hx : x.Sound) (hb : x.Balanced attempts t) :
    x.counter t.counters = (t.scans.map x.booked).sum + x.credited attempts := by
  rw [Account.Balanced, h.owed hx, Nat.add_zero] at hb
  exact hb

/-- An account of lists alone: those that were accepted are on it. -/
theorem Settled.counter_of_lists (h : t.Settled) {x : Account} (hx : x.Sound)
    (hb : x.Balanced attempts t) (hfile : x.file = fun _ => 0) :
    x.counter t.counters = x.credited attempts := by
  have hbooked : (t.scans.map x.booked).sum = 0 := by
    show (t.scans.map fun s => (s.fileTasks.map x.file).sum).sum = 0
    simp [hfile]
  rw [h.counter hx hb, hbooked, Nat.zero_add]

/-- **What the counters show** where nothing is about to be counted: the lists that were accepted,
and the files that have passed through indexing. -/
theorem Settled.shows (h : t.Settled) (hb : ∀ x : Account, x.Sound → x.Balanced attempts t) :
    t.counters.Shows attempts t.indexed := by
  have hfiles (applicable : Bool) : (Account.files applicable).counter t.counters =
      (t.indexed.filter fun x => x.isApplicable == applicable).length := by
    have hsound := Account.sound_files applicable
    rw [h.counter hsound (hb _ hsound), h.booked_files]
    simp [Account.credited, Account.files]
  have hindexed : t.counters.filesIndexed = (t.indexed.filter FileIndex.isApplicable).length := by
    simpa [Account.files] using hfiles true
  have hskipped : t.counters.filesSkipped =
      (t.indexed.filter fun x => !x.isApplicable).length := by
    simpa [Account.files] using hfiles false
  refine ⟨?_, ?_, hindexed, hskipped⟩
  · have hentries := h.counter_of_lists Account.sound_entries (hb _ Account.sound_entries) rfl
    simpa [Account.credited, Account.entries] using hentries
  · exact h.counter_of_lists Account.sound_references (hb _ Account.sound_references) rfl

/-- Every account is in balance after every run. -/
theorem balanced_run (settings : ScanSettings) (entries : List Entry) (files : FileTree)
    (actions : List Action) {x : Account} (hx : x.Sound) :
    x.Balanced ((initial settings entries files).attempts actions)
      ((initial settings entries files).run actions) := by
  have h : x.Balanced [] (initial settings entries files) := hx.fresh
  exact hx.run (TrackerInv.initial settings entries files) h actions

end Tracker

end KeyTrace
