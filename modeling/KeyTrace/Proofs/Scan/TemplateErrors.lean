import KeyTrace.Proofs.Scan.Publication

/-!
# Counting rules that do not compile

A rule is compiled for an entry when it is first needed, and what came of it is kept while the entry
is searched for. So a scan notes for each entry at most once that a rule does not compile, in
however many files and on however many lines the rule is tried; and the counter of such errors
counts just these notes.

## Main definitions

* `RuleSet.broken`: the rules that were compiled and failed.
* `TemplateError`, `Tracker.failures?`, `Tracker.failures`: the notes of a step and of a run.
* `EntryTask.Knows`: the work on an entry does not compile a rule again that failed.

## Main results

* `SearchContext.exists_fresh_tryRules`: what is compiled on a line has not been before.
* `Tracker.errorStep_entry`: how one step changes the counter and the work on entries.
* `Tracker.templateErrors_run`: the counter after a run, and that no note is made twice.
-/

namespace KeyTrace

/-- The rules that were compiled for an entry and failed. -/
def RuleSet.broken (rules : RuleSet) (matchers : Matchers) : List Nat :=
  matchers.filterMap fun p =>
    if p.2.isNone && (rules.rule? p.1).isSome then some p.1 else none

theorem RuleSet.broken_append (rules : RuleSet) (m m' : Matchers) :
    rules.broken (m ++ m') = rules.broken m ++ rules.broken m' :=
  List.filterMap_append

theorem RuleSet.mem_ids_of_mem_broken {rules : RuleSet} {m : Matchers} {id : Nat}
    (h : id ∈ rules.broken m) : id ∈ m.map Prod.fst := by
  obtain ⟨p, hp, hsome⟩ := List.mem_filterMap.1 h
  split at hsome
  · obtain rfl := Option.some.inj hsome
    exact List.mem_map_of_mem hp
  · cases hsome

/-- Different rules are compiled at different places. -/
theorem RuleSet.nodup_broken (rules : RuleSet) {m : Matchers} (h : (m.map Prod.fst).Nodup) :
    (rules.broken m).Nodup := by
  induction m with
  | nil => exact .nil
  | cons p rest ih =>
    rw [List.map_cons, List.nodup_cons] at h
    rw [RuleSet.broken, List.filterMap_cons]
    split
    · exact ih h.2
    · rename_i id hid
      split at hid
      · obtain rfl := Option.some.inj hid
        exact List.nodup_cons.2 ⟨fun hmem => h.1 (RuleSet.mem_ids_of_mem_broken hmem), ih h.2⟩
      · cases hid

/-! ### Lines -/

namespace SearchContext

variable (x : SearchContext)

/-- What trying rules adds to those compiled before: each new one is compiled once, and a record is
logged for each that fails. -/
structure Fresh (old new : Matchers) (records : List LogRecord) : Prop where
  logged : records.length = (x.rules.broken new).length
  nodup : (old.map Prod.fst).Nodup → ((new ++ old).map Prod.fst).Nodup

variable {x}

theorem Fresh.nil (old : Matchers) : x.Fresh old [] [] := ⟨rfl, id⟩

theorem Fresh.trans {old new newer : Matchers} {records more : List LogRecord}
    (h : x.Fresh old new records) (h' : x.Fresh (new ++ old) newer more) :
    x.Fresh old (newer ++ new) (records ++ more) where
  logged := by
    rw [List.length_append, RuleSet.broken_append, List.length_append, h.logged, h'.logged,
      Nat.add_comm]
  nodup hold := by
    rw [List.append_assoc]
    exact h'.nodup (h.nodup hold)

variable (file : SourceFile) (lineNumber : Nat)

/-- A rule that was not compiled before. -/
theorem fresh_compile {old : Matchers} {id : Nat} (h : old.lookup id = none) :
    x.Fresh old [(id, (x.compile file lineNumber id).1)] (x.compile file lineNumber id).2 where
  logged := by
    rw [compile]
    cases hrule : x.rules.rule? id with
    | none => simp [RuleSet.broken, hrule]
    | some r =>
      dsimp only
      cases LineMatcher.compile r x.entry.container x.entry.key x.sizeLimit <;>
        simp [RuleSet.broken, hrule]
  nodup hold := by
    rw [List.singleton_append, List.map_cons, List.nodup_cons]
    refine ⟨fun hmem => ?_, hold⟩
    obtain ⟨p, hp, hid⟩ := List.mem_map.1 hmem
    have hne := List.lookup_eq_none_iff.1 h p hp
    simp [hid] at hne

/-- **What is compiled on a line has not been before.** -/
theorem exists_fresh_tryRules (line : String) (old : Matchers) (ids : List Nat) :
    ∃ new, (x.tryRules file lineNumber line old ids).matchers = new ++ old ∧
      x.Fresh old new (x.tryRules file lineNumber line old ids).log := by
  induction ids generalizing old with
  | nil => exact ⟨[], rfl, .nil old⟩
  | cons id rest ih =>
    cases hid : old.lookup id with
    | some m =>
      obtain ⟨new, hnew, hfresh⟩ := ih old
      cases hm : m.bind fun m => m.apply line with
      | some s =>
        refine ⟨[], ?_, ?_⟩
        · simp [tryRules, hid, hm]
        · simpa [tryRules, hid, hm] using .nil old
      | none =>
        refine ⟨new, ?_, ?_⟩
        · simp [tryRules, hid, hm, hnew]
        · simpa [tryRules, hid, hm]
    | none =>
      have hone := x.fresh_compile file lineNumber hid
      obtain ⟨new, hnew, hfresh⟩ := ih ((id, (x.compile file lineNumber id).1) :: old)
      cases hm : (x.compile file lineNumber id).1.bind fun m => m.apply line with
      | some s =>
        refine ⟨[(id, (x.compile file lineNumber id).1)], ?_, ?_⟩
        · simp [tryRules, hid, hm]
        · simpa [tryRules, hid, hm] using hone
      | none =>
        refine ⟨new ++ [(id, (x.compile file lineNumber id).1)], ?_, ?_⟩
        · simp [tryRules, hid, hm, hnew]
        · simpa [tryRules, hid, hm] using hone.trans hfresh

/-- What is compiled for a line is added to what was kept. -/
theorem exists_append_tryLine (x : SearchContext) (file : FileIndex) (i : Nat)
    (p : Matchers × List Reference) :
    ∃ new, (x.tryLine file i p).1 = new ++ p.1 ∧
      ((p.1.map Prod.fst).Nodup → ((new ++ p.1).map Prod.fst).Nodup) := by
  rw [tryLine]
  split
  · exact ⟨[], rfl, id⟩
  · obtain ⟨new, hnew, hfresh⟩ := x.exists_fresh_tryRules file.file (i + 1) _ p.1 file.ruleIds
    exact ⟨new, hnew, hfresh.nodup⟩

/-- No rule is kept twice, however many lines have been tried. -/
theorem nodup_tryLines (x : SearchContext) (work : List (FileIndex × Nat)) :
    ((x.tryLines work).1.map Prod.fst).Nodup := by
  induction work using List.reverseRecOn with
  | nil => exact .nil
  | append_singleton work w ih =>
    obtain ⟨new, hnew, hnodup⟩ := x.exists_append_tryLine w.1 w.2 (x.tryLines work)
    rw [tryLines_append_singleton, hnew]
    exact hnodup ih

end SearchContext

/-! ### Entries -/

namespace EntryTask

/-- The rules that the work on an entry has compiled and keeps. -/
def matchers : EntryTask → Matchers
  | .searching _ _ m _ => m
  | _ => []

/-- The work on an entry will not compile a rule again that failed: the rule is kept as one that
failed, or the search is over. -/
def Knows (rules : RuleSet) (id : Nat) : EntryTask → Prop
  | .waiting _ => False
  | .lookingUp => False
  | .searching _ _ m _ => id ∈ rules.broken m
  | _ => True

/-- What one step makes of the work on an entry, and how many rules it finds not to compile. -/
inductive Compiles (rules : RuleSet) : EntryTask → EntryTask → Nat → Prop
  | searched {poll poll' : Poll} {left left' : List (FileIndex × Nat)} {m m' new : Matchers}
      {found found' : List Reference} {n : Nat} (hm : m' = new ++ m)
      (hn : n = (rules.broken new).length)
      (h : (m.map Prod.fst).Nodup → ((new ++ m).map Prod.fst).Nodup) :
      Compiles rules (.searching poll left m found) (.searching poll' left' m' found') n
  | other {task task' : EntryTask} (h : task'.matchers = [])
      (hk : ∀ id, task.Knows rules id → task'.Knows rules id) : Compiles rules task task' 0

/-- A search goes on with the rules it has. -/
theorem Compiles.again (rules : RuleSet) {poll poll' : Poll} {left left' : List (FileIndex × Nat)}
    {m : Matchers} {found found' : List Reference} :
    Compiles rules (.searching poll left m found) (.searching poll' left' m found') 0 :=
  .searched (List.nil_append m).symm rfl id

theorem Compiles.knows {rules : RuleSet} {task task' : EntryTask} {n id : Nat}
    (h : task.Compiles rules task' n) (hk : task.Knows rules id) : task'.Knows rules id := by
  cases h with
  | @searched _ _ _ _ m _ new _ _ _ hm =>
    show id ∈ rules.broken _
    rw [hm, RuleSet.broken_append]
    exact List.mem_append_right _ hk
  | other _ hall => exact hall id hk

theorem Compiles.nodup {rules : RuleSet} {task task' : EntryTask} {n : Nat}
    (h : task.Compiles rules task' n) (hnodup : (task.matchers.map Prod.fst).Nodup) :
    (task'.matchers.map Prod.fst).Nodup := by
  cases h with
  | searched hm _ hnew =>
    show (List.map Prod.fst _).Nodup
    rw [hm]
    exact hnew hnodup
  | other hnil => simp [hnil]

end EntryTask

/-! ### Steps -/

/-- A rule that turned out not to compile for the entry at a position in the request of a scan. -/
@[ext]
structure TemplateError where
  scan : Nat
  task : Nat
  rule : Nat
deriving Repr, DecidableEq

namespace Tracker

/-- The rules known not to compile for the entry at a position in the request of a scan, as far as
they are kept. -/
def brokenIn (t : Tracker) (g k : Nat) : List Nat :=
  match t.scans[g]? with
  | none => []
  | some s => s.rules.broken ((s.entryTasks[k]?).elim [] EntryTask.matchers)

/-- The rules that turn out not to compile in a step: it adds them to those that are known. -/
def failures? (t : Tracker) : Action → List TemplateError
  | .entry g k =>
    (((t.step (.entry g k)).brokenIn g k).filter fun id => !(t.brokenIn g k).contains id).map
      fun id => ⟨g, k, id⟩
  | _ => []

/-- The rules that turn out not to compile in a run, in order. -/
def failures (t : Tracker) : List Action → List TemplateError
  | [] => []
  | a :: rest => t.failures? a ++ (t.step a).failures rest

variable {t : Tracker} {g k : Nat} {s : Scan}

/-- A step replaces the task on an entry. -/
structure TaskStep (t : Tracker) (g k : Nat) (s : Scan) (task : EntryTask) (t' : Tracker)
    (s' : Scan) (task' : EntryTask) : Prop where
  scan : t.scans[g]? = some s
  task : s.entryTasks[k]? = some task
  scans : t'.scans = t.scans.set g s'
  rules : s'.rules = s.rules
  tasks : s'.entryTasks = s.entryTasks.set k task'

/-- One step of the work on an entry, as far as rules that do not compile are concerned. -/
inductive ErrorStep (t : Tracker) (g k : Nat) (t' : Tracker) : Prop
  | idle (h : t' = t)
  | task {s s' : Scan} {id n : Nat} {e : Entry} {task task' : EntryTask}
      (hid : s.entries[k]? = some id) (he : t.entries[id]? = some e)
      (hstep : t.TaskStep g k s task t' s' task') (h : task.Compiles s.rules task' n)
      (hn : t'.counters.templateErrors = t.counters.templateErrors + n)

/-- A step that does nothing but replace the task, and compiles no rule that fails. -/
theorem errorStep_set {id : Nat} {e : Entry} {task task' : EntryTask} (hs : t.scans[g]? = some s)
    (hid : s.entries[k]? = some id) (he : t.entries[id]? = some e)
    (ht : s.entryTasks[k]? = some task) (h : task.Compiles s.rules task' 0) :
    ErrorStep t g k (t.setEntryTask g k task') := by
  rw [setEntryTask_eq hs]
  exact .task hid he ⟨hs, ht, rfl, rfl, rfl⟩ h rfl

theorem errorStep_tryLine {id i : Nat} {e : Entry} {file : FileIndex}
    {left : List (FileIndex × Nat)} {m : Matchers} {found : List Reference}
    (hs : t.scans[g]? = some s) (hid : s.entries[k]? = some id) (he : t.entries[id]? = some e)
    (ht : s.entryTasks[k]? = some (.searching .number ((file, i) :: left) m found)) :
    ErrorStep t g k (t.tryLine g k s e file i left m found) := by
  rw [tryLine]
  split
  · exact errorStep_set hs hid he ht (.again s.rules)
  · rename_i line _
    obtain ⟨new, hnew, hfresh⟩ := SearchContext.exists_fresh_tryRules (x := t.context s e)
      file.file (i + 1) line m file.ruleIds
    rw [setEntryTask_eq (s := s)]
    · exact .task hid he ⟨hs, ht, rfl, rfl, rfl⟩ (.searched hnew hfresh.logged hfresh.nodup) rfl
    · exact hs

theorem errorStep_stepEntry {id : Nat} {e : Entry} {task : EntryTask} (hs : t.scans[g]? = some s)
    (hid : s.entries[k]? = some id) (he : t.entries[id]? = some e)
    (ht : s.entryTasks[k]? = some task) : ErrorStep t g k (t.stepEntry g k s id e task) := by
  cases task with
  | waiting poll =>
    simp only [stepEntry]
    split
    · exact errorStep_set hs hid he ht (.other rfl fun _ h => h)
    · exact errorStep_set hs hid he ht (.other rfl fun _ _ => trivial)
    · exact errorStep_set hs hid he ht (.other rfl fun _ h => h)
  | lookingUp => exact errorStep_set hs hid he ht (.other rfl fun _ h => h.elim)
  | searching poll left m found =>
    rcases left with _ | ⟨⟨file, i⟩, rest⟩
    · exact errorStep_set hs hid he ht (.other rfl fun _ _ => trivial)
    · simp only [stepEntry]
      split <;> rename_i h
      · exact errorStep_set hs hid he ht (.again s.rules)
      · exact errorStep_set hs hid he ht (.other rfl fun _ _ => trivial)
      · obtain ⟨rfl, -⟩ := look_eq_false h
        exact errorStep_tryLine hs hid he ht
  | checking poll found =>
    simp only [stepEntry]
    split <;> exact errorStep_set hs hid he ht (.other rfl fun _ _ => trivial)
  | publishing found =>
    simp only [stepEntry]
    split
    · exact errorStep_set hs hid he ht (.other rfl fun _ _ => trivial)
    · split
      · rw [setEntryTask_eq (s := s)]
        · exact .task hid he ⟨hs, ht, rfl, rfl, rfl⟩ (.other rfl fun _ _ => trivial) rfl
        · exact hs
      · exact errorStep_set hs hid he ht (.other rfl fun _ _ => trivial)
  | counting tally n =>
    cases tally with
    | entry | references =>
      rw [stepEntry, setEntryTask_eq (getElem?_updateScan hs _), updateScan_eq hs]
      simp only [List.set_set]
      exact .task hid he ⟨hs, ht, rfl, rfl, rfl⟩ (.other rfl fun _ _ => trivial) rfl
    | totalEntries | totalReferences =>
      rw [stepEntry, setEntryTask_eq (s := s)]
      · exact .task hid he ⟨hs, ht, rfl, rfl, rfl⟩ (.other rfl fun _ _ => trivial) rfl
      · exact hs
  | visiting =>
    rw [stepEntry, setEntryTask_eq (getElem?_updateScan hs _), updateScan_eq hs]
    simp only [List.set_set]
    exact .task hid he ⟨hs, ht, rfl, rfl, rfl⟩ (.other rfl fun _ _ => trivial) rfl
  | done => exact .idle rfl

/-- **How a step of the work on an entry changes the counter.** -/
theorem errorStep_entry (t : Tracker) (g k : Nat) : ErrorStep t g k (t.step (.entry g k)) := by
  rw [step]
  split
  · exact .idle rfl
  · rename_i s hs
    split
    · rename_i id task hid ht
      split
      · exact errorStep_stepEntry hs hid ‹_› ht
      · exact .idle rfl
    · exact .idle rfl

theorem templateErrors_stepFile (t : Tracker) (g k : Nat) (s : Scan) (f : SourceFile)
    (task : FileTask) :
    (t.stepFile g k s f task).counters.templateErrors = t.counters.templateErrors := by
  cases task with
  | waiting poll =>
    rw [stepFile]
    split <;> rfl
  | opening =>
    rw [stepFile]
    split <;> rfl
  | indexing poll lines left =>
    cases left with
    | nil => rfl
    | cons l rest =>
      rw [stepFile]
      split <;> rfl
  | counting index =>
    show (if index.isApplicable = true then _ else _ : Counters).templateErrors = _
    split <;> rfl
  | visiting index => rfl
  | done index => rfl

/-- Only the work on entries changes the counter. -/
theorem templateErrors_step {a : Action} (h : ∀ g k, a ≠ .entry g k) :
    (t.step a).counters.templateErrors = t.counters.templateErrors := by
  cases a with
  | call i =>
    have hm := t.move_step (.call i)
    generalize t.step (.call i) = t' at hm ⊢
    cases hm <;> rfl
  | thread g =>
    have hm := t.move_step (.thread g)
    generalize t.step (.thread g) = t' at hm ⊢
    cases hm <;> rfl
  | file g k =>
    rw [step]
    split
    · rfl
    · split
      · exact templateErrors_stepFile ..
      · rfl
  | entry g k => exact absurd rfl (h g k)
  | deny i cause =>
    have hm := t.move_step (.deny i cause)
    generalize t.step (.deny i cause) = t' at hm ⊢
    cases hm <;> rfl
  | _ => rfl

/-! ### What a scan keeps -/

/-- The work on the entries of a scan is left alone, once it has begun. -/
def KeepsEntries (t t' : Tracker) : Prop :=
  ∀ (g : Nat) (s : Scan), t.scans[g]? = some s → s.entryTasks ≠ [] →
    ∃ s', t'.scans[g]? = some s' ∧ s'.rules = s.rules ∧ s'.entryTasks = s.entryTasks

theorem keepsEntries_of_eq {t' : Tracker} (h : t'.scans = t.scans) : t.KeepsEntries t' :=
  fun _ s hs _ => ⟨s, h ▸ hs, rfl, rfl⟩

theorem keepsEntries_of_set {t' : Tracker} {s' : Scan} (hs : t.scans[g]? = some s)
    (h : t'.scans = t.scans.set g s') (hrules : s'.rules = s.rules)
    (htasks : s.entryTasks ≠ [] → s'.entryTasks = s.entryTasks) : t.KeepsEntries t' := by
  intro j x hx hne
  rw [h]
  by_cases hj : g = j
  · subst hj
    obtain rfl : s = x := Option.some.inj (hs.symm.trans hx)
    have hlt := (List.getElem?_eq_some_iff.1 hs).1
    exact ⟨s', by simp [hlt], hrules, htasks hne⟩
  · exact ⟨x, by rwa [List.getElem?_set_ne hj], rfl, rfl⟩

theorem CancelMove.keepsEntries {t' : Tracker} {scans : List Scan} (hm : t.CancelMove scans)
    (h : t'.scans = scans) : t.KeepsEntries t' := by
  cases hm with
  | same => exact keepsEntries_of_eq h
  | flagged hs => exact keepsEntries_of_set hs h rfl fun _ => rfl
  | advanced hs => exact keepsEntries_of_set hs h rfl fun _ => rfl

/-- Only the work on entries itself changes it, once it has begun. -/
theorem keepsEntries_step {l : Ledger} (h : TrackerInv l t) {a : Action}
    (ha : ∀ g k, a ≠ .entry g k) : t.KeepsEntries (t.step a) := by
  generalize ht : t.step a = t'
  have hm : Tracker.Move t a t' := ht ▸ t.move_step a
  cases hm with
  | cancelling _ hm | cancelled _ hm | stopping _ hm | stopped _ hm | replacing _ hm
  | replaced _ hm => exact hm.keepsEntries rfl
  | launched =>
    intro g s hs _
    have hlt := (List.getElem?_eq_some_iff.1 hs).1
    exact ⟨s, by rw [List.getElem?_append_left hlt, hs], rfl, rfl⟩
  | thread hs hm =>
    refine keepsEntries_of_set hs rfl ?_ fun hne => ?_
    · cases hm <;> rfl
    · have hstage := (h.scans hs).stage
      cases hm with
      | matchingBegun hst =>
        -- The entries are not worked on before.
        rw [hst] at hstage
        exact absurd hstage.2.1 hne
      | _ => rfl
  | file hs => exact keepsEntries_of_set hs rfl rfl fun _ => rfl
  | entry | published | refused => exact absurd rfl (ha _ _)
  | taken hs => exact keepsEntries_of_set hs rfl rfl fun _ => rfl
  | _ => exact keepsEntries_of_eq rfl

/-- The work on an entry keeps no rule twice. -/
theorem nodup_matchers {l : Ledger} (h : TrackerInv l t) {id : Nat} {e : Entry} {task : EntryTask}
    (hs : t.scans[g]? = some s) (hid : s.entries[k]? = some id) (he : t.entries[id]? = some e)
    (ht : s.entryTasks[k]? = some task) : (task.matchers.map Prod.fst).Nodup := by
  have hsound := (h.scans hs).core.entries hid he ht
  cases task with
  | searching poll left m found =>
    obtain ⟨tried, -, htried⟩ := hsound
    have hnodup := (t.context s e).nodup_tryLines tried
    rwa [htried] at hnodup
  | _ => exact .nil

theorem brokenIn_of_task {task : EntryTask} (hs : t.scans[g]? = some s)
    (ht : s.entryTasks[k]? = some task) : t.brokenIn g k = s.rules.broken task.matchers := by
  rw [brokenIn, hs]
  dsimp only
  rw [ht]
  rfl

theorem failures?_of_ne {a : Action} (h : ∀ g k, a ≠ .entry g k) : t.failures? a = [] := by
  cases a with
  | entry g k => exact absurd rfl (h g k)
  | _ => rfl

/-! ### Notes -/

/-- The work on an entry will not compile the rule of a note again. -/
def KnowsError (t : Tracker) (x : TemplateError) : Prop :=
  ∃ s task, t.scans[x.scan]? = some s ∧ s.entryTasks[x.task]? = some task ∧
    task.Knows s.rules x.rule

theorem KnowsError.keeps {t' : Tracker} {x : TemplateError} (h : t.KnowsError x)
    (ht : t.KeepsEntries t') : t'.KnowsError x := by
  obtain ⟨s, task, hs, htask, hknows⟩ := h
  obtain ⟨s', hs', hrules, htasks⟩ := ht _ s hs (ne_nil_of_getElem? htask)
  exact ⟨s', task, hs', htasks ▸ htask, hrules ▸ hknows⟩

namespace TaskStep

variable {t' : Tracker} {s' : Scan} {task task' : EntryTask}

theorem scan' (h : t.TaskStep g k s task t' s' task') : t'.scans[g]? = some s' := by
  have hlt := (List.getElem?_eq_some_iff.1 h.scan).1
  simp [h.scans, hlt]

theorem task_eq (h : t.TaskStep g k s task t' s' task') : s'.entryTasks[k]? = some task' := by
  have hlt := (List.getElem?_eq_some_iff.1 h.task).1
  simp [h.tasks, hlt]

theorem brokenIn (h : t.TaskStep g k s task t' s' task') :
    t'.brokenIn g k = s.rules.broken task'.matchers := by
  rw [brokenIn_of_task h.scan' h.task_eq, h.rules]

theorem knowsError (h : t.TaskStep g k s task t' s' task') {n : Nat}
    (hc : task.Compiles s.rules task' n) {x : TemplateError} (hx : t.KnowsError x) :
    t'.KnowsError x := by
  obtain ⟨s₀, task₀, hs₀, htask₀, hknows⟩ := hx
  by_cases hg : x.scan = g
  · rw [hg, h.scan] at hs₀
    obtain rfl := Option.some.inj hs₀
    refine ⟨s', ?_⟩
    by_cases hk : x.task = k
    · rw [hk, h.task] at htask₀
      obtain rfl := Option.some.inj htask₀
      exact ⟨task', hg ▸ h.scan', hk ▸ h.task_eq, h.rules ▸ hc.knows hknows⟩
    · exact ⟨task₀, hg ▸ h.scan', by rw [h.tasks, List.getElem?_set_ne (Ne.symm hk), htask₀],
        h.rules ▸ hknows⟩
  · exact ⟨s₀, task₀, by rw [h.scans, List.getElem?_set_ne (Ne.symm hg), hs₀], htask₀, hknows⟩

end TaskStep

/-! ### Runs -/

/-- What the notes made so far have to do with the counter and with the work on entries. -/
structure ErrorsInv (notes : List TemplateError) (t : Tracker) : Prop where
  counted : t.counters.templateErrors = notes.length
  nodup : notes.Nodup
  known : ∀ x ∈ notes, t.KnowsError x

/-- The rules that a step finds not to compile have not been found so before. -/
theorem ErrorsInv.task {notes : List TemplateError} (h : ErrorsInv notes t) {t' : Tracker}
    {s' : Scan} {n : Nat} {task task' : EntryTask} (hstep : t.TaskStep g k s task t' s' task')
    (honce : (task.matchers.map Prod.fst).Nodup) (hc : task.Compiles s.rules task' n)
    (hn : t'.counters.templateErrors = t.counters.templateErrors + n) :
    ErrorsInv (notes ++ ((t'.brokenIn g k).filter
      fun id => !(t.brokenIn g k).contains id).map fun id => ⟨g, k, id⟩) t' := by
  have hknown : ∀ x ∈ notes, t'.KnowsError x := fun x hx => hstep.knowsError hc (h.known x hx)
  rw [hstep.brokenIn, brokenIn_of_task hstep.scan hstep.task]
  cases hc with
  | other hnil =>
    have hnone : s.rules.broken task'.matchers = [] := by rw [hnil]; rfl
    rw [hnone, List.filter_nil, List.map_nil, List.append_nil]
    exact ⟨hn.trans h.counted, h.nodup, hknown⟩
  | @searched poll poll' left left' m m' new found found' _ hm hlen hfresh =>
    have hnodup := s.rules.nodup_broken (hfresh honce)
    rw [RuleSet.broken_append, List.nodup_append] at hnodup
    obtain ⟨hnew, -, hapart⟩ := hnodup
    have hfilter : (s.rules.broken m').filter (fun id => !(s.rules.broken m).contains id) =
        s.rules.broken new := by
      rw [hm, RuleSet.broken_append, List.filter_append, List.filter_eq_self.2,
        List.filter_eq_nil_iff.2, List.append_nil]
      · simp
      · intro id hid
        simpa using fun hold => hapart id hid id hold rfl
    show ErrorsInv (notes ++ ((s.rules.broken m').filter
      fun id => !(s.rules.broken m).contains id).map fun id => ⟨g, k, id⟩) t'
    rw [hfilter]
    refine ⟨?_, ?_, ?_⟩
    · rw [hn, h.counted, hlen, List.length_append, List.length_map]
    · refine List.nodup_append.2 ⟨h.nodup, hnew.map fun _ _ heq => (TemplateError.mk.inj heq).2.2,
        fun x hx y hy heq => ?_⟩
      -- A note of this rule would mean that it is kept as one that failed.
      obtain ⟨id, hid, rfl⟩ := List.mem_map.1 hy
      obtain ⟨s₀, task₀, hs₀, htask₀, hknows⟩ := heq ▸ h.known x hx
      obtain rfl := Option.some.inj (hstep.scan.symm.trans hs₀)
      obtain rfl := Option.some.inj (hstep.task.symm.trans htask₀)
      exact hapart id hid id hknows rfl
    · intro x hx
      rcases List.mem_append.1 hx with hx | hx
      · exact hknown x hx
      · obtain ⟨id, hid, rfl⟩ := List.mem_map.1 hx
        refine ⟨s', _, hstep.scan', hstep.task_eq, ?_⟩
        show id ∈ s'.rules.broken m'
        rw [hstep.rules, hm, RuleSet.broken_append]
        exact List.mem_append_left _ hid

theorem ErrorsInv.step {l : Ledger} {notes : List TemplateError} (h : ErrorsInv notes t)
    (hinv : TrackerInv l t) (a : Action) : ErrorsInv (notes ++ t.failures? a) (t.step a) := by
  by_cases ha : ∀ g k, a ≠ .entry g k
  · rw [failures?_of_ne ha, List.append_nil]
    exact ⟨(templateErrors_step ha).trans h.counted, h.nodup,
      fun x hx => (h.known x hx).keeps (keepsEntries_step hinv ha)⟩
  · obtain ⟨g, k, rfl⟩ : ∃ g k, a = .entry g k := by simpa using ha
    cases errorStep_entry t g k with
    | idle hidle =>
      have hnone : t.failures? (.entry g k) = [] := by
        rw [failures?, hidle, List.map_eq_nil_iff, List.filter_eq_nil_iff]
        simp
      rw [hnone, List.append_nil, hidle]
      exact h
    | task hid he hstep hc hn =>
      exact h.task hstep (nodup_matchers hinv hstep.scan hid he hstep.task) hc hn

theorem ErrorsInv.run {l : Ledger} {notes : List TemplateError} (h : ErrorsInv notes t)
    (hinv : TrackerInv l t) (actions : List Action) :
    ErrorsInv (notes ++ t.failures actions) (t.run actions) := by
  induction actions generalizing t l notes with
  | nil => rwa [failures, List.append_nil]
  | cons a rest ih =>
    rw [failures, ← List.append_assoc, run_cons]
    exact ih (h.step hinv a) (hinv.step a)

/-- **The counter counts the rules that do not compile for an entry**: for each entry of a scan,
every such rule at most once. -/
theorem templateErrors_run (settings : ScanSettings) (entries : List Entry) (files : FileTree)
    (actions : List Action) :
    ((initial settings entries files).run actions).counters.templateErrors =
        ((initial settings entries files).failures actions).length ∧
      ((initial settings entries files).failures actions).Nodup := by
  have h : ErrorsInv [] (initial settings entries files) := ⟨rfl, .nil, nofun⟩
  have hrun := h.run (TrackerInv.initial settings entries files) actions
  rw [List.nil_append] at hrun
  exact ⟨hrun.counted, hrun.nodup⟩

end Tracker

end KeyTrace
