import KeyTrace.Proofs.Scan.Preservation

/-!
# The work of a scan keeps its invariant

A step of the work on a file or on an entry replaces one task. Tasks that are done take no more
steps, so such a step rules out all stages at which the thread has found the work to be over. What
the counts say about all tasks follows from what the step adds to each: `EntryTask.Move.matched` and
the lemmas beside it balance the books of one task.

## Main results

* `ScanInv.file`, `ScanInv.entry`: steps of the work.
* `ScanInv.attempted`: attempts to publish.
-/

namespace KeyTrace

variable {l : Ledger} {t : Tracker} {g k : Nat} {s : Scan}

/-! ### Files -/

/-- The unit of work of a file is counted when its task ends. -/
theorem FileTask.Move.visits {f : SourceFile} {task task' : FileTask} (hm : task.Move t s f task') :
    (s.afterFile k task task').progress.visited + task.visits =
      s.progress.visited + task'.visits ∨ t.Stops s := by
  cases hm with
  | dropped hs => exact Or.inr hs
  | _ => exact Or.inl rfl

namespace Scan

theorem FilesOver.elim (h : s.FilesOver) {task : FileTask} (ht : s.fileTasks[k]? = some task)
    (hd : Tracker.fileDone task = false) : False := by
  have := List.all_eq_true.1 h.done task (List.mem_of_getElem? ht)
  simp [hd] at this

theorem EntriesOver.elim (h : s.EntriesOver) {task : EntryTask} (ht : s.entryTasks[k]? = some task)
    (hd : Tracker.entryDone task = false) : False := by
  have := List.all_eq_true.1 h.done task (List.mem_of_getElem? ht)
  simp [hd] at this

/-- The work on files goes on only before the thread has found it to be over. -/
theorem StageSound.file {task task' : FileTask} {stage : Stage} (h : s.StageSound l t g stage)
    (ht : s.fileTasks[k]? = some task) (hd : Tracker.fileDone task = false) :
    (s.afterFile k task task').StageSound l t g stage := by
  have hover : ¬s.FilesOver := fun ho => ho.elim ht hd
  cases stage with
  | queued => simp [h.1] at ht
  | indexing => exact ⟨h.1, by simpa [afterFile] using h.2.1, h.2.2⟩
  | indexed poll =>
    cases poll with
    | flag => exact absurd h.2.1 hover
    | number => exact absurd h.2.1 hover
  | starting a => exact absurd h.1 hover
  | matching => exact absurd h.1 hover
  | matched poll =>
    cases poll with
    | flag => exact absurd h.1 hover
    | number => exact absurd (h.elim (fun h => h.filesOver) fun h => h.1) hover
  | completing a => exact absurd (Complete.filesOver h) hover
  | yielding a => trivial
  | leaving a => trivial
  | finishing o => exact fun m hm => absurd (h m hm).1.filesOver hover
  | reporting o => exact fun m hm => absurd (h m hm).1.filesOver hover
  | ended => exact fun m hm => absurd (h m hm).1.filesOver hover

/-- The work on entries goes on only while the thread waits for it, or once the scan has been given
up. -/
theorem StageSound.entry {l' : Ledger} {task : EntryTask} {s' : Scan} {stage : Stage}
    (h : s.StageSound l t g stage) (ht : s.entryTasks[k]? = some task)
    (hd : Tracker.entryDone task = false)
    (hs' : s.FilesOver → s.entryTasks.length = s.entries.length →
      s.LookupFull l.trees t.entries → s'.StageSound l' t g .matching)
    (ho : s'.outcome = s.outcome) : s'.StageSound l' t g stage := by
  have hne : s.entryTasks ≠ [] := by
    rintro h
    simp [h] at ht
  have hover : ¬s.EntriesOver := fun ho => ho.elim ht hd
  cases stage with
  | queued => exact absurd h.2 hne
  | indexing => exact absurd h.2.2 hne
  | indexed poll =>
    cases poll with
    | flag => exact absurd h.2.2 hne
    | number => exact absurd h.2.2.1 hne
  | starting a => exact absurd h.2.1 hne
  | matching => exact hs' h.1 h.2.1 h.2.2
  | matched poll =>
    cases poll with
    | flag => exact absurd h.2.1 hover
    | number => exact absurd (h.elim (fun h => h.entriesOver) fun h => h.2.1) hover
  | completing a => exact absurd (Complete.entriesOver h) hover
  | yielding a => trivial
  | leaving a => trivial
  | finishing o => exact fun m hm => absurd (h m hm).1.entriesOver hover
  | reporting o => exact fun m hm => absurd (h m hm).1.entriesOver hover
  | ended => exact fun m hm => absurd (h m (ho ▸ hm)).1.entriesOver hover

end Scan

/-- The work on a file keeps the invariant. -/
theorem ScanInv.file {f : SourceFile} {task task' : FileTask} (h : ScanInv l t g s)
    (htree : t.files ∈ l.trees) (hf : s.files[k]? = some f) (ht : s.fileTasks[k]? = some task)
    (hm : task.Move t s f task') : ScanInv l t g (s.afterFile k task task') := by
  have hc := h.core
  refine ⟨{ hc with total := ?_, files := ?_, entries := ?_, visited := ?_ },
    h.stage.file ht hm.not_done, h.outcome⟩
  · refine Eq.trans ?_ hc.total
    cases task <;> rfl
  · intro k' f' task'' hf' ht'
    have hsound : task''.Sound l.trees t s f' := by
      by_cases hk : k = k'
      · subst hk
        have hlt := (List.getElem?_eq_some_iff.1 ht).1
        obtain rfl : f = f' := Option.some.inj (hf.symm.trans hf')
        obtain rfl : task' = task'' := by simpa [Scan.afterFile, hlt] using ht'
        exact hm.sound htree (hc.files hf ht)
      · exact hc.files hf' (by simpa [Scan.afterFile, List.getElem?_set_ne hk] using ht')
    exact hsound
  · exact fun hid he htask => hc.entries hid he htask
  · rcases hm.visits (k := k) with hv | hs
    · refine hc.visited.imp_left fun hvisited => ?_
      have hsum := sum_map_set FileTask.visits task' ht
      change (s.afterFile k task task').progress.visited =
        ((s.fileTasks.set k task').map FileTask.visits).sum +
          (s.entryTasks.map EntryTask.visits).sum
      omega
    · exact Or.inr hs

/-! ### Entries -/

namespace EntryTask.Move

variable {e : Entry} {task task' : EntryTask}

theorem matched (hm : task.Move t s e task') :
    (s.afterEntry k task task').entriesMatched + task'.uncounted =
      s.entriesMatched + task.uncounted := by
  cases hm <;> rfl

theorem summed (hm : task.Move t s e task') :
    (s.afterEntry k task task').referencesFound + task'.unsummed =
      s.referencesFound + task.unsummed := by
  cases hm <;> rfl

theorem past (hm : task.Move t s e task') : task'.past = task.past ∨ t.Stops s := by
  cases hm with
  | dropped hs => exact Or.inr hs
  | givenUp hs => exact Or.inr hs
  | _ => exact Or.inl rfl

theorem visits (hm : task.Move t s e task') :
    (s.afterEntry k task task').progress.visited + task.visits =
      s.progress.visited + task'.visits ∨ t.Stops s := by
  cases hm with
  | dropped hs => exact Or.inr hs
  | givenUp hs => exact Or.inr hs
  | _ => exact Or.inl rfl

end EntryTask.Move

/-- Once a task has been replaced, what holds of the new one and of all old ones holds of all. -/
theorem forall_getElem?_set {α : Type} {P : Nat → α → Prop} {xs : List α} {b : α}
    (hb : k < xs.length → P k b) (h : ∀ {j : Nat} {a : α}, xs[j]? = some a → P j a) {j : Nat}
    {a : α} (ha : (xs.set k b)[j]? = some a) : P j a := by
  by_cases hk : k = j
  · subst hk
    obtain ⟨hlt, rfl⟩ := List.getElem?_eq_some_iff.1 ha
    rw [List.getElem_set_self]
    exact hb (by simpa using hlt)
  · exact h (by rwa [List.getElem?_set_ne hk] at ha)

theorem ne_nil_of_getElem? {α : Type} {xs : List α} {a : α} (h : xs[k]? = some a) : xs ≠ [] :=
  List.ne_nil_of_mem (List.mem_of_getElem? h)

/-- The work on an entry keeps the invariant, as long as it does not publish. -/
theorem ScanInv.entry {id : Nat} {e : Entry} {task task' : EntryTask} (h : ScanInv l t g s)
    (hid : s.entries[k]? = some id) (he : t.entries[id]? = some e)
    (ht : s.entryTasks[k]? = some task) (hm : task.Move t s e task') :
    ScanInv l t g (s.afterEntry k task task') := by
  have hc := h.core
  have hne := ne_nil_of_getElem? ht
  refine ⟨{ hc with
      total := ?_, entries := ?_, lookup := ?_, quiet := ?_, reached := ?_, counted := ?_,
      past := ?_, summed := ?_, visited := ?_ },
    h.stage.entry ht hm.not_done (fun ho hlen hlook => ?_) rfl, h.outcome⟩
  · refine Eq.trans ?_ hc.total
    cases task <;> rfl
  · intro j id' e' task'' hid' he' ht'
    have hsound : task''.Sound t s e' := by
      refine forall_getElem?_set (P := fun j task => ∀ {id : Nat} {e : Entry},
        s.entries[j]? = some id → t.entries[id]? = some e → task.Sound t s e)
        (fun _ id' e' hid' he' => ?_) (fun h _ _ hid he => hc.entries hid he h) ht' hid' he'
      obtain rfl : id = id' := Option.some.inj (hid.symm.trans hid')
      obtain rfl : e = e' := Option.some.inj (he.symm.trans he')
      exact hm.sound (hc.entries hid he ht)
    exact hsound
  · exact Or.inr (hc.lookup.resolve_left hne)
  · exact fun hnil => absurd hnil (by simpa [Scan.afterEntry] using hne)
  · refine forall_getElem?_set (P := fun j (task : EntryTask) => task.isPast = true →
      (∃ p ∈ l.attempts, p.accepted = true ∧ p.scan = g ∧ p.task = j) ∨ t.Stops s)
      (fun _ hpast => ?_) hc.reached
    exact (hm.isPast hpast).elim (hc.reached ht) Or.inr
  · have hsum := sum_map_set EntryTask.uncounted task' ht
    have hmatched := hm.matched (k := k)
    have hcounted := hc.counted
    change (s.afterEntry k task task').entriesMatched +
      ((s.entryTasks.set k task').map EntryTask.uncounted).sum = _
    omega
  · refine hm.past.elim (fun hpast => hc.past.imp_left fun hold => ?_) Or.inr
    have hsum := sum_map_set EntryTask.past task' ht
    change _ = ((s.entryTasks.set k task').map EntryTask.past).sum
    omega
  · have hsum := sum_map_set EntryTask.unsummed task' ht
    have hsummed := hm.summed (k := k)
    have hold := hc.summed
    change (s.afterEntry k task task').referencesFound +
      ((s.entryTasks.set k task').map EntryTask.unsummed).sum = _
    omega
  · refine (hm.visits (k := k)).elim (fun hvisits => hc.visited.imp_left fun hold => ?_) Or.inr
    have hsum := sum_map_set EntryTask.visits task' ht
    change (s.afterEntry k task task').progress.visited =
      (s.fileTasks.map FileTask.visits).sum +
        ((s.entryTasks.set k task').map EntryTask.visits).sum
    omega
  · exact ⟨⟨ho.length, ho.done⟩, by simpa [Scan.afterEntry] using hlen, hlook⟩

/-! ### Attempts -/

theorem Attempt.publishedBy_append (g : Nat) (attempts : List Attempt) (p : Attempt) :
    publishedBy g (attempts ++ [p]) =
      publishedBy g attempts ++ if p.accepted && p.scan == g then [p] else [] := by
  simp [publishedBy, List.filter_append, List.filter_singleton]

/-- The task of an entry after its attempt to publish a list. -/
def EntryTask.afterAttempt (accepted : Bool) (found : List Reference) : EntryTask :=
  if accepted then .counting .entry found.length else .visiting

/-- **An attempt keeps the invariant**, if it is refused only when the scan has been asked to
stop. -/
theorem ScanInv.attempted (id : Nat) {found : List Reference} {accepted : Bool}
    (h : ScanInv l t g s) (ht : s.entryTasks[k]? = some (.publishing found))
    (hok : accepted = true ∨ t.Stops s) :
    ScanInv { l with attempts := l.attempts ++ [⟨g, k, id, found, accepted⟩] } t g
      { s with entryTasks := s.entryTasks.set k (.afterAttempt accepted found) } := by
  have hc := h.core
  have hne := ne_nil_of_getElem? ht
  refine ⟨{ hc with
      entries := ?_, lookup := ?_, quiet := ?_, reached := ?_, noneRefused := ?_, counted := ?_,
      past := ?_, summed := ?_, visited := ?_ },
    h.stage.entry ht rfl (fun ho hlen hlook => ?_) rfl, h.outcome⟩
  · intro j id' e' task'' hid' he' ht'
    have hsound : task''.Sound t s e' := by
      refine forall_getElem?_set (P := fun j task => ∀ {id : Nat} {e : Entry},
        s.entries[j]? = some id → t.entries[id]? = some e → task.Sound t s e)
        (fun _ _ _ _ _ => ?_) (fun h _ _ hid he => hc.entries hid he h) ht' hid' he'
      cases accepted <;> trivial
    exact hsound
  · exact Or.inr (hc.lookup.resolve_left hne)
  · exact fun hnil => absurd hnil (by simpa using hne)
  · refine forall_getElem?_set (P := fun j (task : EntryTask) => task.isPast = true →
      (∃ p ∈ l.attempts ++ [⟨g, k, id, found, accepted⟩],
        p.accepted = true ∧ p.scan = g ∧ p.task = j) ∨ t.Stops s) (fun _ _ => ?_) ?_
    · exact hok.imp_left fun ha => ⟨_, List.mem_append_right _ (List.mem_singleton_self _), ha,
        rfl, rfl⟩
    · intro j task htask hpast
      refine (hc.reached htask hpast).imp_left ?_
      rintro ⟨p, hp, hrest⟩
      exact ⟨p, List.mem_append_left _ hp, hrest⟩
  · refine hok.elim (fun ha => hc.noneRefused.imp_left fun hall p hp hg => ?_) Or.inr
    rcases List.mem_append.1 hp with hp | hp
    · exact hall p hp hg
    · obtain rfl := List.mem_singleton.1 hp
      exact ha
  · have hsum := sum_map_set EntryTask.uncounted (.afterAttempt accepted found) ht
    have hcounted := hc.counted
    rw [Attempt.publishedBy_append, List.length_append]
    cases accepted <;> simp [EntryTask.afterAttempt, EntryTask.uncounted] at hsum ⊢ <;> omega
  · refine hok.elim (fun ha => hc.past.imp_left fun hold => ?_) Or.inr
    subst ha
    have hsum := sum_map_set EntryTask.past (.afterAttempt true found) ht
    rw [Attempt.publishedBy_append, List.length_append]
    simp [EntryTask.afterAttempt, EntryTask.past, EntryTask.isPast] at hsum ⊢
    omega
  · have hsum := sum_map_set EntryTask.unsummed (.afterAttempt accepted found) ht
    have hsummed := hc.summed
    rw [Attempt.publishedBy_append, List.map_append, List.sum_append]
    cases accepted <;> simp [EntryTask.afterAttempt, EntryTask.unsummed] at hsum ⊢ <;> omega
  · refine hc.visited.imp_left fun hold => ?_
    have hsum := sum_map_set EntryTask.visits (.afterAttempt accepted found) ht
    cases accepted <;> simp [EntryTask.afterAttempt, EntryTask.visits] at hsum ⊢ <;> omega
  · exact ⟨⟨ho.length, ho.done⟩, by simpa using hlen, hlook⟩

end KeyTrace
