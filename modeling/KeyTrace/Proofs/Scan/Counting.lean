import KeyTrace.Proofs.Scan.Accounts
import KeyTrace.Proofs.Scan.Completion

/-!
# Counters and summaries

What a tracker does is counted twice: by the counters that all scans share, and by each scan for its
summary. The summary of a scan that is complete stands for all the scan has done, then and later:
the work of such a scan takes no more steps. So where every scan has handed over a summary, nothing
is about to be counted any more, and the counters are the sums of the counts in the summaries.

## Main definitions

* `Scan.Indexed`: a scan's lookup is one over the indexes that its work on files has left.
* `Scan.Delivered`: a scan is over, and a summary stands for all it has done.
* `Tracker.HandsOver`: a scan hands over a summary in a run.
* `Counters.SumsUp`: the counters are the sums of the counts in some summaries.

## Main results

* `Tracker.indexSound_step`, `Tracker.Delivers.step`: what stays from step to step.
* `Tracker.counters_run`: what the counters are in any run.
-/

namespace KeyTrace

/-! ### Scans past indexing -/

/-- The work on each file has left an index, and the lookup is one over these indexes. -/
def Scan.Indexed (s : Scan) : Prop :=
  ∃ indexes : List FileIndex, indexes.length = s.files.length ∧
    s.fileTasks = indexes.map (fun x => FileTask.done (some x)) ∧
    s.lookup = Lookup.ofIndexes indexes

/-- The thread has made the lookup and has not given up since. -/
def Stage.isPastIndexing : Stage → Bool
  | .starting _ => true
  | .matching => true
  | .matched _ => true
  | .completing _ => true
  | .finishing (.completed _) => true
  | .reporting (.completed _) => true
  | _ => false

/-- A scan that is past indexing, or over and complete, has indexed all of its files. -/
def Scan.IndexSound (s : Scan) : Prop :=
  (s.stage.isPastIndexing = true ∨ ∃ m, s.outcome = some (.completed m)) → s.Indexed

/-- Where the work on all files is over and none was dropped, all of it has left an index. -/
theorem eq_map_indexesOf {tasks : List FileTask}
    (h : (Tracker.indexesOf tasks).length = tasks.length) :
    tasks = (Tracker.indexesOf tasks).map fun x => FileTask.done (some x) := by
  induction tasks with
  | nil => rfl
  | cons task tasks ih =>
    have hle : (Tracker.indexesOf tasks).length ≤ tasks.length := List.length_filterMap_le ..
    have hshort (hnone : Tracker.indexesOf (task :: tasks) = Tracker.indexesOf tasks) : False := by
      rw [hnone, List.length_cons] at h
      omega
    cases task with
    | done x =>
      cases x with
      | none => exact absurd rfl hshort
      | some x =>
        have hcons : Tracker.indexesOf (.done (some x) :: tasks) = x :: Tracker.indexesOf tasks :=
          rfl
        rw [hcons, List.length_cons, List.length_cons] at h
        rw [hcons, List.map_cons, ← ih (Nat.succ.inj h)]
    | _ => exact absurd rfl hshort

variable {l : Ledger} {t t' : Tracker} {g k : Nat} {s s' : Scan} {m : Summary}

theorem Scan.FilesFull.indexed {trees : List FileTree} (h : s.FilesFull trees) (ho : s.FilesOver) :
    ({ s with lookup := Lookup.ofIndexes (Tracker.indexesOf s.fileTasks) } : Scan).Indexed :=
  ⟨Tracker.indexesOf s.fileTasks, h.length_eq.symm,
    eq_map_indexesOf (h.length_eq.symm.trans ho.length.symm), rfl⟩

/-- There is no work on files left. -/
theorem Scan.Indexed.not_move (h : s.Indexed) {f : SourceFile} {task task' : FileTask}
    (ht : s.fileTasks[k]? = some task) (hm : task.Move t s f task') : False := by
  obtain ⟨indexes, -, htasks, -⟩ := h
  rw [htasks] at ht
  obtain ⟨index, -, rfl⟩ := List.mem_map.1 (List.mem_of_getElem? ht)
  cases hm

/-- The thread goes past indexing only when all files have been indexed. -/
theorem Scan.ThreadMove.indexSound (hm : s.ThreadMove t s') (h : ScanInv l t g s)
    (hs : s.IndexSound) : s'.IndexSound := by
  have hst := h.stage
  have hpast (hstage : s.stage.isPastIndexing = true) : s.Indexed := hs (Or.inl hstage)
  have hnone {stage : Stage} (hstage : s.stage = stage) (hne : stage ≠ .ended) :
      ¬∃ m, s.outcome = some (.completed m) := by
    rintro ⟨m, hm⟩
    have hout := h.outcome.resolve_left (hstage ▸ hne)
    simp [hm] at hout
  cases hm with
  | filesCleared hs hn =>
    rw [hs] at hst
    obtain ⟨-, hover, -, hfull⟩ := hst
    exact fun _ => (hfull.resolve_right fun hne => hne hn).indexed hover
  | starting hs | matchingBegun hs | entriesDone hs | entriesUnflagged hs | entriesCleared hs
  | completing hs | completed hs => exact fun _ => hpast (by rw [hs]; rfl)
  | started hs | filesDone hs | filesUnflagged hs | filesStopped hs | entriesStopped hs
  | yielding hs | yielded hs | leaving hs | departed hs =>
    exact fun hs' => (hs'.elim nofun (hnone hs (by simp))).elim
  | @finished o hs =>
    cases o with
    | completed m => exact fun _ => hpast (by rw [hs]; rfl)
    | cancelled => exact fun hs' => (hs'.elim nofun (hnone hs (by simp))).elim
  | reported hs =>
    rintro (hstage | ⟨m, hm⟩)
    · cases hstage
    · exact hpast (by rw [hs, Option.some.inj hm]; rfl)

theorem Tracker.indexSound_of_set (h : ∀ s ∈ t.scans, s.IndexSound) (hs : t.scans[g]? = some s)
    (hs' : s.IndexSound → s'.IndexSound) : ∀ x ∈ t.scans.set g s', x.IndexSound := by
  intro x hx
  rcases List.mem_or_eq_of_mem_set hx with hx | rfl
  · exact h x hx
  · exact hs' (h s (List.mem_of_getElem? hs))

theorem Tracker.CancelMove.indexSound {scans : List Scan} (hm : t.CancelMove scans)
    (h : ∀ s ∈ t.scans, s.IndexSound) : ∀ s ∈ scans, s.IndexSound := by
  cases hm with
  | same => exact h
  | flagged hs => exact indexSound_of_set h hs fun h => h
  | advanced hs => exact indexSound_of_set h hs fun h => h

/-- **A lookup stays the one over all files**: the work on files is over once it is there, and no
other step touches either. -/
theorem Tracker.indexSound_step (hinv : TrackerInv l t) (h : ∀ s ∈ t.scans, s.IndexSound)
    (a : Action) : ∀ s ∈ (t.step a).scans, s.IndexSound := by
  generalize ht : t.step a = t'
  have hm : Tracker.Move t a t' := ht ▸ t.move_step a
  cases hm with
  | cancelling _ hm | cancelled _ hm | stopping _ hm | stopped _ hm | replacing _ hm
  | replaced _ hm => exact hm.indexSound h
  | launched _ _ hnew =>
    intro x hx
    rcases List.mem_append.1 hx with hx | hx
    · exact h x hx
    · obtain rfl := List.mem_singleton.1 hx
      cases hnew <;>
        · rintro (hstage | ⟨m, hm⟩)
          · cases hstage
          · cases hm
  | thread hs hm => exact indexSound_of_set h hs (hm.indexSound (hinv.scans hs))
  | file hs hf htask hm =>
    exact indexSound_of_set h hs fun hsound hneed => ((hsound hneed).not_move htask hm).elim
  | entry hs | published hs | refused hs => exact indexSound_of_set h hs fun h => h
  | taken hs =>
    refine indexSound_of_set h hs fun hsound hneed => hsound (hneed.imp_right ?_)
    rintro ⟨m, hm⟩
    cases hm
  | _ => exact h

theorem Tracker.indexSound_run (hinv : TrackerInv l t) (h : ∀ s ∈ t.scans, s.IndexSound)
    (actions : List Action) : ∀ s ∈ (t.run actions).scans, s.IndexSound := by
  induction actions generalizing t l with
  | nil => exact h
  | cons a rest ih => exact ih (hinv.step a) (Tracker.indexSound_step hinv h a)

/-! ### Scans that are over -/

/-- The scan is over, and the summary stands for all it has done. -/
def Scan.Delivered (m : Summary) (s : Scan) : Prop :=
  s.stage = .ended ∧ s.Indexed ∧ s.entryTasks.all Tracker.entryDone = true ∧
    Tracker.summaryOf s = m

/-- There is no work on entries left. -/
theorem Scan.Delivered.eq_done (h : s.Delivered m) {task : EntryTask} (ht : task ∈ s.entryTasks) :
    task = .done := by
  have hdone := List.all_eq_true.1 h.2.2.1 task ht
  cases task with
  | done => rfl
  | _ => cases hdone

/-- The scan at a position is over, and the summary stands for all it has done. -/
def Tracker.Delivers (t : Tracker) (g : Nat) (m : Summary) : Prop :=
  ∃ s, t.scans[g]? = some s ∧ s.Delivered m

/-- A scan that has handed over a summary has nothing left to do. -/
theorem ScanInv.delivered (h : ScanInv l t g s) (hs : s.IndexSound)
    (ho : s.outcome = some (.completed m)) : s.Delivered m := by
  have hended : s.stage = .ended := h.outcome.resolve_right (by simp [ho])
  have hst := h.stage
  rw [hended] at hst
  obtain ⟨hcomplete, rfl⟩ := hst m ho
  exact ⟨hended, hs (Or.inr ⟨_, ho⟩), hcomplete.entriesOver.done, rfl⟩

namespace Tracker.Delivers

theorem of_set {j : Nat} (h : t.Delivers g m) (hs : t.scans[j]? = some s)
    (hscans : t'.scans = t.scans.set j s') (hs' : s.Delivered m → s'.Delivered m) :
    t'.Delivers g m := by
  obtain ⟨x, hx, hd⟩ := h
  rw [Delivers, hscans]
  by_cases hj : j = g
  · subst hj
    obtain rfl : s = x := Option.some.inj (hs.symm.trans hx)
    have hlt := (List.getElem?_eq_some_iff.1 hs).1
    exact ⟨s', by simp [hlt], hs' hd⟩
  · exact ⟨x, by rwa [List.getElem?_set_ne hj], hd⟩

theorem cancel {scans : List Scan} (h : t.Delivers g m) (hm : t.CancelMove scans)
    (hscans : t'.scans = scans) : t'.Delivers g m := by
  cases hm with
  | same =>
    rw [Delivers, hscans]
    exact h
  | flagged hs => exact h.of_set hs hscans fun h => h
  | advanced hs => exact h.of_set hs hscans fun h => h

/-- **What is over stays as it is**: only requests to stop and the taking of its outcome still
change such a scan. -/
theorem step (h : t.Delivers g m) (a : Action) : (t.step a).Delivers g m := by
  generalize ht : t.step a = t'
  have hm : Tracker.Move t a t' := ht ▸ t.move_step a
  cases hm with
  | cancelling _ hm | cancelled _ hm | stopping _ hm | stopped _ hm | replacing _ hm
  | replaced _ hm => exact h.cancel hm rfl
  | launched =>
    obtain ⟨s, hs, hd⟩ := h
    have hlt := (List.getElem?_eq_some_iff.1 hs).1
    exact ⟨s, by rw [List.getElem?_append_left hlt, hs], hd⟩
  | thread hs hm =>
    refine h.of_set hs rfl ?_
    rintro ⟨hended, -⟩
    cases hm <;> simp_all
  | file hs hf htask hm =>
    exact h.of_set hs rfl fun hd => (hd.2.1.not_move htask hm).elim
  | entry hs hid he htask hm =>
    refine h.of_set hs rfl fun hd => ?_
    obtain rfl := hd.eq_done (List.mem_of_getElem? htask)
    cases hm
  | published hs hid he htask | refused hs hid he htask =>
    exact h.of_set hs rfl fun hd => nomatch hd.eq_done (List.mem_of_getElem? htask)
  | taken hs => exact h.of_set hs rfl fun h => h
  | _ => exact h

theorem run (h : t.Delivers g m) (actions : List Action) : (t.run actions).Delivers g m := by
  induction actions generalizing t with
  | nil => exact h
  | cons a rest ih => exact ih (h.step a)

end Tracker.Delivers

/-! ### Sums over all scans -/

/-- The counters are the sums of the counts in some summaries. -/
structure Counters.SumsUp (c : Counters) (summaries : List Summary) : Prop where
  entriesMatched : c.entriesMatched = (summaries.map Summary.entriesMatched).sum
  referencesFound : c.referencesFound = (summaries.map Summary.referencesFound).sum
  filesIndexed : c.filesIndexed = (summaries.map Summary.filesIndexed).sum
  filesSkipped : c.filesSkipped = (summaries.map Summary.filesSkipped).sum

/-- The accepted attempts are those of the scans, scan by scan. -/
theorem Attempt.sum_publishedBy (w : Attempt → Nat) {attempts : List Attempt} {counts : List Nat}
    (hlt : ∀ p ∈ attempts, p.scan < counts.length)
    (hcounts : ∀ (g : Nat) (h : g < counts.length),
      counts[g] = ((publishedBy g attempts).map w).sum) :
    counts.sum = ((attempts.filter Attempt.accepted).map w).sum := by
  have hsum : counts.sum = ∑ i : Fin counts.length, ((publishedBy i attempts).map w).sum := by
    rw [← Fin.sum_univ_getElem]
    exact Finset.sum_congr rfl fun i _ => hcounts i i.isLt
  rw [hsum]
  clear hcounts hsum
  induction attempts with
  | nil => simp [publishedBy]
  | cons p attempts ih =>
    have hp : p.scan < counts.length := hlt p List.mem_cons_self
    have hcons (i : Fin counts.length) : ((publishedBy i (p :: attempts)).map w).sum =
        (if i = ⟨p.scan, hp⟩ then if p.accepted then w p else 0 else 0) +
          ((publishedBy i attempts).map w).sum := by
      rw [publishedBy, publishedBy, List.filter_cons]
      by_cases hi : i = ⟨p.scan, hp⟩
      · subst hi
        cases p.accepted <;> simp
      · have hne : p.scan ≠ i := fun h => hi (Fin.ext h.symm)
        simp [hi, hne]
    rw [Finset.sum_congr rfl fun i _ => hcons i, Finset.sum_add_distrib, Finset.sum_ite_eq',
      ih fun q hq => hlt q (List.mem_cons_of_mem p hq)]
    cases h : p.accepted <;> simp [h]

namespace Scan.Delivered

/-- All work of the scan is over. -/
theorem settled (h : s.Delivered m) : s.Settled := by
  constructor
  · obtain ⟨indexes, -, htasks, -⟩ := h.2.1
    rw [htasks]
    intro task htask
    obtain ⟨x, -, rfl⟩ := List.mem_map.1 htask
    rfl
  · intro task htask
    rw [h.eq_done htask]
    rfl

/-- The summary counts the indexes that the work on files has left. -/
theorem files (h : s.Delivered m) :
    m.filesIndexed =
        ((s.fileTasks.filterMap FileTask.index?).filter FileIndex.isApplicable).length ∧
      m.filesSkipped =
        ((s.fileTasks.filterMap FileTask.index?).filter fun x => !x.isApplicable).length := by
  obtain ⟨-, ⟨indexes, hlen, htasks, hlookup⟩, -, rfl⟩ := h
  have hindexes : s.fileTasks.filterMap FileTask.index? = indexes := by
    rw [htasks, List.filterMap_map]
    exact List.filterMap_some
  have hsplit := List.length_eq_length_filter_add (l := indexes) FileIndex.isApplicable
  rw [hindexes, Tracker.summaryOf, hlookup, ← hlen]
  refine ⟨rfl, ?_⟩
  show indexes.length - (indexes.filter FileIndex.isApplicable).length = _
  omega

/-- The summary counts the lists that were accepted. -/
theorem lists (h : s.Delivered m) (hc : ScanCore l t g s) :
    m.entriesMatched = (Attempt.publishedBy g l.attempts).length ∧
      m.referencesFound =
        ((Attempt.publishedBy g l.attempts).map fun p => p.references.length).sum := by
  have hzero (w : EntryTask → Nat) (hw : w .done = 0) : (s.entryTasks.map w).sum = 0 := by
    rw [List.sum_eq_zero_iff]
    intro n hn
    obtain ⟨task, htask, rfl⟩ := List.mem_map.1 hn
    rw [h.eq_done htask, hw]
  have hcounted := hc.counted
  have hsummed := hc.summed
  rw [hzero _ rfl] at hcounted hsummed
  rw [← h.2.2.2]
  exact ⟨hcounted, hsummed⟩

end Scan.Delivered

/-- Where each scan has left a summary, the counters are the sums of their counts. -/
theorem Tracker.sumsUp_of_delivers (hinv : TrackerInv l t)
    (hb : ∀ x : Account, x.Sound → x.Balanced l.attempts t) {summaries : List Summary}
    (hlen : summaries.length = t.scans.length)
    (h : ∀ (g : Nat) m, summaries[g]? = some m → t.Delivers g m) :
    t.counters.SumsUp summaries := by
  have hdelivered {g : Nat} {s : Scan} (hs : t.scans[g]? = some s) :
      ∃ m, summaries[g]? = some m ∧ s.Delivered m := by
    have hlt : g < summaries.length := hlen ▸ (List.getElem?_eq_some_iff.1 hs).1
    obtain ⟨s', hs', hd⟩ := h g _ (List.getElem?_eq_getElem hlt)
    obtain rfl : s = s' := Option.some.inj (hs.symm.trans hs')
    exact ⟨_, List.getElem?_eq_getElem hlt, hd⟩
  have hsettled : t.Settled := by
    intro s hs
    obtain ⟨g, hg⟩ := List.mem_iff_getElem?.1 hs
    obtain ⟨m, -, hd⟩ := hdelivered hg
    exact hd.settled
  have hshows : t.counters.Shows l.attempts t.indexed := hsettled.shows hb
  have hscans (f : Scan → Nat) (count : Summary → Nat)
      (hf : ∀ {s m}, s.Delivered m → f s = count m) :
      (t.scans.map f).sum = (summaries.map count).sum := by
    congr 1
    refine List.ext_getElem (by simp [hlen]) fun g hg _ => ?_
    rw [List.length_map] at hg
    obtain ⟨m, hm, hd⟩ := hdelivered (List.getElem?_eq_getElem hg)
    rw [List.getElem_map, List.getElem_map, (List.getElem?_eq_some_iff.1 hm).2]
    exact hf hd
  have hlists (w : Attempt → Nat) (count : Summary → Nat)
      (hw : ∀ {g s m}, ScanCore l t g s → s.Delivered m →
        count m = ((Attempt.publishedBy g l.attempts).map w).sum) :
      ((l.attempts.filter Attempt.accepted).map w).sum = (summaries.map count).sum := by
    refine (Attempt.sum_publishedBy w (fun p hp => ?_) fun g hg => ?_).symm
    · obtain ⟨s, _, hs, -⟩ := hinv.attempts p hp
      rw [List.length_map, hlen]
      exact (List.getElem?_eq_some_iff.1 hs).1
    · rw [List.length_map] at hg
      obtain ⟨s, hs, hd⟩ := h g _ (List.getElem?_eq_getElem hg)
      rw [List.getElem_map]
      exact hw (hinv.scans hs).core hd
  constructor
  · rw [hshows.entriesMatched, ← hlists (fun _ => 1) _ fun hc hd => by simpa using (hd.lists hc).1]
    simp
  · rw [hshows.referencesFound]
    exact hlists _ _ fun hc hd => (hd.lists hc).2
  · rw [hshows.filesIndexed, indexed, List.filter_flatMap, List.length_flatMap]
    exact hscans _ _ fun hd => hd.files.1.symm
  · rw [hshows.filesSkipped, indexed, List.filter_flatMap, List.length_flatMap]
    exact hscans _ _ fun hd => hd.files.2.symm

/-! ### Runs -/

namespace Tracker

/-- The scan at a position hands over a summary at some moment of a run. -/
def HandsOver (t : Tracker) (actions : List Action) (g : Nat) (m : Summary) : Prop :=
  ∃ n s, (t.run (actions.take n)).scans[g]? = some s ∧ s.outcome = some (.completed m)

theorem handsOver_of_outcome {actions : List Action} (hs : (t.run actions).scans[g]? = some s)
    (ho : s.outcome = some (.completed m)) : t.HandsOver actions g m :=
  ⟨actions.length, s, by rwa [List.take_length], ho⟩

variable (settings : ScanSettings) (entries : List Entry) (files : FileTree)
  (actions : List Action)

theorem delivers_of_handsOver {g : Nat} {m : Summary}
    (h : (initial settings entries files).HandsOver actions g m) :
    ((initial settings entries files).run actions).Delivers g m := by
  obtain ⟨n, s, hs, ho⟩ := h
  have hnone : ∀ s ∈ (initial settings entries files).scans, s.IndexSound :=
    fun s hs => absurd hs List.not_mem_nil
  have hsound := indexSound_run (TrackerInv.initial settings entries files) hnone
    (actions.take n) s (List.mem_of_getElem? hs)
  have hd := ((inv_run settings entries files (actions.take n)).scans hs).delivered hsound ho
  rw [← List.take_append_drop n actions, run_append]
  exact Tracker.Delivers.run ⟨s, hs, hd⟩ (actions.drop n)

/-- **What the counters are in any run**, with scans that are asked to stop and others that take
their place. Where no task is about to be counted, the counters show how many lists were accepted
with how many references, and how many files have passed through indexing. If each scan has handed
over a summary, the counters are the sums of the counts in the summaries. -/
theorem counters_run :
    (((initial settings entries files).run actions).Settled →
      ((initial settings entries files).run actions).counters.Shows
        ((initial settings entries files).attempts actions)
        ((initial settings entries files).run actions).indexed ∧
      ((initial settings entries files).run actions).counters.filesIndexed +
          ((initial settings entries files).run actions).counters.filesSkipped =
        ((initial settings entries files).run actions).indexed.length) ∧
    ∀ summaries : List Summary,
      summaries.length = ((initial settings entries files).run actions).scans.length →
      (∀ (g : Nat) m, summaries[g]? = some m →
        (initial settings entries files).HandsOver actions g m) →
      ((initial settings entries files).run actions).counters.SumsUp summaries := by
  have hb (x : Account) (hx : x.Sound) := balanced_run settings entries files actions hx
  constructor
  · intro h
    have hshows := h.shows hb
    exact ⟨hshows, hshows.files⟩
  · intro summaries hlen h
    have hinv := inv_run settings entries files actions
    exact sumsUp_of_delivers hinv hb hlen fun g m hm =>
      delivers_of_handsOver settings entries files actions (h g m hm)

/-- The steps of two scans as in `plainRun`, of which the second replaces the first when that one
has published its list. -/
def replacedRun : List Action :=
  plainRun.take 37 ++ plainRun.take 1 ++
    List.replicate 8 (Action.call 1) ++ List.replicate 10 (Action.thread 0) ++
    [Action.thread 1] ++ List.replicate 9 (Action.file 1 0) ++ List.replicate 6 (Action.thread 1) ++
    List.replicate 16 (Action.entry 1 0) ++ List.replicate 8 (Action.thread 1)

/-- The list of a scan that was replaced is counted with that of the scan that took its place. The
counts of a scan that is alone are those of its summary. -/
theorem counters_of_replacedRun :
    (((initial .standard [⟨"", "a"⟩] ⟨[(["f.t"], .file [97])], []⟩).run
        replacedRun).scans.map Scan.outcome) = [some .cancelled, some (.completed ⟨1, 0, 1, 1⟩)] ∧
      ((initial .standard [⟨"", "a"⟩] ⟨[(["f.t"], .file [97])], []⟩).run
        replacedRun).counters.entriesMatched = 2 ∧
      ((initial .standard [⟨"", "a"⟩] ⟨[(["f.t"], .file [97])], []⟩).run
        replacedRun).indexed.length = 2 ∧
      ((initial .standard [⟨"", "a"⟩] ⟨[(["f.t"], .file [97])], []⟩).run
        plainRun).counters.SumsUp [⟨1, 0, 1, 1⟩] := by
  obtain ⟨hshows, -⟩ :=
    counters_run .standard [⟨"", "a"⟩] ⟨[(["f.t"], .file [97])], []⟩ replacedRun
  obtain ⟨-, hsums⟩ := counters_run .standard [⟨"", "a"⟩] ⟨[(["f.t"], .file [97])], []⟩ plainRun
  have hsettled : ((initial .standard [⟨"", "a"⟩] ⟨[(["f.t"], .file [97])], []⟩).run
      replacedRun).Settled := by decide +kernel
  have hlen : [(⟨1, 0, 1, 1⟩ : Summary)].length = ((initial .standard [⟨"", "a"⟩]
      ⟨[(["f.t"], .file [97])], []⟩).run plainRun).scans.length := by decide +kernel
  obtain ⟨hshown, hfiles⟩ := hshows hsettled
  refine ⟨by decide +kernel, ?_, ?_, hsums _ hlen ?_⟩
  · rw [hshown.entriesMatched]
    decide +kernel
  · rw [← hfiles]
    decide +kernel
  · intro g m hm
    obtain ⟨rfl, rfl⟩ : g = 0 ∧ m = ⟨1, 0, 1, 1⟩ := by
      cases g with
      | zero => exact ⟨rfl, (Option.some.inj hm).symm⟩
      | succ g => cases hm
    obtain ⟨s, hs, ho⟩ := Option.map_eq_some_iff.1 outcome_plainRun
    exact handsOver_of_outcome hs ho

end Tracker

end KeyTrace
