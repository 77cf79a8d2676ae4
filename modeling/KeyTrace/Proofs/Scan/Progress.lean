import KeyTrace.Proofs.Rule.Reference
import KeyTrace.Proofs.Scan.Completion
import KeyTrace.Proofs.Scan.OneScan

/-!
# How far a scan has come

A scan counts each unit of work at most once: what the tasks on its files and entries have added to
the count is at most one each, and there are no more tasks than files and entries. This holds even
if a scan is asked to stop, when some units are never counted. The percentage is then in range
without being cut off, and the product it is computed from fits into a machine word that has room
for a hundred times the total.

A reading looks at the state first and at the count in a later step, so other steps may come in
between.

## Main definitions

* `Progress.reading?`, `Tracker.reading?`: a reading of how much is done.
* `Scan.Counts`: what has been counted is what the tasks have added.

## Main results

* `Tracker.counts_run`: the count of every scan in every run.
* `Tracker.progress_run`: readings are in range, zero just if they have to be, and never go down.
-/

namespace KeyTrace

/-! ### Percentages -/

namespace Progress

variable {p q : Progress}

theorem percent_eq_zero_iff : p.percent = 0 ↔ p.state.isActive = false ∨ p.total = 0 := by
  rw [percent]
  split
  · rename_i h
    simpa using h
  · rename_i h
    refine ⟨fun hzero => ?_, fun hno => absurd (by simpa using hno) h⟩
    have hone := Nat.le_max_left 1 (min 100 (100 * p.visited / p.total))
    omega

theorem percent_le (p : Progress) : p.percent ≤ 100 := by
  rw [percent]
  split
  · exact Nat.zero_le _
  · exact max_le (by decide) (min_le_left _ _)

/-- With more units done the percentage is no less, as long as the scan is at work. -/
theorem percent_mono (hv : p.visited ≤ q.visited) (ht : q.total = p.total)
    (hq : q.state.isActive = true) : p.percent ≤ q.percent := by
  by_cases hp : p.percent = 0
  · exact hp ▸ Nat.zero_le _
  · obtain ⟨hactive, hpos⟩ := not_or.1 (mt percent_eq_zero_iff.2 hp)
    have hdiv : 100 * p.visited / p.total ≤ 100 * q.visited / p.total :=
      Nat.div_le_div_right (Nat.mul_le_mul_left 100 hv)
    rw [percent, percent, ht, hq, Bool.eq_true_of_not_eq_false hactive]
    simp only [beq_eq_false_iff_ne.2 hpos, Bool.not_true, Bool.or_false, Bool.false_eq_true,
      if_false]
    exact max_le_max_left 1 (min_le_min_left 100 hdiv)

/-- A reading by a machine whose numbers go up to `most`, where the state is read `early` and the
count `late`. There is none if the product is too great. -/
def reading? (most : Nat) (early late : Progress) : Option Nat :=
  if !early.state.isActive || late.total == 0 then some 0
  else if 100 * late.visited ≤ most then
    some (max 1 (min 100 (100 * late.visited / late.total)))
  else none

/-- If the product fits, a reading is a percentage. -/
theorem reading?_eq {most : Nat} {early late : Progress} (h : 100 * late.visited ≤ most) :
    reading? most early late = some { late with state := early.state }.percent := by
  rw [reading?, percent, if_pos h]
  split <;> rfl

end Progress

/-! ### Units of work -/

theorem FileTask.visits_le (task : FileTask) : task.visits ≤ 1 := by
  cases task <;> simp [visits]

theorem EntryTask.visits_le (task : EntryTask) : task.visits ≤ 1 := by
  cases task <;> simp [visits]

variable {l : Ledger} {t : Tracker} {g k : Nat} {s s' : Scan} {a : Action}

/-- A file that is dropped adds nothing to the count, although its task is done. -/
theorem FileTask.Move.visited_le {f : SourceFile} {task task' : FileTask}
    (hm : task.Move t s f task') :
    (s.afterFile k task task').progress.visited + task.visits ≤
      s.progress.visited + task'.visits := by
  cases hm with
  | dropped => exact Nat.le_succ _
  | _ => exact Nat.le_refl _

theorem EntryTask.Move.visited_le {e : Entry} {task task' : EntryTask}
    (hm : task.Move t s e task') :
    (s.afterEntry k task task').progress.visited + task.visits ≤
      s.progress.visited + task'.visits := by
  cases hm with
  | dropped | givenUp => exact Nat.le_succ _
  | _ => exact Nat.le_refl _

namespace Scan

/-- There is at most one task for each file and each entry, and the units of work that have been
counted are some of those that tasks have done. -/
structure Counts (s : Scan) : Prop where
  files : s.fileTasks.length ≤ s.files.length
  entries : s.entryTasks.length ≤ s.entries.length
  visited : s.progress.visited ≤
    (s.fileTasks.map FileTask.visits).sum + (s.entryTasks.map EntryTask.visits).sum

namespace Counts

theorem of_isNew {settings : ScanSettings} {r : ScanRequest} {n : Nat}
    (h : s.IsNew settings r n) : s.Counts := by
  cases h <;> exact ⟨Nat.zero_le _, Nat.zero_le _, Nat.le_refl _⟩

/-- No more units are counted than there are files and entries. -/
theorem visited_le (h : s.Counts) : s.progress.visited ≤ s.entries.length + s.files.length := by
  have hfiles := List.sum_le_card_nsmul (s.fileTasks.map FileTask.visits) 1
    (by simpa using fun task _ => FileTask.visits_le task)
  have hentries := List.sum_le_card_nsmul (s.entryTasks.map EntryTask.visits) 1
    (by simpa using fun task _ => EntryTask.visits_le task)
  simp only [List.length_map, smul_eq_mul, mul_one] at hfiles hentries
  calc s.progress.visited
      ≤ (s.fileTasks.map FileTask.visits).sum + (s.entryTasks.map EntryTask.visits).sum :=
        h.visited
    _ ≤ s.fileTasks.length + s.entryTasks.length := Nat.add_le_add hfiles hentries
    _ ≤ s.entries.length + s.files.length := by
        have hf := h.files
        have he := h.entries
        omega

/-- The thread makes the tasks, and only while there are none. -/
theorem thread (h : s.Counts) (hinv : ScanInv l t g s) (hm : s.ThreadMove t s') : s'.Counts := by
  have hstage := hinv.stage
  have hv := h.visited
  cases hm with
  | started hst =>
    rw [hst] at hstage
    rw [hstage.1] at hv
    refine ⟨by simp, h.entries, ?_⟩
    simpa [FileTask.visits] using hv
  | matchingBegun hst =>
    rw [hst] at hstage
    rw [hstage.2.1] at hv
    refine ⟨h.files, by simp, ?_⟩
    simpa [EntryTask.visits, Advance.step_visited] using hv
  | starting | completing | completed | yielding | yielded | leaving | departed =>
    exact ⟨h.files, h.entries, (Advance.step_visited ..).trans_le hv⟩
  | _ => exact ⟨h.files, h.entries, hv⟩

theorem file {f : SourceFile} {task task' : FileTask} (h : s.Counts)
    (ht : s.fileTasks[k]? = some task) (hm : task.Move t s f task') :
    (s.afterFile k task task').Counts := by
  refine ⟨(List.length_set ..).trans_le h.files, h.entries, ?_⟩
  have hsum := sum_map_set FileTask.visits task' ht
  have hadded := hm.visited_le (k := k)
  have hv := h.visited
  change _ ≤ ((s.fileTasks.set k task').map FileTask.visits).sum +
    (s.entryTasks.map EntryTask.visits).sum
  omega

theorem entry {e : Entry} {task task' : EntryTask} (h : s.Counts)
    (ht : s.entryTasks[k]? = some task) (hm : task.Move t s e task') :
    (s.afterEntry k task task').Counts := by
  refine ⟨h.files, (List.length_set ..).trans_le h.entries, ?_⟩
  have hsum := sum_map_set EntryTask.visits task' ht
  have hadded := hm.visited_le (k := k)
  have hv := h.visited
  change _ ≤ (s.fileTasks.map FileTask.visits).sum +
    ((s.entryTasks.set k task').map EntryTask.visits).sum
  omega

theorem attempted {found : List Reference} {accepted : Bool} (h : s.Counts)
    (ht : s.entryTasks[k]? = some (.publishing found)) :
    Counts { s with entryTasks := s.entryTasks.set k (.afterAttempt accepted found) } := by
  refine ⟨h.files, (List.length_set ..).trans_le h.entries, ?_⟩
  have hsum := sum_map_set EntryTask.visits (.afterAttempt accepted found) ht
  have hnone : (EntryTask.publishing found).visits = 0 := rfl
  have hv := h.visited
  change s.progress.visited ≤ (s.fileTasks.map FileTask.visits).sum +
    ((s.entryTasks.set k (.afterAttempt accepted found)).map EntryTask.visits).sum
  omega

/-- **Every step keeps the count.** -/
theorem move (h : s.Counts) (hinv : ScanInv l t g s) (hm : s.Move t g a s') : s'.Counts := by
  cases hm with
  | same => exact h
  | flagged | taken => exact ⟨h.files, h.entries, h.visited⟩
  | advanced => exact ⟨h.files, h.entries, (Advance.step_visited ..).trans_le h.visited⟩
  | thread hm => exact h.thread hinv hm
  | file ht hm => exact h.file ht hm
  | entry ht hm => exact h.entry ht hm
  | attempted _ ht => exact h.attempted ht

end Counts

/-- A scan that has come at least as far as it had, with the same work to do. -/
def Further (s s' : Scan) : Prop :=
  s'.progress.total = s.progress.total ∧ s.progress.visited ≤ s'.progress.visited

/-- **No step takes back what has been counted**, and none changes how much there is to do. -/
theorem Move.further (hm : s.Move t g a s') : s.Further s' := by
  have hadvance : ∀ (d : Advance) (s' : Scan), s'.progress = (d.step s.progress).1 →
      s.Further s' := by
    intro d s' h
    rw [Further, h, Advance.step_total, Advance.step_visited]
    exact ⟨rfl, Nat.le_refl _⟩
  cases hm with
  | same | flagged | taken | attempted => exact ⟨rfl, Nat.le_refl _⟩
  | @advanced _ d => exact hadvance d _ rfl
  | thread hm =>
    cases hm with
    | starting | matchingBegun | completing | completed | yielding | yielded | leaving
    | departed => exact hadvance _ _ rfl
    | _ => exact ⟨rfl, Nat.le_refl _⟩
  | @file _ _ task => cases task <;> exact ⟨rfl, by simp [afterFile, Progress.visit]⟩
  | @entry _ _ task => cases task <;> exact ⟨rfl, by simp [afterEntry, Progress.visit]⟩

end Scan

/-! ### Readings -/

namespace Tracker

/-- A scan that is there later has come further. -/
theorem further_run (hs : t.scans[g]? = some s) (actions : List Action) :
    ∃ s', (t.run actions).scans[g]? = some s' ∧ s.Further s' :=
  scan_run (fun _ => ⟨rfl, Nat.le_refl _⟩)
    (fun h h' => ⟨h'.1.trans h.1, h.2.trans h'.2⟩) (fun hm => hm.further) hs actions

/-- A reading of how much of a scan is done, by a machine whose numbers go up to `most`. Steps are
taken meanwhile, after the state and before the count is read. -/
def reading? (t : Tracker) (most g : Nat) (meanwhile : List Action) : Option Nat :=
  (t.scans[g]?).bind fun early =>
    ((t.run meanwhile).scans[g]?).bind fun late =>
      Progress.reading? most early.progress late.progress

theorem reading?_eq {most : Nat} {meanwhile : List Action} (hs : t.scans[g]? = some s)
    (hs' : (t.run meanwhile).scans[g]? = some s') :
    t.reading? most g meanwhile = Progress.reading? most s.progress s'.progress := by
  rw [reading?, hs, hs']
  rfl

variable (settings : ScanSettings) (entries : List Entry) (files : FileTree)
  (actions : List Action)

/-- **The count of a scan in a run.** -/
theorem counts_run (hs : ((initial settings entries files).run actions).scans[g]? = some s) :
    s.Counts :=
  scan_induction (P := fun _ s => s.Counts) settings entries files
    (fun _ => Scan.Counts.of_isNew) (fun hinv hm h => h.move hinv hm) actions hs

/-- A scan has no more counted than there is to do. -/
theorem visited_le_total
    (hs : ((initial settings entries files).run actions).scans[g]? = some s) :
    s.progress.visited ≤ s.progress.total := by
  rw [((inv_run settings entries files actions).scans hs).core.total]
  exact (counts_run settings entries files actions hs).visited_le

/-- If there is room for a hundred times the total, a reading is a percentage. -/
theorem exists_reading? {most : Nat}
    (hs : ((initial settings entries files).run actions).scans[g]? = some s)
    (hmost : s.progress.total ≤ most / 100) (meanwhile : List Action) :
    ∃ s', ((initial settings entries files).run (actions ++ meanwhile)).scans[g]? = some s' ∧
      s.Further s' ∧ ((initial settings entries files).run actions).reading? most g meanwhile =
        some { s'.progress with state := s.progress.state }.percent := by
  obtain ⟨s', hs', hfurther⟩ := further_run hs meanwhile
  have hle := visited_le_total settings entries files (actions ++ meanwhile)
    (by rwa [run_append])
  have hroom : 100 * s'.progress.visited ≤ most := by
    rw [hfurther.1] at hle
    have hmul := (Nat.le_div_iff_mul_le (by decide)).1 hmost
    omega
  refine ⟨s', by rwa [run_append], hfurther, ?_⟩
  rw [reading?_eq hs hs', Progress.reading?_eq hroom]

/-- **How far a scan has come.** In any run, the units to do are the entries and the distinct files
to search, and no more are ever counted. If a machine has room for a hundred times their number,
each reading succeeds, however many steps come between its two looks. It is at most a hundred, and
zero just if the scan was not at work or has nothing to do; otherwise it is at least one. A later
reading that finds the scan at work is no less. -/
theorem progress_run (hs : ((initial settings entries files).run actions).scans[g]? = some s) :
    (∃ r ∈ actions.filterMap Action.request?, s.entries = r.entries ∧
      SourceFile.IsDistinct settings r.files s.files ∧
      s.progress.total = r.entries.length + s.files.length) ∧
    s.progress.visited ≤ s.progress.total ∧
    100 * s.progress.visited / s.progress.total ≤ 100 ∧
    ∀ most, s.progress.total ≤ most / 100 →
      100 * s.progress.visited ≤ most ∧
      ∀ meanwhile, ∃ n,
        ((initial settings entries files).run actions).reading? most g meanwhile = some n ∧
        n ≤ 100 ∧
        (n = 0 ↔ s.progress.state.isActive = false ∨ s.progress.total = 0) ∧
        (s.progress.state.isActive = true → s.progress.total ≠ 0 → 1 ≤ n) ∧
        ∀ between later t', t' = (initial settings entries files).run
            (actions ++ meanwhile ++ between) →
          (∃ st, t'.state? g = some st ∧ st.isActive = true) →
            ∃ n', t'.reading? most g later = some n' ∧ n ≤ n' := by
  have hle := visited_le_total settings entries files actions hs
  obtain ⟨r, hr, hentries, -, hfiles⟩ := request_of_scan settings entries files actions hs
  have htotal := ((inv_run settings entries files actions).scans hs).core.total
  refine ⟨⟨r, hr, hentries, hfiles ▸ SourceFile.isDistinct_distinct settings r.files,
    hentries ▸ htotal⟩, hle, ?_, fun most hmost => ⟨?_, fun meanwhile => ?_⟩⟩
  · exact Nat.div_le_of_le_mul (by rw [Nat.mul_comm]; exact Nat.mul_le_mul_right 100 hle)
  · have hmul := (Nat.le_div_iff_mul_le (by decide)).1 hmost
    omega
  · obtain ⟨s₁, hs₁, hfurther₁, hread₁⟩ :=
      exists_reading? settings entries files actions hs hmost meanwhile
    have hzero := Progress.percent_eq_zero_iff (p := { s₁.progress with state := s.progress.state })
    rw [show ({ s₁.progress with state := s.progress.state } : Progress).total =
      s.progress.total from hfurther₁.1] at hzero
    refine ⟨_, hread₁, Progress.percent_le _, hzero, fun hactive hpos => ?_, ?_⟩
    · refine Nat.one_le_iff_ne_zero.2 fun h => ?_
      exact (hzero.1 h).elim (fun hno => nomatch hactive.symm.trans hno) hpos
    · rintro between later t' rfl ⟨st, hst, hactive⟩
      obtain ⟨s₂, hs₂, rfl⟩ := Option.map_eq_some_iff.1 hst
      obtain ⟨s₂', hs₂', hfurther₂⟩ := further_run hs₁ between
      rw [← run_append] at hs₂'
      obtain rfl : s₂' = s₂ := Option.some.inj (hs₂'.symm.trans hs₂)
      obtain ⟨s₃, -, hfurther₃, hread₃⟩ := exists_reading? settings entries files
        (actions ++ meanwhile ++ between) hs₂ (by rwa [hfurther₂.1, hfurther₁.1]) later
      refine ⟨_, hread₃, Progress.percent_mono ?_ ?_ hactive⟩
      · exact hfurther₂.2.trans hfurther₃.2
      · exact hfurther₃.1.trans hfurther₂.1

/-- A scan in the middle of its work, when its file is done and its entry is not. -/
theorem scan_plainRun_take :
    (((initial .standard [⟨"", "a"⟩] ⟨[(["f.t"], .file [97])], []⟩).run
      (plainRun.take 22)).scans[0]?).map Scan.progress = some ⟨1, 2, .matching⟩ := by
  decide +kernel

/-- A reading then is in range, although other steps come between its two looks. -/
theorem progress_of_plainRun :
    ∃ s n, ((initial .standard [⟨"", "a"⟩] ⟨[(["f.t"], .file [97])], []⟩).run
        (plainRun.take 22)).scans[0]? = some s ∧ s.progress = ⟨1, 2, .matching⟩ ∧
      ((initial .standard [⟨"", "a"⟩] ⟨[(["f.t"], .file [97])], []⟩).run
        (plainRun.take 22)).reading? (2 ^ 64 - 1) 0 (plainRun.drop 22) = some n ∧
      1 ≤ n ∧ n ≤ 100 := by
  obtain ⟨s, hs, hp⟩ := Option.map_eq_some_iff.1 scan_plainRun_take
  obtain ⟨-, -, -, hread⟩ := progress_run _ _ _ _ hs
  obtain ⟨n, hn, hle, -, hone, -⟩ :=
    (hread (2 ^ 64 - 1) (by rw [hp]; decide)).2 (plainRun.drop 22)
  exact ⟨s, n, hs, hp, hn, hone (by rw [hp]; rfl) (by rw [hp]; decide), hle⟩

end Tracker

end KeyTrace
