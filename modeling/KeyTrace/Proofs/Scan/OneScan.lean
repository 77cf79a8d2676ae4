import KeyTrace.Proofs.Scan.Publication
import KeyTrace.Proofs.Scan.State

/-!
# What one step makes of one scan

A move of the tracker touches at most one of its scans. Seen from the scan at a fixed position, most
moves are those of something else, and the ones that are left are few: its own thread, the work on
its files and entries, requests to stop it, and the taking of its outcome. What a scan keeps along
a run is proved by cases on these.

## Main definitions

* `Scan.Move`: what one step makes of a scan.

## Main results

* `Tracker.scanMove`: every step is such a move for each scan there is.
* `Tracker.scan_run`: what each move keeps of a scan is kept by a run.
* `Tracker.scan_induction`: what a new scan has and each move keeps holds of every scan.
-/

namespace KeyTrace

/-- What one step of a tracker makes of the scan at a position. -/
inductive Scan.Move (t : Tracker) (g : Nat) (s : Scan) : Action → Scan → Prop
  /-- The step is one of something else, or comes to nothing. -/
  | same {a : Action} (ha : a ≠ .take g) : Move t g s a s
  | flagged {i : Nat} : Move t g s (.call i) { s with cancelled := true }
  | advanced {i : Nat} {d : Advance} :
      Move t g s (.call i) { s with progress := (d.step s.progress).1 }
  | thread {s' : Scan} (hm : s.ThreadMove t s') : Move t g s (.thread g) s'
  | file {k : Nat} {f : SourceFile} {task task' : FileTask}
      (ht : s.fileTasks[k]? = some task) (hm : task.Move t s f task') :
      Move t g s (.file g k) (s.afterFile k task task')
  | entry {k : Nat} {e : Entry} {task task' : EntryTask}
      (ht : s.entryTasks[k]? = some task) (hm : task.Move t s e task') :
      Move t g s (.entry g k) (s.afterEntry k task task')
  | attempted (accepted : Bool) {k : Nat} {found : List Reference}
      (ht : s.entryTasks[k]? = some (.publishing found)) :
      Move t g s (.entry g k)
        { s with entryTasks := s.entryTasks.set k (.afterAttempt accepted found) }
  | taken : Move t g s (.take g) { s with outcome := none }

namespace Tracker

variable {t : Tracker} {a : Action} {g j : Nat} {s x x' : Scan}

/-- A change of the scan at one position, seen from another or the same position. -/
theorem getElem?_set_scan (ha : a ≠ .take g) (hs : t.scans[g]? = some s)
    (hx : t.scans[j]? = some x) (hmove : j = g → x.Move t j a x') :
    ∃ s', (t.scans.set j x')[g]? = some s' ∧ s.Move t g a s' := by
  by_cases hj : j = g
  · subst hj
    obtain rfl := Option.some.inj (hs.symm.trans hx)
    have hlt := (List.getElem?_eq_some_iff.1 hs).1
    exact ⟨x', by simp [hlt], hmove rfl⟩
  · exact ⟨s, (List.getElem?_set_ne hj).trans hs, .same ha⟩

/-- A step of a request to stop some scan. -/
theorem CancelMove.scanMove {scans : List Scan} (h : t.CancelMove scans)
    (hs : t.scans[g]? = some s) (i : Nat) :
    ∃ s', scans[g]? = some s' ∧ s.Move t g (.call i) s' := by
  cases h with
  | same => exact ⟨s, hs, .same nofun⟩
  | flagged hx => exact getElem?_set_scan nofun hs hx fun _ => .flagged
  | advanced hx => exact getElem?_set_scan nofun hs hx fun _ => .advanced

/-- **What one step makes of a scan.** -/
theorem scanMove (hs : t.scans[g]? = some s) (a : Action) :
    ∃ s', (t.step a).scans[g]? = some s' ∧ s.Move t g a s' := by
  by_cases ha : a = .take g
  · subst ha
    exact ⟨_, getElem?_updateScan hs _, .taken⟩
  · generalize ht : t.step a = t'
    have hm : Tracker.Move t a t' := ht ▸ t.move_step a
    cases hm with
    | cancelling _ hm | cancelled _ hm | stopping _ hm | stopped _ hm | replacing _ hm
    | replaced _ hm => exact hm.scanMove hs _
    | launched =>
      have hlt := (List.getElem?_eq_some_iff.1 hs).1
      exact ⟨s, (List.getElem?_append_left hlt).trans hs, .same ha⟩
    | thread hx hm => exact getElem?_set_scan ha hs hx fun _ => .thread hm
    | file hx _ htask hm => exact getElem?_set_scan ha hs hx fun _ => .file htask hm
    | entry hx _ _ htask hm => exact getElem?_set_scan ha hs hx fun _ => .entry htask hm
    | published hx _ _ htask =>
      exact getElem?_set_scan ha hs hx fun _ => .attempted true htask
    | refused hx _ _ htask =>
      exact getElem?_set_scan ha hs hx fun _ => .attempted false htask
    | taken hx => exact getElem?_set_scan ha hs hx fun hj => absurd (hj ▸ rfl) ha
    | _ => exact ⟨s, hs, .same ha⟩

end Tracker

namespace Scan.Move

variable {t : Tracker} {a : Action} {g : Nat} {s s' : Scan}

/-- No step changes the number of a scan, and none takes back its flag. -/
theorem flag (hm : s.Move t g a s') :
    s'.generation = s.generation ∧ (s.cancelled = true → s'.cancelled = true) := by
  cases hm with
  | flagged => exact ⟨rfl, fun _ => rfl⟩
  | thread hm => cases hm <;> exact ⟨rfl, id⟩
  | _ => exact ⟨rfl, id⟩

/-- A scan that has been asked to stop stays so. -/
theorem stops (hm : s.Move t g a s') (hb : s.generation ≤ t.generation) (h : t.Stops s) :
    (t.step a).Stops s' := by
  obtain ⟨hnumber, hflag⟩ := hm.flag
  rcases h with hc | hne
  · exact Or.inl (hflag hc)
  · refine Or.inr ?_
    have hgrows := (t.grows_step a).generation
    omega

end Scan.Move

namespace Tracker

variable {t : Tracker} {a : Action} {g : Nat} {s : Scan}

/-- A relation that each move of a scan keeps to is kept to by a run. -/
theorem scan_run {R : Scan → Scan → Prop} (hrefl : ∀ s, R s s)
    (htrans : ∀ {s₁ s₂ s₃}, R s₁ s₂ → R s₂ s₃ → R s₁ s₃)
    (hmove : ∀ {t : Tracker} {a : Action} {s s' : Scan}, s.Move t g a s' → R s s')
    (hs : t.scans[g]? = some s) (actions : List Action) :
    ∃ s', (t.run actions).scans[g]? = some s' ∧ R s s' := by
  induction actions generalizing t s with
  | nil => exact ⟨s, hs, hrefl s⟩
  | cons a rest ih =>
    obtain ⟨s₁, hs₁, hm⟩ := scanMove hs a
    obtain ⟨s₂, hs₂, hrest⟩ := ih hs₁
    exact ⟨s₂, hs₂, htrans (hmove hm) hrest⟩

/-- **A property of scans** that a new one has and each move keeps holds of all in every run. -/
theorem scan_induction {P : Tracker → Scan → Prop} (settings : ScanSettings)
    (entries : List Entry) (files : FileTree)
    (hnew : ∀ (t : Tracker) {settings : ScanSettings} {r : ScanRequest} {n : Nat} {s : Scan},
      s.IsNew settings r n → P t s)
    (hmove : ∀ {l : Ledger} {t : Tracker} {a : Action} {s s' : Scan}, ScanInv l t g s →
      s.Move t g a s' → P t s → P (t.step a) s')
    (actions : List Action)
    (hs : ((initial settings entries files).run actions).scans[g]? = some s) :
    P ((initial settings entries files).run actions) s := by
  induction actions using List.reverseRecOn generalizing s with
  | nil => cases hs
  | append_singleton actions a ih =>
    rw [run_append] at hs ⊢
    cases hbefore : ((initial settings entries files).run actions).scans[g]? with
    | none =>
      obtain ⟨r, n, hfirst⟩ := isNew_of_step hbefore hs
      exact hnew _ hfirst
    | some s₀ =>
      obtain ⟨s₁, hs₁, hm⟩ := scanMove hbefore a
      obtain rfl : s₁ = s := Option.some.inj (hs₁.symm.trans hs)
      exact hmove ((inv_run settings entries files actions).scans hbefore) hm (ih hbefore)

end Tracker

end KeyTrace
