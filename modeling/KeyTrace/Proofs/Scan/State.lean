import KeyTrace.Proofs.Scan.History
import KeyTrace.Proofs.Scan.Moves

/-!
# The state of a scan

The state of a scan is changed by its own thread and by requests to stop it, each of which reads it
first and then exchanges it in a later step. The thread goes from indexing to matching and on to
idle, and if it gives up, to cancelled and then to idle. A request to stop that finds the scan at
work means to make it cancelled, but when it comes to do so, the thread may have gone idle already.
Then the scan is cancelled for good, although it is over.

## Main definitions

* `ScanState.Leads`: the moves that are foreseen.
* `Tracker.Cancelling`: a request to stop that found the scan at work.
* `StateMove`: what a step makes of the state of a scan.
* `Tracker.lateSteps`: how many steps of a run make an idle scan cancelled.

## Main results

* `Tracker.stateStep`: what can change a scan's state.
* `Tracker.state_run`: the states of a scan along a run, and at its end.
* `Tracker.state_lateRun`: a scan that is left cancelled.
-/

namespace KeyTrace

/-- The moves of a scan's state that are foreseen. -/
inductive ScanState.Leads : ScanState → ScanState → Prop
  | begun : Leads .idle .indexing
  | indexed : Leads .indexing .matching
  | matched : Leads .matching .idle
  | indexingStopped : Leads .indexing .cancelled
  | matchingStopped : Leads .matching .cancelled
  | stopped : Leads .cancelled .idle

/-- A scan that is at work can be stopped. -/
theorem ScanState.Leads.to_cancelled {st : ScanState} (h : st ≠ .idle) (hc : st ≠ .cancelled) :
    st.Leads .cancelled := by
  cases st with
  | idle => exact absurd rfl h
  | indexing => exact .indexingStopped
  | matching => exact .matchingStopped
  | cancelled => exact absurd rfl hc

/-! ### Changes on their way -/

namespace Advance

variable {a b : Advance} {p : Progress}

/-- While a change is on its way, the state has not been changed, and has just been read. -/
theorem step_of_some (h : (a.step p).2 = some b) :
    (a.step p).1 = p ∧ b = { a with seen := some p.state } := by
  unfold step at h ⊢
  split at h
  · exact ⟨rfl, (Option.some.inj h).symm⟩
  · split at h
    · cases h
    · split at h
      · cases h
      · rename_i hmay hne
        rw [if_neg hmay, if_neg hne]
        exact ⟨rfl, (Option.some.inj h).symm⟩

/-- A change that is over was made, unless a cancelled scan was not to become idle. -/
theorem step_of_none (h : (a.step p).2 = none) :
    (a.seen = some p.state ∧ (p.state = .cancelled → a.next = .idle) ∧
      (a.step p).1.state = a.next) ∨
    (a.seen = some .cancelled ∧ a.next ≠ .idle ∧ (a.step p).1 = p) := by
  unfold step at h ⊢
  split at h
  · cases h
  · rename_i st hseen
    split at h
    · rename_i hmay
      rw [if_pos hmay]
      have hno : st = .cancelled ∧ a.next ≠ .idle := by simpa [Progress.mayAdvance] using hmay
      exact Or.inr ⟨hno.1 ▸ hseen, hno.2, rfl⟩
    · rename_i hmay
      have hyes : st = .cancelled → a.next = .idle := by simpa [Progress.mayAdvance] using hmay
      split at h
      · rename_i hst
        rw [if_neg hmay, if_pos hst]
        exact Or.inl ⟨hst ▸ hseen, fun hc => hyes (hst ▸ hc), rfl⟩
      · cases h

/-- A request to stop leaves the state as it was or makes it cancelled. -/
theorem step_cancelled (h : a.next = .cancelled) :
    (a.step p).1.state = p.state ∨
      (a.step p).1.state = .cancelled ∧ p.state ≠ .cancelled ∧ a.seen = some p.state := by
  cases hrest : (a.step p).2 with
  | some b => exact Or.inl (by rw [(step_of_some hrest).1])
  | none =>
    rcases step_of_none hrest with ⟨hseen, hmay, hstate⟩ | ⟨-, -, hp⟩
    · refine Or.inr ⟨hstate.trans h, fun hc => ?_, hseen⟩
      cases h.symm.trans (hmay hc)
    · exact Or.inl (by rw [hp])

end Advance

/-! ### Requests to stop -/

/-- The scan that a call is stopping, and how far it is. -/
def Call.cancels? : Call → Option (Nat × CancelCall)
  | .cancel g c => some (g, c)
  | .stopping g c => some (g, c)
  | .replacing _ g c => some (g, c)
  | _ => none

/-- Whether a call is over. -/
def Call.isOver : Call → Bool
  | .returned => true
  | _ => false

namespace Tracker

variable {t : Tracker} {a : Action} {g i j : Nat} {s : Scan} {d : Advance}

/-- A call found the scan at a position at work, and is about to make it cancelled. -/
def Cancelling (t : Tracker) (i g : Nat) (d : Advance) : Prop :=
  ∃ c, t.calls[i]? = some c ∧ c.cancels? = some (g, .advancing d)

/-- The state of the scan at a position, if it is there. -/
def state? (t : Tracker) (g : Nat) : Option ScanState :=
  (t.scans[g]?).map fun s => s.progress.state

/-- What one step of a request to stop makes of a scan. -/
theorem scans_stepCancel (hs : t.scans[g]? = some s) (j : Nat) (c : CancelCall) :
    ∃ s', (t.stepCancel j c).1.scans[g]? = some s' ∧
      (s' = { s with cancelled := s'.cancelled } ∨
        ∃ d, j = g ∧ c = .advancing d ∧ s' = { s with progress := (d.step s.progress).1 }) := by
  by_cases hj : j = g
  · subst hj
    have hlt := (List.getElem?_eq_some_iff.1 hs).1
    rw [stepCancel, hs]
    cases c with
    | flagging => exact ⟨_, getElem?_updateScan hs _, Or.inl rfl⟩
    | looking => exact ⟨s, hs, Or.inl rfl⟩
    | advancing d => exact ⟨_, getElem?_updateScan hs _, Or.inr ⟨d, rfl, rfl, rfl⟩⟩
  · refine ⟨s, ?_, Or.inl rfl⟩
    rw [stepCancel]
    split
    · exact hs
    · cases c with
      | looking => exact hs
      | _ => simpa [updateScan, List.getElem?_modify, hj] using hs

/-- One step of a request to stop leads to a change on its way if it finds the scan at work, or if
there was one. -/
theorem rest_stepCancel {c : CancelCall} (h : (t.stepCancel g c).2 = some (.advancing d)) :
    (c = .looking ∧ d = .to .cancelled ∧ ∃ s, t.scans[g]? = some s ∧
      s.progress.state.isActive = true) ∨
    ∃ d', c = .advancing d' ∧ d'.next = d.next := by
  rw [stepCancel] at h
  cases hs : t.scans[g]? with
  | none => rw [hs] at h; cases h
  | some s =>
    rw [hs] at h
    cases c with
    | flagging =>
      dsimp only at h
      split at h <;> cases h
    | looking =>
      dsimp only at h
      split at h
      · rename_i hactive
        have hd : Advance.to .cancelled = d := by simpa using h
        exact Or.inl ⟨rfl, hd.symm, s, rfl, hactive⟩
      · cases h
    | advancing d' =>
      obtain ⟨b, hb, hbd⟩ := Option.map_eq_some_iff.1 h
      have hbd : b = d := by simpa using hbd
      refine Or.inr ⟨d', rfl, ?_⟩
      rw [← hbd, (Advance.step_of_some hb).2]

/-- A request to stop the scan at a position finds it at work. -/
def FoundAtWork (t : Tracker) (g : Nat) (d : Advance) : Prop :=
  d = .to .cancelled ∧ ∃ s, t.scans[g]? = some s ∧ s.progress.state.isActive = true

/-- What a call goes on with, if that is a change on its way. -/
def GoesOn (t : Tracker) (c c' : Call) : Prop :=
  ∀ g d, c'.cancels? = some (g, .advancing d) →
    t.FoundAtWork g d ∨ ∃ d', c.cancels? = some (g, .advancing d') ∧ d'.next = d.next

/-- A step of a call that is stopping a scan is one of this request, which the call goes on with
until it is over. -/
theorem stepCall_of_cancels {c : Call} {k : CancelCall} (i : Nat) (h : c.cancels? = some (g, k)) :
    (t.stepCall i c).scans = (t.stepCancel g k).1.scans ∧
      ∃ c', (t.stepCall i c).calls = t.calls.set i c' ∧
        ∀ j k', c'.cancels? = some (j, k') → j = g ∧ (t.stepCancel g k).2 = some k' := by
  cases hstep : t.stepCancel g k with
  | mk t' rest =>
    have hset : ∀ c', t'.calls.set i c' = t.calls.set i c' := by
      obtain ⟨scans, -, hcancel⟩ := stepCancel_eq t g k
      rw [hstep] at hcancel
      obtain rfl : t' = _ := hcancel
      exact fun _ => rfl
    have hgoes : ∀ (k' : CancelCall) j k₁, some (g, k') = some (j, k₁) →
        j = g ∧ some k' = some k₁ := by
      rintro k' j k₁ ⟨⟩
      exact ⟨rfl, rfl⟩
    have hover : ∀ j k₁, (none : Option (Nat × CancelCall)) = some (j, k₁) →
        j = g ∧ none = some k₁ := by
      rintro j k₁ ⟨⟩
    cases c with
    | cancel =>
      cases h
      rw [stepCall, hstep]
      cases rest with
      | none => exact ⟨rfl, .returned, hset _, hover⟩
      | some k' => exact ⟨rfl, .cancel g k', hset _, hgoes k'⟩
    | stopping =>
      cases h
      rw [stepCall, hstep]
      cases rest with
      | none => exact ⟨rfl, .returned, hset _, hover⟩
      | some k' => exact ⟨rfl, .stopping g k', hset _, hgoes k'⟩
    | replacing r =>
      cases h
      rw [stepCall, hstep]
      cases rest with
      | none => exact ⟨rfl, .numbering r, hset _, hover⟩
      | some k' => exact ⟨rfl, .replacing r g k', hset _, hgoes k'⟩
    | _ => cases h

/-- A step of another call keeps the scans that there are, and a request to stop that it leads to
has not begun. -/
theorem stepCall_of_none {c : Call} (i : Nat) (h : c.cancels? = none) :
    t.scans <+: (t.stepCall i c).scans ∧
      ((t.stepCall i c).calls = t.calls ∨
        ∃ c', (t.stepCall i c).calls = t.calls.set i c' ∧
          ∀ j k, c'.cancels? = some (j, k) → k = .flagging) := by
  have hbegun : ∀ (g j : Nat) k, some (g, CancelCall.flagging) = some (j, k) → k = .flagging := by
    rintro g j k ⟨⟩
    rfl
  have hover : ∀ j k, (none : Option (Nat × CancelCall)) = some (j, k) → k = .flagging := by
    rintro j k ⟨⟩
  cases c with
  | cancel | stopping | replacing => cases h
  | stop =>
    rw [stepCall]
    split
    · exact ⟨List.prefix_refl _, Or.inl rfl⟩
    · split
      · exact ⟨List.prefix_refl _, Or.inr ⟨_, rfl, hover⟩⟩
      · exact ⟨List.prefix_refl _, Or.inr ⟨_, rfl, hbegun _⟩⟩
  | start r =>
    rw [stepCall]
    split
    · exact ⟨List.prefix_refl _, Or.inl rfl⟩
    · split
      · exact ⟨List.prefix_refl _, Or.inr ⟨_, rfl, hover⟩⟩
      · exact ⟨List.prefix_refl _, Or.inr ⟨_, rfl, hbegun _⟩⟩
  | numbering r => exact ⟨List.prefix_refl _, Or.inr ⟨_, rfl, hover⟩⟩
  | marking r n left =>
    cases left with
    | nil => exact ⟨List.prefix_append _ _, Or.inr ⟨_, rfl, hover⟩⟩
    | cons id rest => exact ⟨List.prefix_refl _, Or.inr ⟨_, rfl, hover⟩⟩
  | returned => exact ⟨List.prefix_refl _, Or.inl rfl⟩

/-- A step of a call replaces just this call, if anything. -/
theorem calls_stepCall (t : Tracker) (i : Nat) (c : Call) :
    (t.stepCall i c).calls = t.calls ∨
      ∃ c', (t.stepCall i c).calls = t.calls.set i c' ∧ t.GoesOn c c' := by
  cases hc : c.cancels? with
  | none =>
    refine (t.stepCall_of_none i hc).2.imp_right fun ⟨c', hcalls, hbegun⟩ => ⟨c', hcalls, ?_⟩
    intro g d hd
    cases hbegun g _ hd
  | some request =>
    obtain ⟨g, k⟩ := request
    obtain ⟨-, c', hcalls, hgoes⟩ := t.stepCall_of_cancels i hc
    refine Or.inr ⟨c', hcalls, fun j d hd => ?_⟩
    obtain ⟨rfl, hrest⟩ := hgoes j _ hd
    rcases rest_stepCancel hrest with ⟨-, hfound⟩ | ⟨d', rfl, hnext⟩
    · exact Or.inl hfound
    · exact Or.inr ⟨d', hc, hnext⟩

/-- A step that a call does not take itself leaves the calls, adds one that has not begun, or ends
one. -/
theorem calls_step_of_ne (t : Tracker) {a : Action} (ha : ∀ i, a ≠ .call i) :
    (t.step a).calls = t.calls ∨
      (∃ c, firstCall? a = some c ∧ (t.step a).calls = t.calls ++ [c]) ∨
      ∃ i, (t.step a).calls = t.calls.set i .returned := by
  generalize ht : t.step a = t'
  have hm : Tracker.Move t a t' := ht ▸ t.move_step a
  cases hm with
  | called h => exact Or.inr (Or.inl ⟨_, h, rfl⟩)
  | launched => exact Or.inr (Or.inr ⟨_, rfl⟩)
  | cancelling | cancelled | stopIdle | stopBegun | stopping | stopped | startIdle | startBegun
  | replacing | replaced | numbered | marked => exact absurd rfl (ha _)
  | _ => exact Or.inl rfl

/-- **A change on its way was begun when a scan was found at work.** -/
theorem cancelling_step (h : (t.step a).Cancelling j g d) :
    t.FoundAtWork g d ∨ ∃ d', t.Cancelling j g d' ∧ d'.next = d.next := by
  obtain ⟨c', hc', hd⟩ := h
  have hsame : (t.step a).calls = t.calls →
      t.FoundAtWork g d ∨ ∃ d', t.Cancelling j g d' ∧ d'.next = d.next := by
    intro hcalls
    exact Or.inr ⟨d, ⟨c', hcalls ▸ hc', hd⟩, rfl⟩
  by_cases ha : ∀ i, a ≠ .call i
  · rcases t.calls_step_of_ne ha with hcalls | ⟨c, hfirst, hcalls⟩ | ⟨i, hcalls⟩
    · exact hsame hcalls
    · rw [hcalls] at hc'
      rcases Nat.lt_or_ge j t.calls.length with hlt | hge
      · rw [List.getElem?_append_left hlt] at hc'
        exact Or.inr ⟨d, ⟨c', hc', hd⟩, rfl⟩
      · rw [List.getElem?_append_right hge] at hc'
        obtain rfl : c' = c := by simpa using List.mem_of_getElem? hc'
        cases a <;> cases hfirst <;> cases hd
    · rw [hcalls] at hc'
      by_cases hij : i = j
      · rw [hij, List.getElem?_set_self'] at hc'
        obtain ⟨_, -, rfl⟩ := Option.map_eq_some_iff.1 hc'
        cases hd
      · rw [List.getElem?_set_ne hij] at hc'
        exact Or.inr ⟨d, ⟨c', hc', hd⟩, rfl⟩
  · obtain ⟨i, rfl⟩ : ∃ i, a = .call i := by simpa using ha
    rw [step] at hc' hsame
    cases hc : t.calls[i]? with
    | none =>
      rw [hc] at hsame
      exact hsame rfl
    | some c =>
      rw [hc] at hc' hsame
      rcases t.calls_stepCall i c with hcalls | ⟨c₁, hcalls, hgoes⟩
      · exact hsame hcalls
      · dsimp only at hc'
        rw [hcalls] at hc'
        by_cases hij : i = j
        · subst hij
          have hlt := (List.getElem?_eq_some_iff.1 hc).1
          obtain rfl : c₁ = c' := by simpa [hlt] using hc'
          rcases hgoes g d hd with hfound | ⟨d', hd', hnext⟩
          · exact Or.inl hfound
          · exact Or.inr ⟨d', ⟨c, hc, hd'⟩, hnext⟩
        · rw [List.getElem?_set_ne hij] at hc'
          exact Or.inr ⟨d, ⟨c', hc', hd⟩, rfl⟩

/-! ### What can change a state -/

/-- What one step makes of a scan, as far as its state is concerned: it is a step of its thread, or
one of a request to stop it that found it at work. -/
inductive StateStep (t : Tracker) (g : Nat) (s : Scan) : Action → Scan → Prop
  | same {a : Action} {s' : Scan} (hstate : s'.progress.state = s.progress.state)
      (hstage : s'.stage = s.stage) (hfinished : s'.finished = s.finished) : StateStep t g s a s'
  | thread {s' : Scan} (hm : s.ThreadMove t s') : StateStep t g s (.thread g) s'
  | stopped {i : Nat} {d : Advance} (hc : t.Cancelling i g d) :
      StateStep t g s (.call i) { s with progress := (d.step s.progress).1 }

theorem stateStep_call {c : Call} (hs : t.scans[g]? = some s) (hc : t.calls[i]? = some c) :
    ∃ s', (t.stepCall i c).scans[g]? = some s' ∧ StateStep t g s (.call i) s' := by
  cases hrequest : c.cancels? with
  | none =>
    obtain ⟨more, hmore⟩ := (t.stepCall_of_none i hrequest).1
    have hlt := (List.getElem?_eq_some_iff.1 hs).1
    exact ⟨s, by rw [← hmore, List.getElem?_append_left hlt, hs], .same rfl rfl rfl⟩
  | some request =>
    obtain ⟨j, k⟩ := request
    rw [(t.stepCall_of_cancels i hrequest).1]
    obtain ⟨s', hs', hsame | ⟨d, rfl, rfl, rfl⟩⟩ := scans_stepCancel hs j k
    · refine ⟨s', hs', ?_⟩
      rw [hsame]
      exact .same rfl rfl rfl
    · exact ⟨_, hs', .stopped ⟨c, hc, hrequest⟩⟩

/-- **What can change a scan's state.** -/
theorem stateStep (hs : t.scans[g]? = some s) (a : Action) :
    ∃ s', (t.step a).scans[g]? = some s' ∧ StateStep t g s a s' := by
  have hstay : t.scans[g]? = some s → ∃ s', t.scans[g]? = some s' ∧ StateStep t g s a s' :=
    fun h => ⟨s, h, .same rfl rfl rfl⟩
  have hset : ∀ {j : Nat} {x x' : Scan}, t.scans[j]? = some x → (j = g → StateStep t j x a x') →
      ∃ s', (t.scans.set j x')[g]? = some s' ∧ StateStep t g s a s' := by
    intro j x x' hx hstep
    by_cases hj : j = g
    · subst hj
      obtain rfl := Option.some.inj (hs.symm.trans hx)
      have hlt := (List.getElem?_eq_some_iff.1 hs).1
      exact ⟨x', by simp [hlt], hstep rfl⟩
    · exact ⟨s, (List.getElem?_set_ne hj).trans hs, .same rfl rfl rfl⟩
  by_cases ha : ∀ i, a ≠ .call i
  · generalize ht : t.step a = t'
    have hm : Tracker.Move t a t' := ht ▸ t.move_step a
    cases hm with
    | thread hx hm => exact hset hx fun _ => .thread hm
    | @file _ _ _ _ task task' _ _ hx =>
      exact hset hx fun _ => .same (by cases task <;> rfl) rfl rfl
    | @entry _ _ _ _ _ task task' _ _ hx =>
      exact hset hx fun _ => .same (by cases task <;> rfl) rfl rfl
    | published hx | refused hx | taken hx => exact hset hx fun _ => .same rfl rfl rfl
    | launched =>
      have hlt := (List.getElem?_eq_some_iff.1 hs).1
      exact ⟨s, (List.getElem?_append_left hlt).trans hs, .same rfl rfl rfl⟩
    | idle | called | files => exact hstay hs
    | _ => exact absurd rfl (ha _)
  · obtain ⟨i, rfl⟩ : ∃ i, a = .call i := by simpa using ha
    rw [step]
    cases hc : t.calls[i]? with
    | none => exact hstay hs
    | some c => exact stateStep_call hs hc

/-- A scan that was not there before a step is a new one after it. -/
theorem isNew_of_step (hs : t.scans[g]? = none) {s' : Scan}
    (h : (t.step a).scans[g]? = some s') : ∃ r n, s'.IsNew t.settings r n := by
  have hge := List.getElem?_eq_none_iff.1 hs
  have hlen : (t.step a).scans.length ≤ t.scans.length → ∃ r n, s'.IsNew t.settings r n := by
    intro hle
    have hlt := (List.getElem?_eq_some_iff.1 h).1
    omega
  generalize ht : t.step a = t' at h hlen
  have hm : Tracker.Move t a t' := ht ▸ t.move_step a
  cases hm with
  | launched _ _ hnew =>
    rw [List.getElem?_append_right hge] at h
    obtain rfl := List.mem_singleton.1 (List.mem_of_getElem? h)
    exact ⟨_, _, hnew⟩
  | cancelling _ hm | cancelled _ hm | stopping _ hm | stopped _ hm | replacing _ hm
  | replaced _ hm => cases hm <;> exact hlen (by simp)
  | thread | file | entry | published | refused | taken => exact hlen (by simp)
  | _ => exact hlen (Nat.le_refl _)

end Tracker

/-! ### The states at a stage -/

/-- What the state of a scan can be while its thread is at a stage, if `late` steps have made it
cancelled when it was idle. -/
def Stage.Admits (late : Nat) (st : ScanState) : Stage → Prop
  | .queued => late = 0 ∧ (st = .indexing ∨ st = .cancelled)
  | .indexing => late = 0 ∧ (st = .indexing ∨ st = .cancelled)
  | .indexed _ => late = 0 ∧ (st = .indexing ∨ st = .cancelled)
  | .starting a =>
    late = 0 ∧ (st = .indexing ∨ st = .cancelled) ∧ a.next = .matching ∧
      (a.seen = some .cancelled → st = .cancelled)
  | .matching => late = 0 ∧ (st = .matching ∨ st = .cancelled)
  | .matched _ => late = 0 ∧ (st = .matching ∨ st = .cancelled)
  | .completing a => late = 0 ∧ (st = .matching ∨ st = .cancelled) ∧ a.next = .idle
  | .yielding a =>
    late = 0 ∧ st ≠ .idle ∧ a.next = .cancelled ∧ (a.seen = some .cancelled → st = .cancelled)
  | .leaving a => late = 0 ∧ st = .cancelled ∧ a.next = .idle
  | .finishing _ => st = .idle ∧ late = 0 ∨ st = .cancelled ∧ late = 1
  | .reporting _ => st = .idle ∧ late = 0 ∨ st = .cancelled ∧ late = 1
  | .ended => st = .idle ∧ late = 0 ∨ st = .cancelled ∧ late = 1

/-- A stage at which the scan is not idle admits that it is cancelled. -/
theorem Stage.Admits.cancelled {late : Nat} {st : ScanState} {stage : Stage}
    (h : stage.Admits late st) (hst : st ≠ .idle) : stage.Admits late .cancelled := by
  cases stage with
  | starting a => exact ⟨h.1, Or.inr rfl, h.2.2.1, fun _ => rfl⟩
  | yielding a => exact ⟨h.1, nofun, h.2.2.1, fun _ => rfl⟩
  | completing a => exact ⟨h.1, Or.inr rfl, h.2.2⟩
  | leaving a => exact ⟨h.1, rfl, h.2.2⟩
  | finishing o | reporting o | ended =>
    rcases h with ⟨hidle, -⟩ | ⟨-, hlate⟩
    · exact absurd hidle hst
    · exact Or.inr ⟨rfl, hlate⟩
  | _ => exact ⟨h.1, Or.inr rfl⟩

/-- Whether the thread of a scan has made it idle. -/
def Stage.isPast : Stage → Bool
  | .finishing _ => true
  | .reporting _ => true
  | .ended => true
  | _ => false

/-- A scan is idle only when its thread has made it so. -/
theorem Stage.Admits.isPast {late : Nat} {stage : Stage} (h : stage.Admits late .idle) :
    stage.isPast = true := by
  cases stage with
  | finishing o | reporting o | ended => rfl
  | yielding a => exact absurd rfl h.2.1
  | leaving a => cases h.2.1
  | starting a | completing a => rcases h.2.1 with hc | hc <;> cases hc
  | _ => rcases h.2 with hc | hc <;> cases hc

/-- Then it can be made cancelled, late. -/
theorem Stage.Admits.late {late : Nat} {stage : Stage} (h : stage.Admits late .idle) :
    stage.Admits (late + 1) .cancelled := by
  have hpast := h.isPast
  cases stage with
  | finishing o | reporting o | ended =>
    rcases h with ⟨-, rfl⟩ | ⟨hc, -⟩
    · exact Or.inr ⟨rfl, rfl⟩
    · cases hc
  | _ => cases hpast

/-- Its thread leaves the state alone from then on. -/
theorem Scan.ThreadMove.progress_of_isPast {t : Tracker} {s s' : Scan} (hm : s.ThreadMove t s')
    (h : s.stage.isPast = true) : s'.progress = s.progress := by
  cases hm with
  | finished | reported => rfl
  | _ hst =>
    have hno := hst ▸ h
    cases hno

/-- Whether the thread of a scan has said that it has finished. -/
def Stage.saysFinished : Stage → Bool
  | .reporting _ => true
  | .ended => true
  | _ => false

/-- The invariant of the state of a scan. -/
structure StateInv (late : Nat) (s : Scan) : Prop where
  admits : s.stage.Admits late s.progress.state
  finished : s.finished = true → s.stage.saysFinished = true

namespace StateInv

variable {late : Nat} {s s' : Scan} {d : Advance}

theorem of_isNew {settings : ScanSettings} {r : ScanRequest} {n : Nat} (h : s.IsNew settings r n) :
    StateInv 0 s := by
  cases h with
  | queued => exact ⟨⟨rfl, Or.inl rfl⟩, nofun⟩
  | unstarted => exact ⟨Or.inl ⟨rfl, rfl⟩, fun _ => rfl⟩

/-- A scan that says that it has finished is idle, or has been made cancelled since. -/
theorem state_of_finished (h : StateInv late s) (hf : s.finished = true) :
    s.progress.state = .idle ∧ late = 0 ∨ s.progress.state = .cancelled ∧ late = 1 := by
  have hover := h.finished hf
  have hadmits := h.admits
  cases hstage : s.stage <;> rw [hstage] at hover hadmits <;> first | exact hadmits | cases hover

/-- A scan whose thread goes on to a stage, before it says that it has finished. -/
theorem move (h : StateInv late s) (hno : s.stage.saysFinished = false)
    (hf : s'.finished = s.finished) (ha : s'.stage.Admits late s'.progress.state) :
    StateInv late s' := by
  refine ⟨ha, fun hfinished => ?_⟩
  rw [hf] at hfinished
  cases hno.symm.trans (h.finished hfinished)

/-- **What the thread makes of the state** is foreseen. -/
theorem thread {t : Tracker} (h : StateInv late s) (hm : s.ThreadMove t s') :
    StateInv late s' ∧
      (s'.progress.state = s.progress.state ∨ s.progress.state.Leads s'.progress.state) := by
  have ha := h.admits
  cases hm with
  | started hst | filesDone hst | filesUnflagged hst | entriesDone hst | entriesUnflagged hst =>
    rw [hst] at ha
    exact ⟨h.move (by rw [hst]; rfl) rfl ha, Or.inl rfl⟩
  | filesStopped hst | entriesStopped hst =>
    rw [hst] at ha
    refine ⟨h.move (by rw [hst]; rfl) rfl ⟨ha.1, fun hidle => ?_, rfl, nofun⟩, Or.inl rfl⟩
    rcases ha.2 with hs | hs <;> cases hidle.symm.trans hs
  | filesCleared hst =>
    rw [hst] at ha
    exact ⟨h.move (by rw [hst]; rfl) rfl ⟨ha.1, ha.2, rfl, nofun⟩, Or.inl rfl⟩
  | entriesCleared hst =>
    rw [hst] at ha
    exact ⟨h.move (by rw [hst]; rfl) rfl ⟨ha.1, ha.2, rfl⟩, Or.inl rfl⟩
  | starting hst hb =>
    rw [hst] at ha
    obtain ⟨hp, rfl⟩ := Advance.step_of_some hb
    refine ⟨h.move (by rw [hst]; rfl) rfl ?_, Or.inl (by rw [hp])⟩
    rw [hp]
    exact ⟨ha.1, ha.2.1, ha.2.2.1, fun hseen => Option.some.inj hseen⟩
  | yielding hst hb =>
    rw [hst] at ha
    obtain ⟨hp, rfl⟩ := Advance.step_of_some hb
    refine ⟨h.move (by rw [hst]; rfl) rfl ?_, Or.inl (by rw [hp])⟩
    rw [hp]
    exact ⟨ha.1, ha.2.1, ha.2.2.1, fun hseen => Option.some.inj hseen⟩
  | completing hst hb | leaving hst hb =>
    rw [hst] at ha
    obtain ⟨hp, rfl⟩ := Advance.step_of_some hb
    refine ⟨h.move (by rw [hst]; rfl) rfl ?_, Or.inl (by rw [hp])⟩
    rw [hp]
    exact ha
  | matchingBegun hst hnone =>
    rw [hst] at ha
    obtain ⟨hlate, hstate, hnext, hseen⟩ := ha
    rcases Advance.step_of_none hnone with ⟨-, hmay, hmade⟩ | ⟨hcancelled, -, hp⟩
    · rw [hnext] at hmay hmade
      refine ⟨h.move (by rw [hst]; rfl) rfl ⟨hlate, Or.inl hmade⟩, Or.inr ?_⟩
      rcases hstate with hs | hs
      · rw [hmade, hs]
        exact .indexed
      · cases hmay hs
    · have hs := hseen hcancelled
      exact ⟨h.move (by rw [hst]; rfl) rfl ⟨hlate, Or.inr (by rw [hp, hs])⟩,
        Or.inl (by rw [hp])⟩
  | completed hst hnone =>
    rw [hst] at ha
    obtain ⟨hlate, hstate, hnext⟩ := ha
    rcases Advance.step_of_none hnone with ⟨-, -, hmade⟩ | ⟨-, hne, -⟩
    · rw [hnext] at hmade
      refine ⟨h.move (by rw [hst]; rfl) rfl (Or.inl ⟨hmade, hlate⟩), Or.inr ?_⟩
      rw [hmade]
      rcases hstate with hs | hs <;> rw [hs]
      · exact .matched
      · exact .stopped
    · exact absurd hnext hne
  | yielded hst hnone =>
    rw [hst] at ha
    obtain ⟨hlate, hstate, hnext, hseen⟩ := ha
    rcases Advance.step_of_none hnone with ⟨-, hmay, hmade⟩ | ⟨hcancelled, -, hp⟩
    · rw [hnext] at hmay hmade
      refine ⟨h.move (by rw [hst]; rfl) rfl ⟨hlate, hmade, rfl⟩, Or.inr ?_⟩
      rw [hmade]
      exact .to_cancelled hstate fun hc => by cases hmay hc
    · have hs := hseen hcancelled
      exact ⟨h.move (by rw [hst]; rfl) rfl ⟨hlate, by rw [hp, hs], rfl⟩, Or.inl (by rw [hp])⟩
  | departed hst hnone =>
    rw [hst] at ha
    obtain ⟨hlate, hstate, hnext⟩ := ha
    rcases Advance.step_of_none hnone with ⟨-, -, hmade⟩ | ⟨-, hne, -⟩
    · rw [hnext] at hmade
      refine ⟨h.move (by rw [hst]; rfl) rfl (Or.inl ⟨hmade, hlate⟩), Or.inr ?_⟩
      rw [hmade, hstate]
      exact .stopped
    · exact absurd hnext hne
  | finished hst | reported hst =>
    rw [hst] at ha
    exact ⟨⟨ha, fun _ => rfl⟩, Or.inl rfl⟩

/-- **What a request to stop makes of the state** is foreseen as well, unless the scan has gone idle
meanwhile. -/
theorem stopped (h : StateInv late s) (hd : d.next = .cancelled) :
    (StateInv late { s with progress := (d.step s.progress).1 } ∧
      ((d.step s.progress).1.state = s.progress.state ∨
        s.progress.state.Leads (d.step s.progress).1.state)) ∨
    (StateInv (late + 1) { s with progress := (d.step s.progress).1 } ∧
      s.progress.state = .idle ∧ d.seen = some .idle ∧
        (d.step s.progress).1.state = .cancelled) := by
  rcases Advance.step_cancelled (p := s.progress) hd with hsame | ⟨hmade, hne, hseen⟩
  · refine Or.inl ⟨⟨?_, h.finished⟩, Or.inl hsame⟩
    show s.stage.Admits late _
    rw [hsame]
    exact h.admits
  · have ha := h.admits
    by_cases hidle : s.progress.state = .idle
    · rw [hidle] at ha hseen
      refine Or.inr ⟨⟨?_, h.finished⟩, hidle, hseen, hmade⟩
      show s.stage.Admits (late + 1) _
      rw [hmade]
      exact ha.late
    · refine Or.inl ⟨⟨?_, h.finished⟩, Or.inr ?_⟩
      · show s.stage.Admits late _
        rw [hmade]
        exact ha.cancelled hidle
      · rw [hmade]
        exact .to_cancelled hidle hne

end StateInv

/-! ### Runs -/

/-- What a step makes of the state of the scan at a position, `none` while there is no scan. -/
inductive StateMove (t : Tracker) (g : Nat) : Action → Option ScanState → Option ScanState → Prop
  | absent {a : Action} : StateMove t g a none none
  /-- A scan that has just been made is no longer idle when it can be seen. -/
  | begun {a : Action} {n : Nat} :
      StateMove t g a none (some ((Progress.start n).advance .indexing).state)
  /-- A scan whose thread cannot be started has been cancelled and is idle again. -/
  | denied {a : Action} {n : Nat} :
      StateMove t g a none
        (some ((((Progress.start n).advance .indexing).advance .cancelled).advance .idle).state)
  | same {a : Action} {st : ScanState} : StateMove t g a (some st) (some st)
  | foreseen {a : Action} {st st' : ScanState} (h : st.Leads st') :
      StateMove t g a (some st) (some st')
  /-- A request to stop that found the scan at work makes it cancelled when it is idle. -/
  | late {i : Nat} {d : Advance} (hc : t.Cancelling i g d) (hseen : d.seen = some .idle) :
      StateMove t g (.call i) (some .idle) (some .cancelled)

namespace Tracker

variable {t : Tracker} {a : Action} {g : Nat} {s : Scan} {late : Nat}

/-- One if a step makes a scan that is idle cancelled. -/
def lateStep (t : Tracker) (g : Nat) (a : Action) : Nat :=
  if t.state? g = some .idle ∧ (t.step a).state? g = some .cancelled then 1 else 0

/-- How many steps of a run make a scan that is idle cancelled. -/
def lateSteps (t : Tracker) (g : Nat) : List Action → Nat
  | [] => 0
  | a :: rest => t.lateStep g a + (t.step a).lateSteps g rest

theorem state?_eq (hs : t.scans[g]? = some s) : t.state? g = some s.progress.state := by
  rw [state?, hs]
  rfl

theorem state?_eq_none (hs : t.scans[g]? = none) : t.state? g = none := by
  rw [state?, hs]
  rfl

/-- A step that leaves the state or makes a foreseen move is not late. -/
theorem lateStep_eq_zero {s' : Scan} (hs : t.scans[g]? = some s)
    (hs' : (t.step a).scans[g]? = some s')
    (h : s'.progress.state = s.progress.state ∨ s.progress.state.Leads s'.progress.state) :
    t.lateStep g a = 0 := by
  rw [lateStep, state?_eq hs, state?_eq hs']
  refine if_neg ?_
  rintro ⟨hidle, hcancelled⟩
  rw [Option.some.inj hidle, Option.some.inj hcancelled] at h
  rcases h with h | h <;> cases h

/-- The invariant of the state of the scan at a position. -/
structure StatesInv (g late : Nat) (t : Tracker) : Prop where
  absent : t.scans[g]? = none → late = 0
  scan : ∀ {s : Scan}, t.scans[g]? = some s → StateInv late s
  cancelling : ∀ {i : Nat} {d : Advance}, t.Cancelling i g d → d.next = .cancelled

theorem StatesInv.initial (settings : ScanSettings) (entries : List Entry) (files : FileTree)
    (g : Nat) : StatesInv g 0 (initial settings entries files) where
  absent _ := rfl
  scan h := by cases h
  cancelling := by
    rintro i d ⟨c, hc, -⟩
    cases hc

theorem StatesInv.of_some (hs : t.scans[g]? = some s) (h : StateInv late s)
    (hnext : ∀ {i : Nat} {d : Advance}, t.Cancelling i g d → d.next = .cancelled) :
    StatesInv g late t where
  absent hnone := nomatch hs.symm.trans hnone
  scan hs' := Option.some.inj (hs.symm.trans hs') ▸ h
  cancelling := hnext

/-- A request to stop that found a scan at work goes on to make it cancelled. -/
theorem StatesInv.next_of_cancelling (h : StatesInv g late t) {i : Nat} {d : Advance}
    (hc : (t.step a).Cancelling i g d) : d.next = .cancelled := by
  rcases cancelling_step hc with ⟨rfl, -⟩ | ⟨d', hd', hnext⟩
  · rfl
  · exact hnext ▸ h.cancelling hd'

/-- A step before the scan is there may make it. -/
theorem StatesInv.step_absent (h : StatesInv g late t) (hs : t.scans[g]? = none) (a : Action) :
    StatesInv g (late + t.lateStep g a) (t.step a) ∧
      StateMove t g a none ((t.step a).state? g) := by
  have hzero : late + t.lateStep g a = 0 := by
    rw [h.absent hs, lateStep, state?_eq_none hs]
    rfl
  rw [hzero]
  cases hs' : (t.step a).scans[g]? with
  | none =>
    rw [state?_eq_none hs']
    exact ⟨⟨fun _ => rfl, fun hs => (nomatch hs'.symm.trans hs), h.next_of_cancelling⟩, .absent⟩
  | some s' =>
    obtain ⟨r, n, hnew⟩ := isNew_of_step hs hs'
    refine ⟨.of_some hs' (.of_isNew hnew) h.next_of_cancelling, ?_⟩
    rw [state?_eq hs']
    cases hnew with
    | queued => exact .begun (n := 0)
    | unstarted => exact .denied (n := 0)

/-- A step that leaves the state or makes a foreseen move. -/
theorem StatesInv.step_foreseen {s' : Scan} (h : StatesInv g late t) (hs : t.scans[g]? = some s)
    (hs' : (t.step a).scans[g]? = some s') (hinv : StateInv late s')
    (hstate : s'.progress.state = s.progress.state ∨
      s.progress.state.Leads s'.progress.state) :
    StatesInv g (late + t.lateStep g a) (t.step a) ∧
      StateMove t g a (some s.progress.state) (some s'.progress.state) := by
  rw [lateStep_eq_zero hs hs' hstate]
  refine ⟨.of_some hs' hinv h.next_of_cancelling, ?_⟩
  rcases hstate with hsame | hleads
  · rw [hsame]
    exact .same
  · exact .foreseen hleads

/-- **Each step keeps the invariant**, and moves the state as it is said. -/
theorem StatesInv.step (h : StatesInv g late t) (a : Action) :
    StatesInv g (late + t.lateStep g a) (t.step a) ∧
      StateMove t g a (t.state? g) ((t.step a).state? g) := by
  cases hs : t.scans[g]? with
  | none =>
    rw [state?_eq_none hs]
    exact h.step_absent hs a
  | some s =>
    have hscan := h.scan hs
    obtain ⟨s', hs', hstep⟩ := stateStep hs a
    rw [state?_eq hs, state?_eq hs']
    cases hstep with
    | same hstate hstage hfinished =>
      refine h.step_foreseen hs hs' ⟨?_, ?_⟩ (Or.inl hstate)
      · rw [hstage, hstate]
        exact hscan.admits
      · rw [hstage, hfinished]
        exact hscan.finished
    | thread hm =>
      obtain ⟨hinv, hstate⟩ := hscan.thread hm
      exact h.step_foreseen hs hs' hinv hstate
    | @stopped i d hc =>
      rcases hscan.stopped (h.cancelling hc) with ⟨hinv, hstate⟩ | ⟨hinv, hidle, hseen, hmade⟩
      · exact h.step_foreseen hs hs' hinv hstate
      · have hlate : t.lateStep g (.call i) = 1 := by
          rw [lateStep, state?_eq hs, state?_eq hs', hidle]
          exact if_pos ⟨rfl, congrArg some hmade⟩
        rw [hlate, hidle]
        refine ⟨.of_some hs' hinv h.next_of_cancelling, ?_⟩
        show StateMove t g (.call i) (some .idle) (some (d.step s.progress).1.state)
        rw [hmade]
        exact .late hc hseen

theorem StatesInv.run (h : StatesInv g late t) (actions : List Action) :
    StatesInv g (late + t.lateSteps g actions) (t.run actions) := by
  induction actions generalizing t late with
  | nil => exact h
  | cons a rest ih =>
    rw [lateSteps, ← Nat.add_assoc, run_cons]
    exact ih (h.step a).1

/-- A scan that is idle stays so, if no request that found it at work is on its way. -/
theorem StatesInv.idle_run (h : StatesInv g late t) (hs : t.scans[g]? = some s)
    (hidle : s.progress.state = .idle) (hquiet : ∀ i d, ¬t.Cancelling i g d)
    (actions : List Action) :
    ∃ s', (t.run actions).scans[g]? = some s' ∧ s'.progress.state = .idle := by
  induction actions generalizing t s late with
  | nil => exact ⟨s, hs, hidle⟩
  | cons a rest ih =>
    obtain ⟨s', hs', hstep⟩ := stateStep hs a
    refine ih (h.step a).1 hs' ?_ ?_
    · cases hstep with
      | same hstate => exact hstate.trans hidle
      | thread hm =>
        have hadmits := (h.scan hs).admits
        rw [hidle] at hadmits
        rw [hm.progress_of_isPast hadmits.isPast, hidle]
      | stopped hc => exact absurd hc (hquiet _ _)
    · intro i d hc
      rcases cancelling_step hc with ⟨-, s₀, hs₀, hactive⟩ | ⟨d', hd', -⟩
      · obtain rfl := Option.some.inj (hs.symm.trans hs₀)
        rw [hidle] at hactive
        cases hactive
      · exact hquiet i d' hd'

/-- **The states of a scan.** Each step of a run leaves the state of a scan, makes a foreseen move,
or is one of a request to stop that found the scan at work and makes it cancelled when it is idle.
Once the scan says that it has finished it is idle, unless there has been such a late step, and then
it is cancelled. An idle scan stays idle if no request is on its way that found it at work. -/
theorem state_run (settings : ScanSettings) (entries : List Entry) (files : FileTree)
    (actions : List Action) (g : Nat) :
    (∀ a, StateMove ((initial settings entries files).run actions) g a
      (((initial settings entries files).run actions).state? g)
      (((initial settings entries files).run (actions ++ [a])).state? g)) ∧
    (∀ s, ((initial settings entries files).run actions).scans[g]? = some s → s.finished = true →
      s.progress.state = .idle ∧ (initial settings entries files).lateSteps g actions = 0 ∨
      s.progress.state = .cancelled ∧ (initial settings entries files).lateSteps g actions = 1) ∧
    (((initial settings entries files).run actions).state? g = some .idle →
      (∀ i d, ¬((initial settings entries files).run actions).Cancelling i g d) →
      ∀ more, ((initial settings entries files).run (actions ++ more)).state? g = some .idle) := by
  have h := (StatesInv.initial settings entries files g).run actions
  rw [Nat.zero_add] at h
  refine ⟨fun a => ?_, fun s hs hf => (h.scan hs).state_of_finished hf, fun hidle hquiet more => ?_⟩
  · rw [run_append]
    exact (h.step a).2
  · obtain ⟨s, hs, hstate⟩ := Option.map_eq_some_iff.1 hidle
    obtain ⟨s', hs', hstate'⟩ := h.idle_run hs hstate hquiet more
    rw [run_append, state?_eq hs', hstate']

/-- A scan of nothing runs to its end while a request to stop it waits, which found it at work. -/
def lateRun : List Action :=
  [Action.begins ⟨[], [], RuleSet.ofRules []⟩] ++ List.replicate 3 (Action.call 0) ++
    List.replicate 9 (Action.thread 0) ++ [Action.cancels 0] ++ List.replicate 2 (Action.call 1) ++
    List.replicate 4 (Action.thread 0) ++ List.replicate 2 (Action.call 1)

/-- **A scan that is left cancelled.** It is complete and says that it has finished, all calls are
over, and its state is cancelled: the last step made it so from idle, which is not foreseen. -/
theorem state_lateRun :
    ((initial .standard [] ⟨[], []⟩).run lateRun).scans.map
      (fun s => (s.finished, s.outcome, s.progress.state)) =
        [(true, some (.completed ⟨0, 0, 0, 0⟩), .cancelled)] ∧
    ((initial .standard [] ⟨[], []⟩).run lateRun).calls.map Call.isOver = [true, true] ∧
    ((initial .standard [] ⟨[], []⟩).run lateRun.dropLast).state? 0 = some .idle ∧
    ((initial .standard [] ⟨[], []⟩).run lateRun).state? 0 = some .cancelled ∧
    ¬ScanState.Leads .idle .cancelled := by
  refine ⟨?_, ?_, ?_, ?_, nofun⟩
  · decide +kernel
  · decide +kernel
  · decide +kernel
  · decide +kernel

end Tracker

end KeyTrace
