import KeyTrace.Proofs.Scan.Work

/-!
# Calls and the number of the current scan

At most one call at a time begins or stops scans: the one that holds the tracker. Only this call
changes the number of the current scan, and it does so in order: there are as many scans as have
been numbered, except that the one whose entries are just being marked is still missing. So a scan
and its number always find each other.

## Main definitions

* `Ledger.step`: what a step adds to what has happened.
* `Call.Sound`, `CallsInv`: the invariant of calls.

## Main results

* `Tracker.grows_step`, `Ledger.grows_step`: what a step leaves for the scans that do not take it.
* `CallsInv.step`: each step keeps the invariant.
-/

namespace KeyTrace

/-! ### What happens in a step -/

/-- The file tree that an action brings. -/
def Action.tree? : Action → Option FileTree
  | .files tree => some tree
  | _ => none

/-- The request that an action makes. -/
def Action.request? : Action → Option ScanRequest
  | .begins r => some r
  | _ => none

/-- What has happened once a tracker has taken a step. -/
def Ledger.step (l : Ledger) (t : Tracker) (a : Action) : Ledger where
  trees := l.trees ++ a.tree?.toList
  requests := l.requests ++ a.request?.toList
  attempts := l.attempts ++ (t.attempt? a).toList

variable {l l' : Ledger} {t t' : Tracker} {a : Action}

theorem Ledger.requests_subset_step : l.requests ⊆ (l.step t a).requests :=
  List.subset_append_left _ _

theorem Ledger.trees_subset_step : l.trees ⊆ (l.step t a).trees := List.subset_append_left _ _

/-- To a scan that makes no attempt, a step only adds to what has happened. -/
theorem Ledger.grows_step {g : Nat} (h : ∀ p, t.attempt? a = some p → p.scan ≠ g) :
    l.Grows (l.step t a) g :=
  ⟨trees_subset_step, requests_subset_step, _, rfl, fun p hp => h p (by simpa using hp)⟩

theorem Tracker.grows_step (t : Tracker) (a : Action) : t.Grows (t.step a) := by
  generalize ht : t.step a = t'
  have hm : Tracker.Move t a t' := ht ▸ t.move_step a
  cases hm with
  | numbered => exact ⟨rfl, rfl, Nat.le_succ _⟩
  | _ => exact ⟨rfl, rfl, Nat.le_refl _⟩

theorem Tracker.CancelMove.length {scans : List Scan} (h : t.CancelMove scans) :
    scans.length = t.scans.length := by
  cases h <;> simp

/-! ### The invariant of calls -/

/-- What holds of the call at a position. A call that has taken the tracker holds it until it
returns. -/
def Call.Sound (l : Ledger) (t : Tracker) (i : Nat) : Call → Prop
  | .start r => r ∈ l.requests
  | .stopping _ _ => t.holder = some i ∧ t.generation = t.scans.length
  | .replacing r _ _ => t.holder = some i ∧ t.generation = t.scans.length ∧ r ∈ l.requests
  | .numbering r => t.holder = some i ∧ t.generation = t.scans.length ∧ r ∈ l.requests
  | .marking r n left =>
    t.holder = some i ∧ t.generation = t.scans.length + 1 ∧ r ∈ l.requests ∧
      n = t.generation ∧ left ⊆ r.entries
  | _ => True

/-- What holds of all calls. -/
structure CallsInv (l : Ledger) (t : Tracker) : Prop where
  sound : ∀ {i : Nat} {c : Call}, t.calls[i]? = some c → c.Sound l t i
  idle : t.holder = none → t.generation = t.scans.length

/-- What a call relies on stays when another call is the one that holds the tracker. -/
theorem Call.Sound.frame {i : Nat} {c : Call} (h : c.Sound l t i)
    (hl : l.requests ⊆ l'.requests)
    (ht : t.holder ≠ some i ∨ t'.holder = t.holder ∧ t'.generation = t.generation ∧
      t'.scans.length = t.scans.length) : c.Sound l' t' i := by
  rcases ht with hne | ⟨hh, hg, hs⟩
  · cases c with
    | start r => exact hl h
    | stopping => exact absurd h.1 hne
    | replacing => exact absurd h.1 hne
    | numbering => exact absurd h.1 hne
    | marking => exact absurd h.1 hne
    | _ => trivial
  · cases c with
    | start r => exact hl h
    | stopping => exact ⟨hh.trans h.1, by rw [hg, hs, h.2]⟩
    | replacing => exact ⟨hh.trans h.1, by rw [hg, hs, h.2.1], hl h.2.2⟩
    | numbering => exact ⟨hh.trans h.1, by rw [hg, hs, h.2.1], hl h.2.2⟩
    | marking => exact ⟨hh.trans h.1, by rw [hg, hs, h.2.1], hl h.2.2.1, hg ▸ h.2.2.2⟩
    | _ => trivial

namespace CallsInv

/-- A step that leaves the calls alone. -/
theorem frame (h : CallsInv l t) (hl : l.requests ⊆ l'.requests) (hc : t'.calls = t.calls)
    (hh : t'.holder = t.holder) (hg : t'.generation = t.generation)
    (hs : t'.scans.length = t.scans.length) : CallsInv l' t' where
  sound hi := (h.sound (hc ▸ hi)).frame hl (Or.inr ⟨hh, hg, hs⟩)
  idle hn := by rw [hg, hs, h.idle (hh ▸ hn)]

/-- A step of a call that keeps what the other calls rely on, or that holds the tracker. -/
theorem set {i : Nat} {c : Call} (h : CallsInv l t) (hl : l.requests ⊆ l'.requests)
    (hc : t'.calls = t.calls.set i c) (hi : c.Sound l' t' i)
    (ht : (t.holder = none ∨ t.holder = some i) ∨ t'.holder = t.holder ∧
      t'.generation = t.generation ∧ t'.scans.length = t.scans.length)
    (hidle : t'.holder = none → t'.generation = t'.scans.length) : CallsInv l' t' := by
  refine ⟨fun {j c'} hj => ?_, hidle⟩
  rw [hc] at hj
  by_cases hij : i = j
  · subst hij
    obtain ⟨hlt, rfl⟩ := List.getElem?_eq_some_iff.1 hj
    rwa [List.getElem_set_self]
  · refine (h.sound (by rwa [List.getElem?_set_ne hij] at hj)).frame hl (ht.imp_left fun hh => ?_)
    rcases hh with hh | hh
    · simp [hh]
    · simp [hh, hij]

/-- Each step keeps the invariant of calls. -/
theorem step (h : CallsInv l t) (a : Action) : CallsInv (l.step t a) (t.step a) := by
  have hl : l.requests ⊆ (l.step t a).requests := Ledger.requests_subset_step
  generalize ht : t.step a = t'
  generalize hl' : l.step t a = l' at hl
  have hm : Tracker.Move t a t' := ht ▸ t.move_step a
  have hframe : ∀ {scans : List Scan}, t.CancelMove scans →
      t.holder = t.holder ∧ t.generation = t.generation ∧ scans.length = t.scans.length :=
    fun hm => ⟨rfl, rfl, hm.length⟩
  cases hm with
  | idle => exact h.frame hl rfl rfl rfl rfl
  | @called _ c hfirst =>
    refine ⟨fun {i c'} hi => ?_, h.idle⟩
    rcases Nat.lt_or_ge i t.calls.length with hlt | hge
    · rw [List.getElem?_append_left hlt] at hi
      exact (h.sound hi).frame hl (Or.inr ⟨rfl, rfl, rfl⟩)
    · rw [List.getElem?_append_right hge, List.getElem?_singleton] at hi
      split at hi
      · obtain rfl := Option.some.inj hi
        cases a with
        | begins r =>
          obtain rfl := Option.some.inj hfirst
          rw [← hl']
          exact List.mem_append_right _ (List.mem_singleton_self r)
        | stops => obtain rfl := Option.some.inj hfirst; trivial
        | cancels g => obtain rfl := Option.some.inj hfirst; trivial
        | _ => cases hfirst
      · cases hi
  | cancelling _ hm =>
    exact h.set hl rfl trivial (Or.inr (hframe hm)) fun hn => hm.length ▸ h.idle hn
  | cancelled _ hm =>
    exact h.set hl rfl trivial (Or.inr (hframe hm)) fun hn => hm.length ▸ h.idle hn
  | stopIdle => exact h.set hl rfl trivial (Or.inr ⟨rfl, rfl, rfl⟩) h.idle
  | stopBegun _ hh => exact h.set hl rfl ⟨rfl, h.idle hh⟩ (Or.inl (Or.inl hh)) nofun
  | stopping hc hm =>
    obtain ⟨hi, hg⟩ := h.sound hc
    exact h.set hl rfl ⟨hi, hg.trans hm.length.symm⟩ (Or.inr (hframe hm))
      fun hn => hm.length ▸ h.idle hn
  | stopped hc hm =>
    obtain ⟨hi, hg⟩ := h.sound hc
    exact h.set hl rfl trivial (Or.inl (Or.inr hi)) fun _ => hg.trans hm.length.symm
  | startIdle hc hh =>
    exact h.set hl rfl ⟨rfl, h.idle hh, hl (h.sound hc)⟩ (Or.inl (Or.inl hh)) nofun
  | startBegun hc hh =>
    exact h.set hl rfl ⟨rfl, h.idle hh, hl (h.sound hc)⟩ (Or.inl (Or.inl hh)) nofun
  | replacing hc hm =>
    obtain ⟨hi, hg, hr⟩ := h.sound hc
    exact h.set hl rfl ⟨hi, hg.trans hm.length.symm, hl hr⟩ (Or.inr (hframe hm))
      fun hn => hm.length ▸ h.idle hn
  | replaced hc hm =>
    obtain ⟨hi, hg, hr⟩ := h.sound hc
    exact h.set hl rfl ⟨hi, hg.trans hm.length.symm, hl hr⟩ (Or.inr (hframe hm))
      fun hn => hm.length ▸ h.idle hn
  | numbered hc =>
    obtain ⟨hi, hg, hr⟩ := h.sound hc
    exact h.set hl rfl ⟨hi, by rw [hg], hl hr, rfl, fun _ h => h⟩ (Or.inl (Or.inr hi))
      fun hn => by simp [hi] at hn
  | marked hc =>
    obtain ⟨hi, hg, hr, hn, hsub⟩ := h.sound hc
    exact h.set hl rfl ⟨hi, hg, hl hr, hn, fun _ hx => hsub (List.mem_cons_of_mem _ hx)⟩
      (Or.inl (Or.inr hi)) h.idle
  | launched _ hc =>
    obtain ⟨hi, hg, -⟩ := h.sound hc
    exact h.set hl rfl trivial (Or.inl (Or.inr hi)) fun _ => by simpa using hg
  | thread | file | entry | published | refused | taken =>
    exact h.frame hl rfl rfl rfl (List.length_set ..)
  | files => exact h.frame hl rfl rfl rfl rfl

end CallsInv

end KeyTrace
