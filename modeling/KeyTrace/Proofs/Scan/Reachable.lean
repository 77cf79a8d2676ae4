import KeyTrace.Proofs.Scan.Calls

/-!
# The invariant of a tracker

What holds at every moment of a run: the invariants of the calls and of each scan, and what the
slots and the attempts made so far have to do with the scans. A slot belongs to the scan that has
its generation for a number, or to the call that is about to begin this scan; and a scan that has
published into a slot has left nothing pending there.

## Main definitions

* `Scan.Follows`: what stays of a scan.
* `Attempt.Sound`: what an attempt tells about its scan.
* `SlotsInv`, `TrackerInv`: the invariant.
* `Ledger.run`: what has happened in a run.

## Main results

* `TrackerInv.step`, `TrackerInv.run`: the invariant is kept.
* `TrackerInv.initial`: it holds at the start.
-/

namespace KeyTrace

variable {l l' : Ledger} {t t' : Tracker} {a : Action} {g : Nat} {s s' : Scan}

/-! ### What stays of a scan -/

/-- The same scan at a later moment. Its lookup stays once entries are worked on. -/
structure Scan.Follows (s s' : Scan) : Prop where
  entries : s'.entries = s.entries
  files : s'.files = s.files
  rules : s'.rules = s.rules
  lookup : s.entryTasks ≠ [] →
    s'.entryTasks ≠ [] ∧ s'.candidates = s.candidates ∧ s'.lookup = s.lookup

theorem Scan.Follows.refl (s : Scan) : s.Follows s := ⟨rfl, rfl, rfl, fun h => ⟨h, rfl, rfl⟩⟩

theorem Scan.ThreadMove.follows (hm : s.ThreadMove t s') (h : ScanInv l t g s) : s.Follows s' := by
  have hst := h.stage
  cases hm with
  | started hs =>
    rw [hs] at hst
    exact ⟨rfl, rfl, rfl, fun hne => absurd hst.2 hne⟩
  | filesCleared hs =>
    rw [hs] at hst
    exact ⟨rfl, rfl, rfl, fun hne => absurd hst.2.2.1 hne⟩
  | matchingBegun hs =>
    rw [hs] at hst
    exact ⟨rfl, rfl, rfl, fun hne => absurd hst.2.1 hne⟩
  | _ => exact ⟨rfl, rfl, rfl, fun hne => ⟨hne, rfl, rfl⟩⟩

/-- Each scan of a tracker is there later on. -/
def Tracker.ScansFollow (t t' : Tracker) : Prop :=
  ∀ (g : Nat) s, t.scans[g]? = some s → ∃ s', t'.scans[g]? = some s' ∧ s.Follows s'

theorem Tracker.scansFollow_of_eq (h : t'.scans = t.scans) : t.ScansFollow t' :=
  fun _ s hs => ⟨s, h ▸ hs, .refl s⟩

theorem Tracker.scansFollow_of_set (hs : t.scans[g]? = some s) (h : t'.scans = t.scans.set g s')
    (hf : s.Follows s') : t.ScansFollow t' := by
  intro j x hx
  rw [h]
  by_cases hj : g = j
  · subst hj
    obtain rfl : s = x := Option.some.inj (hs.symm.trans hx)
    have hlt := (List.getElem?_eq_some_iff.1 hs).1
    exact ⟨s', by simp [hlt], hf⟩
  · exact ⟨x, by rwa [List.getElem?_set_ne hj], .refl x⟩

theorem Tracker.CancelMove.follows {scans : List Scan} (hm : t.CancelMove scans)
    (h : t'.scans = scans) : t.ScansFollow t' := by
  cases hm with
  | same => exact Tracker.scansFollow_of_eq h
  | flagged hs => exact Tracker.scansFollow_of_set hs h ⟨rfl, rfl, rfl, fun h => ⟨h, rfl, rfl⟩⟩
  | advanced hs => exact Tracker.scansFollow_of_set hs h ⟨rfl, rfl, rfl, fun h => ⟨h, rfl, rfl⟩⟩

theorem Tracker.scansFollow_step (h : ∀ {g s}, t.scans[g]? = some s → ScanInv l t g s)
    (a : Action) : t.ScansFollow (t.step a) := by
  generalize ht : t.step a = t'
  have hm : Tracker.Move t a t' := ht ▸ t.move_step a
  cases hm with
  | cancelling _ hm | cancelled _ hm | stopping _ hm | stopped _ hm | replacing _ hm
  | replaced _ hm => exact hm.follows rfl
  | launched =>
    intro g s hs
    have hlt := (List.getElem?_eq_some_iff.1 hs).1
    exact ⟨s, by rw [List.getElem?_append_left hlt, hs], .refl s⟩
  | thread hs hm => exact scansFollow_of_set hs rfl (hm.follows (h hs))
  | file hs =>
    exact scansFollow_of_set hs rfl ⟨rfl, rfl, rfl, fun hne => ⟨hne, rfl, rfl⟩⟩
  | entry hs | published hs | refused hs =>
    exact scansFollow_of_set hs rfl ⟨rfl, rfl, rfl, fun hne => ⟨by
      simpa [Scan.afterEntry] using hne, rfl, rfl⟩⟩
  | taken hs => exact scansFollow_of_set hs rfl ⟨rfl, rfl, rfl, fun hne => ⟨hne, rfl, rfl⟩⟩
  | _ => exact scansFollow_of_eq rfl

/-! ### Attempts -/

/-- What an attempt tells about its scan: the list is all there is to find in a lookup over whole
files. -/
def Attempt.Sound (l : Ledger) (t : Tracker) (p : Attempt) : Prop :=
  ∃ s e, t.scans[p.scan]? = some s ∧ s.entries[p.task]? = some p.entry ∧
    t.entries[p.entry]? = some e ∧ s.entryTasks ≠ [] ∧ s.LookupFull l.trees t.entries ∧
    p.references = t.found s e

theorem Attempt.Sound.grow {p : Attempt} (h : p.Sound l t) (ht : t.Grows t')
    (hl : l.trees ⊆ l'.trees) (hs : t.ScansFollow t') : p.Sound l' t' := by
  obtain ⟨s, e, hscan, hid, he, hne, ⟨hcand, indexes, hfull, hlook⟩, hfound⟩ := h
  obtain ⟨s', hscan', hf⟩ := hs _ s hscan
  obtain ⟨hne', hcand', hlook'⟩ := hf.lookup hne
  refine ⟨s', e, hscan', hf.entries ▸ hid, ht.entries ▸ he, hne', ⟨?_, indexes, ?_, ?_⟩, ?_⟩
  · rw [hcand', hcand, ht.entries, Scan.keys, Scan.keys, hf.entries]
  · rw [hf.files, hf.rules, hcand']
    exact hfull.imp fun _ _ hx => hx.mono hl
  · rw [hlook', hlook]
  · rw [hfound, Tracker.found, Tracker.found, Tracker.context, Tracker.context, ht.settings, hlook',
      hf.rules]

/-- An attempt that is being made is sound. -/
theorem Attempt.sound_of_attempt? {p : Attempt}
    (h : ∀ {g s}, t.scans[g]? = some s → ScanInv l t g s) (hp : t.attempt? a = some p) :
    p.Sound l t := by
  obtain ⟨s, e, -, hs, hid, he, htask, -⟩ := Tracker.scan_of_attempt? hp
  have hne := ne_nil_of_getElem? htask
  have hc := (h hs).core
  exact ⟨s, e, hs, hid, he, hne, hc.lookup.resolve_left hne, hc.entries hid he htask⟩

/-! ### Scans -/

/-- Only the attempt of a step is new. -/
theorem Ledger.mem_attempts_step {p : Attempt} (hp : p ∈ (l.step t a).attempts) :
    p ∈ l.attempts ∨ t.attempt? a = some p := by
  rcases List.mem_append.1 hp with h | h
  · exact Or.inl h
  · exact Or.inr (by simpa using h)

/-- When one scan has been replaced, the invariant of all others goes on. -/
theorem forall_scanInv_of_set (h : ∀ {g s}, t.scans[g]? = some s → ScanInv l t g s)
    (ht : t.Grows t') (hl : ∀ j, j ≠ g → l.Grows l' j) (hs' : ScanInv l' t' g s')
    (hscans : t'.scans = t.scans.set g s') {j : Nat} {x : Scan} (hx : t'.scans[j]? = some x) :
    ScanInv l' t' j x := by
  rw [hscans] at hx
  by_cases hj : g = j
  · subst hj
    obtain ⟨hlt, rfl⟩ := List.getElem?_eq_some_iff.1 hx
    rwa [List.getElem_set_self]
  · rw [List.getElem?_set_ne hj] at hx
    exact (h hx).frame ht (hl j (Ne.symm hj)) id rfl rfl (Or.inr rfl)

theorem forall_scanInv_of_eq (h : ∀ {g s}, t.scans[g]? = some s → ScanInv l t g s)
    (ht : t.Grows t') (hl : ∀ j, l.Grows l' j) (hscans : t'.scans = t.scans) {j : Nat} {x : Scan}
    (hx : t'.scans[j]? = some x) : ScanInv l' t' j x :=
  (h (hscans ▸ hx)).frame ht (hl j) id rfl rfl (Or.inr rfl)

theorem Tracker.CancelMove.scanInv {scans : List Scan} (hm : t.CancelMove scans)
    (h : ∀ {g s}, t.scans[g]? = some s → ScanInv l t g s) (ht : t.Grows t')
    (hl : ∀ j, l.Grows l' j) (hscans : t'.scans = scans) {j : Nat} {x : Scan}
    (hx : t'.scans[j]? = some x) : ScanInv l' t' j x := by
  cases hm with
  | same => exact forall_scanInv_of_eq h ht hl hscans hx
  | flagged hs =>
    exact forall_scanInv_of_set h ht (fun j _ => hl j)
      ((h hs).frame ht (hl _) (fun _ => rfl) rfl rfl (Or.inr rfl)) hscans hx
  | @advanced g s a hs =>
    exact forall_scanInv_of_set h ht (fun j _ => hl j)
      ((h hs).frame ht (hl _) id (a.step_visited _) (a.step_total _) (Or.inr rfl)) hscans hx

/-- A scan that has just begun has nothing behind it. -/
theorem ScanInv.newScan {r : ScanRequest} {n : Nat} (hr : r ∈ l.requests) (hn : n = g + 1)
    (hg : n = t.generation) (hp : ∀ p ∈ l.attempts, p.scan ≠ g) :
    ScanInv l t g (Tracker.newScan t.settings r n) := by
  have hnil : Attempt.publishedBy g l.attempts = [] := by
    simpa [Attempt.publishedBy, List.filter_eq_nil_iff] using fun p h _ => hp p h
  exact
    { core :=
        { number := hn
          bound := Nat.le_of_eq hg
          request := ⟨r, hr, rfl, rfl, rfl⟩
          total := rfl
          files := fun _ h => by cases h
          entries := fun _ _ h => by cases h
          lookup := Or.inl rfl
          quiet := fun _ => hp
          reached := fun h => by cases h
          noneRefused := Or.inl fun p h hs => absurd hs (hp p h)
          counted := by rw [hnil]; rfl
          past := Or.inl (by rw [hnil]; rfl)
          summed := by rw [hnil]; rfl
          visited := Or.inl rfl }
      stage := ⟨rfl, rfl⟩
      outcome := Or.inr rfl }

/-- A scan without a thread is over before it has done anything. -/
theorem ScanInv.unstarted (h : ScanInv l t g s) (ho : s.outcome = none) :
    ScanInv l t g (Tracker.unstarted s) where
  core := h.core.frame (.refl t) (.refl l g) (fun _ => rfl) (by simp) (by simp)
  stage := fun _ hm => nomatch ho.symm.trans hm
  outcome := Or.inl rfl

theorem ScanInv.of_isNew {r : ScanRequest} {n : Nat} (hs : s.IsNew t.settings r n)
    (hr : r ∈ l.requests) (hn : n = g + 1) (hg : n = t.generation)
    (hp : ∀ p ∈ l.attempts, p.scan ≠ g) : ScanInv l t g s := by
  cases hs with
  | queued => exact .newScan hr hn hg hp
  | unstarted => exact (ScanInv.newScan hr hn hg hp).unstarted rfl

/-! ### Slots -/

/-- Scan number `n` has been given the entry at a position, or is about to be. -/
inductive Tracker.Claims (t : Tracker) (id : Nat) : Nat → Prop
  | scan {g : Nat} {s : Scan} (hs : t.scans[g]? = some s) (h : id ∈ s.entries) :
      Claims t id (g + 1)
  | call {i n : Nat} {r : ScanRequest} {left : List Nat}
      (hc : t.calls[i]? = some (.marking r n left)) (h : id ∈ r.entries) : Claims t id n

/-- What the slots have to do with scans and attempts. -/
structure SlotsInv (l : Ledger) (t : Tracker) : Prop where
  length : t.slots.length = t.entries.length
  bound : ∀ {id : Nat} {slot : Slot}, t.slots[id]? = some slot → slot.generation ≤ t.generation
  claimed : ∀ {id : Nat} {slot : Slot}, t.slots[id]? = some slot →
    slot.generation = 0 ∨ t.Claims id slot.generation
  settled : ∀ p ∈ l.attempts, p.accepted = true → ∀ slot, t.slots[p.entry]? = some slot →
    slot.pending = true → slot.generation ≠ p.scan + 1

/-- The invariant of a tracker. -/
structure TrackerInv (l : Ledger) (t : Tracker) : Prop where
  tree : t.files ∈ l.trees
  calls : CallsInv l t
  slots : SlotsInv l t
  scans : ∀ {g : Nat} {s : Scan}, t.scans[g]? = some s → ScanInv l t g s
  attempts : ∀ p ∈ l.attempts, p.Sound l t

namespace TrackerInv

/-- A scan that was given an entry keeps it, and a call that is about to begin a scan does so. -/
theorem claims_step (h : TrackerInv l t) {id n : Nat} (hcl : t.Claims id n) (a : Action) :
    (t.step a).Claims id n := by
  have hfollow := Tracker.scansFollow_step h.scans a
  cases hcl with
  | scan hs hid =>
    obtain ⟨s', hs', hf⟩ := hfollow _ _ hs
    exact .scan hs' (hf.entries ▸ hid)
  | @call i n r left hc hid =>
    generalize ht : t.step a = t'
    have hm : Tracker.Move t a t' := ht ▸ t.move_step a
    -- A step of a call that is not marking entries is a step of another call.
    have hother : ∀ {j c c'}, t.calls[j]? = some c → (∀ r n left, c ≠ .marking r n left) →
        (t.calls.set j c')[i]? = some (.marking r n left) := by
      intro j c c' hj hne
      rw [List.getElem?_set_ne, hc]
      rintro rfl
      exact hne _ _ _ (Option.some.inj (hj.symm.trans hc))
    cases hm with
    | called =>
      exact .call (by rw [List.getElem?_append_left (List.getElem?_eq_some_iff.1 hc).1, hc]) hid
    | cancelling hj | cancelled hj | stopIdle hj | stopBegun hj | stopping hj | stopped hj
    | startIdle hj | startBegun hj | replacing hj | replaced hj | numbered hj =>
      exact .call (hother hj (by simp)) hid
    | @marked j id' n' r' rest hj =>
      by_cases hij : j = i
      · subst hij
        obtain ⟨rfl, rfl, rfl⟩ := Call.marking.inj (Option.some.inj (hc.symm.trans hj))
        exact .call (by rw [List.getElem?_set_self (List.getElem?_eq_some_iff.1 hc).1]) hid
      · exact .call (by rw [List.getElem?_set_ne hij, hc]) hid
    | @launched _ j n' r' _ _ _ hj hnew =>
      by_cases hij : j = i
      · subst hij
        obtain ⟨rfl, rfl, rfl⟩ := Call.marking.inj (Option.some.inj (hc.symm.trans hj))
        obtain ⟨-, hg, -, hn, -⟩ := h.calls.sound hc
        rw [hn, hg]
        exact .scan (List.getElem?_concat_length ..) (hnew.entries ▸ hid)
      · exact .call (by rw [List.getElem?_set_ne hij, hc]) hid
    | _ => exact .call hc hid

/-- A list is refused only when a later scan owns the slot, so that the scan is not current any
more. -/
theorem stops_of_refused (h : TrackerInv l t) {id : Nat} {slot : Slot}
    (hslot : t.slots[id]? = some slot) (hfalse : slot.accepts s.generation = false) :
    t.Stops s := by
  have hbound := h.slots.bound hslot
  have hlater : ¬slot.generation ≤ s.generation := by simpa [Slot.accepts] using hfalse
  exact Or.inr (by omega)

/-- The scans when a call has just begun one. -/
theorem scans_launched (h : TrackerInv l t) {i n : Nat} {r : ScanRequest} {x : Scan}
    (hnone : t.attempt? a = none) (hc : t.calls[i]? = some (.marking r n []))
    (hnew : x.IsNew t.settings r n) (hg : t.Grows t') (hgeneration : t'.generation = t.generation)
    (hscans : t'.scans = t.scans ++ [x]) (hs : t'.scans[g]? = some s) :
    ScanInv (l.step t a) t' g s := by
  obtain ⟨-, hgen, hr, hn, -⟩ := h.calls.sound hc
  rw [hscans] at hs
  rcases Nat.lt_or_ge g t.scans.length with hlt | hge
  · rw [List.getElem?_append_left hlt] at hs
    have hl : l.Grows (l.step t a) g := Ledger.grows_step (by simp [hnone])
    exact (h.scans hs).frame hg hl id rfl rfl (Or.inr rfl)
  · rw [List.getElem?_append_right hge, List.getElem?_singleton] at hs
    split at hs
    · rename_i hzero
      obtain rfl := Option.some.inj hs
      obtain rfl : g = t.scans.length := by omega
      refine .of_isNew (hg.settings ▸ hnew) (Ledger.requests_subset_step hr) (hn.trans hgen)
        (hn.trans hgeneration.symm) fun p hp hne => ?_
      -- The attempts so far are those of the scans that were there before.
      rcases Ledger.mem_attempts_step hp with hp | hp
      · obtain ⟨s', _, hs', -⟩ := h.attempts p hp
        have hlt := (List.getElem?_eq_some_iff.1 hs').1
        omega
      · cases hnone.symm.trans hp
    · cases hs

/-- The scans when one of them has made an attempt. -/
theorem scans_attempted (h : TrackerInv l t) {j k id : Nat} {found : List Reference}
    {accepted : Bool} (hs : t.scans[j]? = some s)
    (htask : s.entryTasks[k]? = some (.publishing found)) (hok : accepted = true ∨ t.Stops s)
    (hp : t.attempt? (.entry j k) = some ⟨j, k, id, found, accepted⟩) (hg : t.Grows t')
    (hscans : t'.scans = t.scans.set j
      { s with entryTasks := s.entryTasks.set k (.afterAttempt accepted found) })
    (hs' : t'.scans[g]? = some s') : ScanInv (l.step t (.entry j k)) t' g s' := by
  have hstep : l.step t (.entry j k) =
      { l with attempts := l.attempts ++ [⟨j, k, id, found, accepted⟩] } := by
    simp [Ledger.step, Action.tree?, Action.request?, hp]
  have hinv := (h.scans hs).attempted id htask hok
  rw [← hstep] at hinv
  refine forall_scanInv_of_set h.scans hg (fun j' hj' => Ledger.grows_step fun p hp' => ?_)
    (hinv.frame hg (.refl _ _) (fun h => h) rfl rfl (Or.inr rfl)) hscans hs'
  obtain rfl := Option.some.inj (hp.symm.trans hp')
  exact Ne.symm hj'

theorem scans_step (h : TrackerInv l t) (a : Action) {g : Nat} {s : Scan}
    (hs : (t.step a).scans[g]? = some s) : ScanInv (l.step t a) (t.step a) g s := by
  have hg := t.grows_step a
  have hl : t.attempt? a = none → ∀ j, l.Grows (l.step t a) j :=
    fun hnone j => Ledger.grows_step (by simp [hnone])
  generalize ht : t.step a = t' at hg hs
  have hm : Tracker.Move t a t' := ht ▸ t.move_step a
  cases hm with
  | cancelling _ hm | cancelled _ hm | stopping _ hm | stopped _ hm | replacing _ hm
  | replaced _ hm => exact hm.scanInv h.scans hg (hl rfl) rfl hs
  | launched ha hc hnew =>
    exact h.scans_launched (Tracker.attempt?_call ha) hc hnew hg rfl rfl hs
  | thread hs' hm =>
    exact forall_scanInv_of_set h.scans hg (fun j _ => hl rfl j)
      (((h.scans hs').thread hm).frame hg (hl rfl _) id rfl rfl (Or.inr rfl)) rfl hs
  | file hs' hf htask hm =>
    exact forall_scanInv_of_set h.scans hg (fun j _ => hl rfl j)
      (((h.scans hs').file h.tree hf htask hm).frame hg (hl rfl _) id rfl rfl (Or.inr rfl)) rfl hs
  | entry hs' hid he htask hm =>
    have hnone := Tracker.attempt?_of_move hs' hid he htask hm
    exact forall_scanInv_of_set h.scans hg (fun j _ => hl hnone j)
      (((h.scans hs').entry hid he htask hm).frame hg (hl hnone _) id rfl rfl (Or.inr rfl)) rfl hs
  | @published j k id s' e found slot hs' hid he htask hslot ha =>
    have hp : t.attempt? (.entry j k) = some ⟨j, k, id, found, true⟩ := by
      simp [Tracker.attempt?_entry hs' hid he htask, hslot, ha]
    exact h.scans_attempted hs' htask (Or.inl rfl) hp hg rfl hs
  | @refused j k id s' e found hs' hid he htask ha =>
    have hlt : id < t.slots.length := h.slots.length ▸ (List.getElem?_eq_some_iff.1 he).1
    have hslot := List.getElem?_eq_getElem hlt
    have hfalse := ha _ hslot
    have hp : t.attempt? (.entry j k) = some ⟨j, k, id, found, false⟩ := by
      simp [Tracker.attempt?_entry hs' hid he htask, hslot, hfalse]
    exact h.scans_attempted hs' htask (Or.inr (h.stops_of_refused hslot hfalse)) hp hg rfl hs
  | taken hs' =>
    exact forall_scanInv_of_set h.scans hg (fun j _ => hl rfl j)
      ((h.scans hs').frame hg (hl rfl _) id rfl rfl (Or.inl rfl)) rfl hs
  | idle hnone => exact (h.scans hs).frame hg (hl hnone g) id rfl rfl (Or.inr rfl)
  | called hfirst =>
    have hnone : t.attempt? a = none := by cases a <;> first | rfl | cases hfirst
    exact forall_scanInv_of_eq h.scans hg (hl hnone) rfl hs
  | _ => exact forall_scanInv_of_eq h.scans hg (hl rfl) rfl hs

theorem attempts_step (h : TrackerInv l t) (a : Action) :
    ∀ p ∈ (l.step t a).attempts, p.Sound (l.step t a) (t.step a) := by
  intro p hp
  have hsound : p.Sound l t := (Ledger.mem_attempts_step hp).elim (h.attempts p)
    (Attempt.sound_of_attempt? h.scans)
  exact hsound.grow (t.grows_step a) Ledger.trees_subset_step (Tracker.scansFollow_step h.scans a)

/-- The slots when one of them has just been marked. -/
theorem slots_marked (h : TrackerInv l t) {i n id : Nat} {r : ScanRequest} {rest : List Nat}
    (hc : t.calls[i]? = some (.marking r n (id :: rest)))
    (hs : (t.step (.call i)).slots = t.slots.modify id fun slot => slot.mark n) :
    SlotsInv (l.step t (.call i)) (t.step (.call i)) := by
  have hg := t.grows_step (.call i)
  obtain ⟨-, hgen, -, rfl, hsub⟩ := h.calls.sound hc
  have hid := hsub (List.mem_cons_self ..)
  -- Each slot is as before, or it is the one that is marked.
  have hmark : ∀ {j slot'}, (t.step (.call i)).slots[j]? = some slot' →
      t.slots[j]? = some slot' ∨ j = id ∧ slot'.generation = t.generation := by
    intro j slot' hj
    rw [hs, List.getElem?_modify] at hj
    obtain ⟨slot, hslot, rfl⟩ := Option.map_eq_some_iff.1 hj
    by_cases hij : id = j
    · by_cases hle : slot.generation ≤ t.generation
      · exact Or.inr ⟨hij.symm, by simp [hij, Slot.mark, hle]⟩
      · exact absurd (h.slots.bound hslot) hle
    · exact Or.inl (by simpa [hij] using hslot)
  refine ⟨by rw [hs, List.length_modify, hg.entries, h.slots.length], fun hj => ?_,
    fun hj => ?_, fun p hp hacc slot' hj hpend => ?_⟩
  · rcases hmark hj with hj | ⟨-, hn⟩
    · exact (h.slots.bound hj).trans hg.generation
    · exact hn ▸ hg.generation
  · rcases hmark hj with hj | ⟨rfl, hn⟩
    · exact (h.slots.claimed hj).imp_right fun hcl => h.claims_step hcl _
    · exact Or.inr (hn ▸ h.claims_step (.call hc hid) _)
  · have hp : p ∈ l.attempts := (Ledger.mem_attempts_step hp).resolve_right (by
      simp [Tracker.attempt?])
    rcases hmark hj with hj | ⟨-, hn⟩
    · exact h.slots.settled p hp hacc slot' hj hpend
    · obtain ⟨s, _, hscan, -⟩ := h.attempts p hp
      have hlt := (List.getElem?_eq_some_iff.1 hscan).1
      omega

/-- The slots when a list has just been published into one of them. -/
theorem slots_published (h : TrackerInv l t) {p : Attempt} {slot : Slot}
    (hp : t.attempt? a = some p) (hscan : t.scans[p.scan]? = some s)
    (hslot : t.slots[p.entry]? = some slot) (hok : slot.accepts s.generation = true)
    (hs : (t.step a).slots = t.slots.set p.entry (slot.publish s.generation p.references)) :
    SlotsInv (l.step t a) (t.step a) := by
  have hg := t.grows_step a
  obtain ⟨s', e, -, hscan', hid, -⟩ := Tracker.scan_of_attempt? hp
  obtain rfl : s = s' := Option.some.inj (hscan.symm.trans hscan')
  have hcore := (h.scans hscan).core
  -- Each slot is as before, or it is the one that is published into.
  have hset : ∀ {j slot'}, (t.step a).slots[j]? = some slot' →
      j ≠ p.entry ∧ t.slots[j]? = some slot' ∨
        j = p.entry ∧ slot' = ⟨s.generation, false, some p.references⟩ := by
    intro j slot' hj
    rw [hs] at hj
    by_cases hij : p.entry = j
    · subst hij
      have hlt := (List.getElem?_eq_some_iff.1 hslot).1
      refine Or.inr ⟨rfl, ?_⟩
      simpa [hlt, Slot.publish, hok, eq_comm] using hj
    · exact Or.inl ⟨Ne.symm hij, by rwa [List.getElem?_set_ne hij] at hj⟩
  refine ⟨by rw [hs, List.length_set, hg.entries, h.slots.length], fun hj => ?_,
    fun hj => ?_, fun q hq hacc slot' hj hpend => ?_⟩
  · rcases hset hj with ⟨-, hj⟩ | ⟨-, rfl⟩
    · exact (h.slots.bound hj).trans hg.generation
    · exact hcore.bound.trans hg.generation
  · rcases hset hj with ⟨-, hj⟩ | ⟨rfl, rfl⟩
    · exact (h.slots.claimed hj).imp_right fun hcl => h.claims_step hcl a
    · refine Or.inr (h.claims_step ?_ a)
      rw [hcore.number]
      exact .scan hscan (List.mem_of_getElem? hid)
  · rcases hset hj with ⟨hne, hj⟩ | ⟨-, rfl⟩
    · rcases Ledger.mem_attempts_step hq with hq | hq
      · exact h.slots.settled q hq hacc slot' hj hpend
      · obtain rfl : q = p := Option.some.inj (hq.symm.trans hp)
        exact absurd rfl hne
    · cases hpend

theorem slots_step (h : TrackerInv l t) (a : Action) : SlotsInv (l.step t a) (t.step a) := by
  rcases Tracker.slots_step t a with ⟨hs, hfalse⟩ | ⟨i, r, n, id, rest, rfl, hc, hs⟩ |
    ⟨p, s, slot, hp, -, hscan, hslot, hok, hs⟩
  · have hg := t.grows_step a
    refine ⟨by rw [hs, hg.entries, h.slots.length], fun hi => ?_, fun hi => ?_, ?_⟩
    · exact (h.slots.bound (hs ▸ hi)).trans hg.generation
    · exact (h.slots.claimed (hs ▸ hi)).imp_right fun hcl => h.claims_step hcl a
    · intro p hp hacc slot hslot
      rcases Ledger.mem_attempts_step hp with hp | hp
      · exact h.slots.settled p hp hacc slot (hs ▸ hslot)
      · simp [hfalse p hp] at hacc
  · exact h.slots_marked hc hs
  · exact h.slots_published hp hscan hslot hok hs

/-- **Each step keeps the invariant.** -/
theorem step (h : TrackerInv l t) (a : Action) : TrackerInv (l.step t a) (t.step a) where
  tree := by
    generalize ht : t.step a = t'
    have hm : Tracker.Move t a t' := ht ▸ t.move_step a
    cases hm with
    | files => exact List.mem_append_right _ (List.mem_singleton_self _)
    | _ => exact Ledger.trees_subset_step h.tree
  calls := h.calls.step a
  slots := h.slots_step a
  scans := h.scans_step a
  attempts := h.attempts_step a

end TrackerInv

/-! ### Runs -/

/-- What has happened once a tracker has made a run. -/
def Ledger.run (l : Ledger) (t : Tracker) : List Action → Ledger
  | [] => l
  | a :: rest => (l.step t a).run (t.step a) rest

theorem TrackerInv.run (h : TrackerInv l t) (actions : List Action) :
    TrackerInv (l.run t actions) (t.run actions) := by
  induction actions generalizing l t with
  | nil => exact h
  | cons a rest ih => exact ih (h.step a)

/-- Later in a run a scan still works on the same entries. -/
theorem TrackerInv.entries_of_run (h : TrackerInv l t) (actions : List Action)
    (hs : t.scans[g]? = some s) :
    ∃ s', (t.run actions).scans[g]? = some s' ∧ s'.entries = s.entries := by
  induction actions generalizing l t s with
  | nil => exact ⟨s, hs, rfl⟩
  | cons a rest ih =>
    obtain ⟨s', hs', hf⟩ := Tracker.scansFollow_step h.scans a g s hs
    obtain ⟨s'', hs'', he⟩ := ih (h.step a) hs'
    exact ⟨s'', hs'', he.trans hf.entries⟩

/-- A tracker that has not begun any scan. -/
theorem TrackerInv.initial (settings : ScanSettings) (entries : List Entry) (files : FileTree) :
    TrackerInv ⟨[files], [], []⟩ (Tracker.initial settings entries files) where
  tree := List.mem_singleton_self _
  calls := ⟨nofun, fun _ => rfl⟩
  slots :=
    { length := List.length_map ..
      bound := fun h => by
        obtain ⟨_, _, rfl⟩ := Option.map_eq_some_iff.1 (List.getElem?_map .. ▸ h)
        exact Nat.le_refl _
      claimed := fun h => by
        obtain ⟨_, _, rfl⟩ := Option.map_eq_some_iff.1 (List.getElem?_map .. ▸ h)
        exact Or.inl rfl
      settled := nofun }
  scans h := by cases h
  attempts := nofun

theorem Ledger.run_attempts (l : Ledger) (t : Tracker) (actions : List Action) :
    (l.run t actions).attempts = l.attempts ++ t.attempts actions := by
  induction actions generalizing l t with
  | nil => exact (List.append_nil _).symm
  | cons a rest ih => rw [run, ih, step, Tracker.attempts, List.append_assoc]

theorem Ledger.run_trees (l : Ledger) (t : Tracker) (actions : List Action) :
    (l.run t actions).trees = l.trees ++ actions.filterMap Action.tree? := by
  induction actions generalizing l t with
  | nil => exact (List.append_nil _).symm
  | cons a rest ih =>
    rw [run, ih, step, List.append_assoc]
    cases h : a.tree? <;> simp [h]

theorem Ledger.run_requests (l : Ledger) (t : Tracker) (actions : List Action) :
    (l.run t actions).requests = l.requests ++ actions.filterMap Action.request? := by
  induction actions generalizing l t with
  | nil => exact (List.append_nil _).symm
  | cons a rest ih =>
    rw [run, ih, step, List.append_assoc]
    cases h : a.request? <;> simp [h]

end KeyTrace
