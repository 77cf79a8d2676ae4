import KeyTrace.Proofs.Scan.Moves

/-!
# What happens to the slots

A state of a tracker does not show how it came about, so a run is looked at together with what has
happened in it: the attempts to publish a list, with their success. A slot changes in two ways only,
by a mark and by an accepted attempt, and its generation never goes down; its list is the one of the
last accepted attempt.

## Main definitions

* `Tracker.attempts`: the attempts of a run.
* `Tracker.list?`: the list that an entry shows.
* `Tracker.author?`: the number of the scan for which a step is taken.

## Main results

* `Tracker.slots_step`: how one step changes the slots.
* `Tracker.list?_run`: the list of an entry after a run is the last one published in it.
* `Tracker.author_of_slots_ne`: what has been claimed for a scan is changed only for this scan or a
  later one.
-/

namespace KeyTrace

namespace Tracker

/-- The attempts made in a run, in order. -/
def attempts (t : Tracker) : List Action → List Attempt
  | [] => []
  | a :: rest => (t.attempt? a).toList ++ (t.step a).attempts rest

@[simp] theorem run_nil (t : Tracker) : t.run [] = t := rfl

@[simp] theorem run_cons (t : Tracker) (a : Action) (actions : List Action) :
    t.run (a :: actions) = (t.step a).run actions := rfl

theorem run_append (t : Tracker) (actions more : List Action) :
    t.run (actions ++ more) = (t.run actions).run more :=
  List.foldl_append

theorem attempts_append (t : Tracker) (actions more : List Action) :
    t.attempts (actions ++ more) = t.attempts actions ++ (t.run actions).attempts more := by
  induction actions generalizing t with
  | nil => rfl
  | cons a rest ih => simp [attempts, ih]

variable {t : Tracker}

/-! ### Slots -/

/-- **How a step changes the slots.** It leaves them alone, marks one, or publishes into one. -/
theorem slots_step (t : Tracker) (a : Action) :
    ((t.step a).slots = t.slots ∧ ∀ p, t.attempt? a = some p → p.accepted = false) ∨
    (∃ i r n id rest, a = .call i ∧ t.calls[i]? = some (.marking r n (id :: rest)) ∧
      (t.step a).slots = t.slots.modify id fun slot => slot.mark n) ∨
    (∃ p s slot, t.attempt? a = some p ∧ p.accepted = true ∧ t.scans[p.scan]? = some s ∧
      t.slots[p.entry]? = some slot ∧ slot.accepts s.generation = true ∧
      (t.step a).slots = t.slots.set p.entry (slot.publish s.generation p.references)) := by
  generalize ht' : t.step a = t'
  have hm : Move t a t' := ht' ▸ move_step t a
  cases hm with
  | idle h => exact Or.inl ⟨rfl, fun p hp => by simp [h] at hp⟩
  | called h => exact Or.inl ⟨rfl, fun p hp => by cases a <;> cases h <;> cases hp⟩
  | marked hc => exact Or.inr (Or.inl ⟨_, _, _, _, _, rfl, hc, rfl⟩)
  | launched ha => exact Or.inl ⟨rfl, fun p hp => by simp [attempt?_call ha] at hp⟩
  | entry hs hid he ht h =>
    exact Or.inl ⟨rfl, fun p hp => by simp [attempt?_of_move hs hid he ht h] at hp⟩
  | published hs hid he ht hslot ha =>
    have hp := attempt?_entry hs hid he ht
    exact Or.inr (Or.inr ⟨_, _, _, hp, by simp [hslot, ha], hs, hslot, ha, rfl⟩)
  | @refused g k id s e found hs hid he ht ha =>
    refine Or.inl ⟨rfl, fun p hp => ?_⟩
    rw [attempt?_entry hs hid he ht] at hp
    obtain rfl := Option.some.inj hp
    cases hslot : t.slots[id]? with
    | none => rfl
    | some slot => simp [ha slot hslot]
  | _ => exact Or.inl ⟨rfl, fun p hp => by cases hp⟩

/-- The list that an entry shows, if any was published. -/
def list? (t : Tracker) (id : Nat) : Option (List Reference) :=
  (t.slots[id]?).bind Slot.references

/-- The list published last by some attempts into the slot of an entry. -/
def published? (id : Nat) (attempts : List Attempt) : Option (List Reference) :=
  ((attempts.filter fun p => p.accepted && p.entry == id).getLast?).map Attempt.references

theorem published?_append (id : Nat) (l m : List Attempt) :
    published? id (l ++ m) = (published? id m).or (published? id l) := by
  simp only [published?, List.filter_append, List.getLast?_append]
  cases (m.filter fun p => p.accepted && p.entry == id).getLast? <;> simp

/-- An entry that an accepted attempt has reached has a list, that of some such attempt. -/
theorem exists_published? {attempts : List Attempt} {p : Attempt} (hp : p ∈ attempts)
    (hacc : p.accepted = true) : ∃ q ∈ attempts, q.accepted = true ∧ q.entry = p.entry ∧
      published? p.entry attempts = some q.references := by
  have hmem : p ∈ attempts.filter fun q => q.accepted && q.entry == p.entry :=
    List.mem_filter.2 ⟨hp, by simp [hacc]⟩
  obtain ⟨q, hq⟩ := Option.isSome_iff_exists.1 (List.getLast?_isSome.2 (List.ne_nil_of_mem hmem))
  have hlast := List.mem_filter.1 (List.mem_of_getLast? hq)
  rw [Bool.and_eq_true, beq_iff_eq] at hlast
  refine ⟨q, hlast.1, hlast.2.1, hlast.2.2, ?_⟩
  rw [published?, hq]
  rfl

theorem mark_references (slot : Slot) (n : Nat) : (slot.mark n).references = slot.references := by
  rw [Slot.mark]
  split <;> rfl

/-- One step changes the list of an entry only by an accepted attempt on it. -/
theorem list?_step (t : Tracker) (a : Action) (id : Nat) :
    (t.step a).list? id = (published? id (t.attempt? a).toList).or (t.list? id) := by
  rcases slots_step t a with ⟨hs, hp⟩ | ⟨i, r, n, id', rest, rfl, -, hs⟩ |
    ⟨p, s, slot, hp, hacc, -, hslot, hok, hs⟩
  · have hnone : published? id (t.attempt? a).toList = none := by
      cases h : t.attempt? a with
      | none => rfl
      | some p => simp [published?, hp p h]
    rw [hnone, list?, hs, list?, Option.none_or]
  · have hnone : published? id (t.attempt? (.call i)).toList = none := rfl
    rw [hnone, Option.none_or, list?, hs, list?, List.getElem?_modify]
    cases t.slots[id]? with
    | none => rfl
    | some slot => by_cases h : id' = id <;> simp [h, mark_references]
  · rw [hp, list?, hs, list?]
    by_cases h : p.entry = id
    · subst h
      have hlt := (List.getElem?_eq_some_iff.1 hslot).1
      simp [published?, hacc, hlt, Slot.publish, hok]
    · simp [published?, h, List.getElem?_set_ne h]

/-- **The list that an entry shows is the one published last.** What no accepted attempt of a run
has reached keeps its list. -/
theorem list?_run (t : Tracker) (actions : List Action) (id : Nat) :
    (t.run actions).list? id = (published? id (t.attempts actions)).or (t.list? id) := by
  induction actions generalizing t with
  | nil => rfl
  | cons a rest ih => rw [run_cons, ih, list?_step, attempts, published?_append, Option.or_assoc]

/-! ### Generations of slots -/

/-- The number of the scan for which a step is taken, if it is taken for one. -/
def author? (t : Tracker) : Action → Option Nat
  | .call i =>
    match t.calls[i]? with
    | some (.marking _ n _) => some n
    | _ => none
  | .thread g => (t.scans[g]?).map Scan.generation
  | .file g _ => (t.scans[g]?).map Scan.generation
  | .entry g _ => (t.scans[g]?).map Scan.generation
  | _ => none

/-- A step that changes a slot is taken for a scan that the slot does not keep out, and the slot
belongs to this scan then. -/
theorem slot_step {a : Action} {id : Nat} {slot : Slot} (h : t.slots[id]? = some slot) :
    (t.step a).slots[id]? = some slot ∨
      ∃ n slot', t.author? a = some n ∧ (t.step a).slots[id]? = some slot' ∧
        slot.generation ≤ n ∧ slot'.generation = n := by
  rcases slots_step t a with ⟨hs, -⟩ | ⟨i, r, n, id', rest, rfl, hc, hs⟩ |
    ⟨p, s, slot', hp, -, hscan, hslot, hok, hs⟩
  · exact Or.inl (hs ▸ h)
  · rw [hs, List.getElem?_modify, h]
    by_cases hid : id' = id
    · by_cases hn : slot.generation ≤ n
      · exact Or.inr ⟨n, slot.mark n, by simp [author?, hc], by simp [hid], hn, by
          simp [Slot.mark, hn]⟩
      · exact Or.inl (by simp [hid, Slot.mark, hn])
    · exact Or.inl (by simp [hid])
  · rw [hs]
    by_cases hid : p.entry = id
    · subst hid
      obtain rfl : slot = slot' := Option.some.inj (h.symm.trans hslot)
      obtain ⟨s', e, rfl, hs', -⟩ := scan_of_attempt? hp
      obtain rfl : s = s' := Option.some.inj (hscan.symm.trans hs')
      have hlt := (List.getElem?_eq_some_iff.1 h).1
      refine Or.inr ⟨s.generation, slot.publish s.generation p.references, by
        simp [author?, hscan], by simp [hlt], by simpa [Slot.accepts] using hok, by
        simp [Slot.publish, hok]⟩
    · exact Or.inl (by rw [List.getElem?_set_ne hid, h])

/-- The generation of a slot never goes down. -/
theorem slot_run {id : Nat} {slot : Slot} (h : t.slots[id]? = some slot) (actions : List Action) :
    ∃ slot', (t.run actions).slots[id]? = some slot' ∧ slot.generation ≤ slot'.generation := by
  induction actions generalizing t slot with
  | nil => exact ⟨slot, h, Nat.le_refl _⟩
  | cons a rest ih =>
    rcases slot_step (a := a) h with h' | ⟨n, slot', -, h', hle, hn⟩
    · exact ih h'
    · obtain ⟨slot'', h'', hle'⟩ := ih h'
      exact ⟨slot'', h'', by omega⟩

theorem length_slots_step (t : Tracker) (a : Action) :
    (t.step a).slots.length = t.slots.length := by
  rcases slots_step t a with ⟨hs, -⟩ | ⟨_, _, _, _, _, -, -, hs⟩ | ⟨_, _, _, -, -, -, -, -, hs⟩ <;>
    simp [hs]

theorem length_slots_run (t : Tracker) (actions : List Action) :
    (t.run actions).slots.length = t.slots.length := by
  induction actions generalizing t with
  | nil => rfl
  | cons a rest ih => rw [run_cons, ih, length_slots_step]

/-- **What has been claimed for a scan belongs to it or to a later one.** Once a slot has a
generation, only steps for scans of at least that number change it. -/
theorem author_of_slots_ne {id n : Nat}
    (h : ∀ slot, t.slots[id]? = some slot → n ≤ slot.generation) (actions : List Action)
    {a : Action} (hne : ((t.run actions).step a).slots[id]? ≠ (t.run actions).slots[id]?) :
    ∃ m, (t.run actions).author? a = some m ∧ n ≤ m := by
  cases hslot : t.slots[id]? with
  | none =>
    -- Without a slot there is nothing to change.
    have hlen := List.getElem?_eq_none_iff.1 hslot
    rw [List.getElem?_eq_none (by rwa [length_slots_step, length_slots_run]),
      List.getElem?_eq_none (by rwa [length_slots_run])] at hne
    exact absurd rfl hne
  | some slot =>
    obtain ⟨slot', h', hle⟩ := slot_run hslot actions
    rcases slot_step (a := a) h' with h'' | ⟨m, slot'', ha, -, hm, -⟩
    · exact absurd (h''.trans h'.symm) hne
    · exact ⟨m, ha, (h slot hslot).trans (hle.trans hm)⟩

end Tracker

end KeyTrace
