import KeyTrace.Scan.Slot
import Mathlib

/-!
# The history of a slot

Scans mark a slot and publish into it, and the calls of several scans may follow each other in any
order. A slot refuses a call if it has seen one for a later scan. What it shows can therefore be
told from the calls alone: which of them were refused, and what the others were.

## Main definitions

* `SlotCall`: the calls on a slot; `Slot.after`: what they make of it.
* `SlotCall.UpToDate`, `SlotCall.taken`: the calls of a history that are not refused.
* `Slot.Tells`: a slot shows what a history of calls leaves in it.

## Main results

* `Slot.history`: what any history of calls leaves in a slot.
-/

namespace KeyTrace

/-- A call on a slot for the scan of the given number. -/
inductive SlotCall where
  /-- Claims the slot. -/
  | mark (generation : Nat)
  /-- Publishes a list. -/
  | publish (generation : Nat) (references : List Reference)
deriving DecidableEq

namespace SlotCall

/-- The number of the scan that makes the call. -/
def generation : SlotCall → Nat
  | mark g => g
  | publish g _ => g

/-- The list that the call publishes, if it publishes one. -/
def list? : SlotCall → Option (List Reference)
  | mark _ => none
  | publish _ references => some references

/-- What the call makes of a slot. -/
def act (s : Slot) : SlotCall → Slot
  | mark g => s.mark g
  | publish g references => s.publish g references

/-- What the call returns: a publication says whether it was taken, a mark says nothing. -/
def answer? (s : Slot) : SlotCall → Option Bool
  | mark _ => none
  | publish g _ => some (s.accepts g)

/-- No call before this one was made for a later scan. -/
def UpToDate (before : List SlotCall) (c : SlotCall) : Prop :=
  ∀ d ∈ before, d.generation ≤ c.generation

instance (before : List SlotCall) (c : SlotCall) : Decidable (c.UpToDate before) :=
  inferInstanceAs (Decidable (∀ d ∈ before, d.generation ≤ c.generation))

/-- The calls that are not refused, where others have come before. -/
def takenAfter (before : List SlotCall) : List SlotCall → List SlotCall
  | [] => []
  | c :: rest =>
    if c.UpToDate before then c :: takenAfter (before ++ [c]) rest
    else takenAfter (before ++ [c]) rest

/-- The calls of a history that are not refused. -/
def taken (calls : List SlotCall) : List SlotCall := takenAfter [] calls

theorem takenAfter_concat (before calls : List SlotCall) (c : SlotCall) :
    takenAfter before (calls ++ [c]) =
      takenAfter before calls ++ if c.UpToDate (before ++ calls) then [c] else [] := by
  induction calls generalizing before with
  | nil => simp [takenAfter]
  | cons d rest ih =>
    rw [List.cons_append, takenAfter, takenAfter, ih, List.append_assoc, List.singleton_append]
    split <;> rfl

/-- A history that goes on with a call. -/
theorem taken_concat (calls : List SlotCall) (c : SlotCall) :
    taken (calls ++ [c]) = taken calls ++ if c.UpToDate calls then [c] else [] :=
  takenAfter_concat [] calls c

end SlotCall

namespace Slot

open SlotCall (taken)

/-- What a history of calls makes of a slot. -/
def after (s : Slot) (calls : List SlotCall) : Slot := calls.foldl SlotCall.act s

theorem after_concat (s : Slot) (calls : List SlotCall) (c : SlotCall) :
    s.after (calls ++ [c]) = c.act (s.after calls) := by
  simp [after]

/-- What a slot shows after a history of calls, told by the calls. -/
structure Tells (s : Slot) (calls : List SlotCall) : Prop where
  generation : IsGreatest {g | g = 0 ∨ ∃ c ∈ calls, c.generation = g} s.generation
  references : s.references = ((taken calls).filterMap SlotCall.list?).getLast?
  pending : s.pending = true ↔ ∃ g, (taken calls).getLast? = some (.mark g)

theorem tells_fresh : fresh.Tells [] where
  generation := ⟨Or.inl rfl, by simp [upperBounds, fresh]⟩
  references := rfl
  pending := by simp [fresh, taken, SlotCall.takenAfter]

namespace Tells

variable {s : Slot} {calls : List SlotCall} {c : SlotCall}

/-- A slot is ahead of a number just if some call was made for a later scan. -/
theorem generation_le_iff (h : s.Tells calls) (g : Nat) :
    s.generation ≤ g ↔ ∀ c ∈ calls, c.generation ≤ g := by
  constructor
  · intro hle c hc
    exact (h.generation.2 (Or.inr ⟨c, hc, rfl⟩)).trans hle
  · intro hall
    rcases h.generation.1 with hzero | ⟨c, hc, heq⟩
    · exact hzero ▸ Nat.zero_le g
    · exact heq ▸ hall c hc

/-- A call that is not up to date changes nothing. -/
theorem act_of_late (h : s.Tells calls) (hc : ¬ c.UpToDate calls) : c.act s = s := by
  have hlt : ¬ s.generation ≤ c.generation := mt (h.generation_le_iff c.generation).1 hc
  cases c with
  | mark g => exact if_neg hlt
  | publish g references => exact if_neg fun hok => hlt (of_decide_eq_true hok)

/-- The greatest number seen, when one more call was made. -/
theorem isGreatest_concat (h : s.Tells calls) :
    IsGreatest {g | g = 0 ∨ ∃ d ∈ calls ++ [c], d.generation = g}
      (max s.generation c.generation) := by
  have hset : {g | g = 0 ∨ ∃ d ∈ calls ++ [c], d.generation = g} =
      {g | g = 0 ∨ ∃ d ∈ calls, d.generation = g} ∪ {c.generation} := by
    ext g
    simp only [List.mem_append, List.mem_singleton, Set.mem_ofPred_eq, Set.mem_union,
      Set.mem_singleton_iff, or_and_right, exists_or, exists_eq_left, or_assoc, eq_comm (a := g)]
  rw [hset]
  exact h.generation.union isGreatest_singleton

/-- A refused call leaves the slot, and what its history tells, as they are. -/
theorem refused (h : s.Tells calls) (hc : ¬ c.UpToDate calls) : s.Tells (calls ++ [c]) := by
  have hlt : c.generation < s.generation := by
    by_contra hle
    exact hc ((h.generation_le_iff c.generation).1 (Nat.not_lt.1 hle))
  have htaken : taken (calls ++ [c]) = taken calls := by
    rw [SlotCall.taken_concat, if_neg hc, List.append_nil]
  refine ⟨?_, htaken ▸ h.references, htaken ▸ h.pending⟩
  have hgreatest := h.isGreatest_concat (c := c)
  rwa [max_eq_left hlt.le] at hgreatest

/-- A call that is up to date has its effect. -/
theorem accepted (h : s.Tells calls) (hc : c.UpToDate calls) :
    (c.act s).Tells (calls ++ [c]) := by
  have hle : s.generation ≤ c.generation := (h.generation_le_iff c.generation).2 hc
  have htaken : taken (calls ++ [c]) = taken calls ++ [c] := by
    rw [SlotCall.taken_concat, if_pos hc]
  have hgreatest := h.isGreatest_concat (c := c)
  rw [max_eq_right hle] at hgreatest
  cases c with
  | mark g =>
    have hact : SlotCall.act s (.mark g) = ⟨g, true, s.references⟩ := if_pos hle
    rw [hact]
    refine ⟨hgreatest, ?_, ?_⟩
    · simpa [htaken, SlotCall.list?] using h.references
    · simp [htaken]
  | publish g references =>
    have hact : SlotCall.act s (.publish g references) = ⟨g, false, some references⟩ :=
      if_pos (decide_eq_true hle)
    rw [hact]
    refine ⟨hgreatest, ?_, ?_⟩
    · simp [htaken, SlotCall.list?]
    · simp [htaken]

/-- **One more call** leaves a slot that shows what its history tells. -/
theorem step (h : s.Tells calls) (c : SlotCall) : (c.act s).Tells (calls ++ [c]) := by
  by_cases hc : c.UpToDate calls
  · exact h.accepted hc
  · rw [h.act_of_late hc]
    exact h.refused hc

end Tells

/-- A slot shows what its history tells. -/
theorem tells_after (calls : List SlotCall) : (fresh.after calls).Tells calls := by
  induction calls using List.reverseRecOn with
  | nil => exact tells_fresh
  | append_singleton calls c ih =>
    rw [after_concat]
    exact ih.step c

/-- **The history of a slot.** After any calls, for scans in any order, the generation is the
greatest number seen so far, and zero if there was none. A publication says that it was taken just
if its scan is no earlier than those of all calls before. The list shown is the one that was taken
last, and the slot is pending just if the last call that was not refused is a mark. A refused call
changes nothing. -/
theorem history (calls : List SlotCall) :
    IsGreatest {g | g = 0 ∨ ∃ c ∈ calls, c.generation = g} (fresh.after calls).generation ∧
    (∀ g references, (SlotCall.publish g references).answer? (fresh.after calls) = some true ↔
      ∀ c ∈ calls, c.generation ≤ g) ∧
    (fresh.after calls).references = ((taken calls).filterMap SlotCall.list?).getLast? ∧
    ((fresh.after calls).pending = true ↔ ∃ g, (taken calls).getLast? = some (.mark g)) ∧
    ∀ c : SlotCall, (∃ d ∈ calls, c.generation < d.generation) →
      fresh.after (calls ++ [c]) = fresh.after calls := by
  have h := tells_after calls
  refine ⟨h.generation, fun g references => ?_, h.references, h.pending, ?_⟩
  · rw [SlotCall.answer?, accepts, Option.some_inj, decide_eq_true_iff, h.generation_le_iff]
  · rintro c ⟨d, hd, hlt⟩
    rw [after_concat]
    exact h.act_of_late fun hc => absurd (hc d hd) (Nat.not_le.2 hlt)

example : fresh.after [.mark 2, .publish 1 [], .publish 2 [], .mark 1] = ⟨2, false, some []⟩ := rfl

end Slot

end KeyTrace
