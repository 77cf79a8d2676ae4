import KeyTrace.Pattern.Search
import Mathlib

/-!
# What an expression matches

The meaning of an expression is a relation between places: from a position in the text, with what
has been noted so far, it leads to a later position, with what has been noted since. This says which
matches there are and which groups they note; it leaves open which of them is preferred.

Inside a group its start has been noted and its end has not, so that a span can be read off only
where no group is open. `Node.notes_of_match` says what has been noted by then: each group that has
been begun since is ended again, and not before its start.

## Main definitions

* `Node.Times`: a relation several times in a row.
* `Node.Match`: the meaning of an expression.
* `Notes`: what a match notes.

## Main results

* `Node.notes_of_match`: every match notes closed groups.
-/

namespace KeyTrace

namespace Node

/-- A relation so many times in a row. -/
def Times {α : Type} (R : α → α → Prop) : Nat → α → α → Prop
  | 0, x, y => y = x
  | n + 1, x, y => ∃ z, R x z ∧ Times R n z y

theorem Times.append {α : Type} {R : α → α → Prop} {m n : Nat} {x y z : α} (h : Times R m x y)
    (h' : Times R n y z) : Times R (m + n) x z := by
  induction m generalizing x with
  | zero =>
    obtain rfl := h
    rwa [Nat.zero_add]
  | succ m ih =>
    obtain ⟨w, hw, hrest⟩ := h
    rw [Nat.add_right_comm]
    exact ⟨w, hw, ih hrest⟩

theorem Times.split {α : Type} {R : α → α → Prop} {m n : Nat} {x z : α} (h : Times R (m + n) x z) :
    ∃ y, Times R m x y ∧ Times R n y z := by
  induction m generalizing x with
  | zero =>
    rw [Nat.zero_add] at h
    exact ⟨x, rfl, h⟩
  | succ m ih =>
    rw [Nat.add_right_comm] at h
    obtain ⟨w, hw, hrest⟩ := h
    obtain ⟨y, hy, hyz⟩ := ih hrest
    exact ⟨y, ⟨w, hw, hy⟩, hyz⟩

/-- The character before a position. -/
def before? (text : List Char) (pos : Nat) : Option Char :=
  if pos = 0 then none else text[pos - 1]?

/-- An expression leads from one place in a text to another. A repetition whose greatest number is
below its least one takes the least. -/
def Match (text : List Char) : Node → Nat × Slots → Nat × Slots → Prop
  | empty, x, y => y = x
  | literal cs, x, y => cs <+: text.drop x.1 ∧ y = (x.1 + cs.length, x.2)
  | set k, x, y => (∃ c, text[x.1]? = some c ∧ k.mem c = true) ∧ y = (x.1 + 1, x.2)
  | look l, x, y => l.holds (before? text x.1) text[x.1]? = true ∧ y = x
  | group i b, x, y =>
    ∃ z, b.Match text (x.1, (2 * i, x.1) :: x.2) z ∧ y = (z.1, (2 * i + 1, z.1) :: z.2)
  | cat a b, x, y => ∃ z, a.Match text x z ∧ b.Match text z y
  | alt a b, x, y => a.Match text x y ∨ b.Match text x y
  | rep lo hi _ b, x, y =>
    ∃ n, lo ≤ n ∧ (∀ h, hi = some h → n ≤ max lo h) ∧ Times (b.Match text) n x y

end Node

/-- What is noted on the way from one position to another, while no group is open at either. -/
structure Notes (start stop : Nat) (s : Slots) : Prop where
  le : start ≤ stop
  within : ∀ p ∈ s, start ≤ p.2 ∧ p.2 ≤ stop
  closed : ∀ g a, s.get? (2 * g) = some a → ∃ b, s.get? (2 * g + 1) = some b ∧ a ≤ b

namespace Notes

variable {i j k : Nat} {s s' : Slots}

theorem nil (h : i ≤ j) : Notes i j [] := ⟨h, nofun, nofun⟩

theorem within_of_get? (h : Notes i j s) {slot pos : Nat} (hs : s.get? slot = some pos) :
    i ≤ pos ∧ pos ≤ j := by
  obtain ⟨l₁, l₂, rfl, -⟩ := List.lookup_eq_some_iff.1 hs
  exact h.within (slot, pos) (by simp)

theorem append (h : Notes i j s) (h' : Notes j k s') : Notes i k (s' ++ s) where
  le := h.le.trans h'.le
  within p hp := by
    rcases List.mem_append.1 hp with hp | hp
    · exact ⟨h.le.trans (h'.within p hp).1, (h'.within p hp).2⟩
    · exact ⟨(h.within p hp).1, (h.within p hp).2.trans h'.le⟩
  closed g a ha := by
    rw [Slots.get?, List.lookup_append] at ha
    rw [Slots.get?, List.lookup_append]
    cases hnew : s'.lookup (2 * g) with
    | some a' =>
      rw [hnew, Option.some_or] at ha
      obtain rfl := Option.some.inj ha
      obtain ⟨b, hb, hle⟩ := h'.closed g a' hnew
      exact ⟨b, by rw [Slots.get?] at hb; rw [hb, Option.some_or], hle⟩
    | none =>
      rw [hnew, Option.none_or] at ha
      obtain ⟨b, hb, hle⟩ := h.closed g a ha
      cases hend : s'.lookup (2 * g + 1) with
      | some b' =>
        have := (h.within_of_get? ha).2
        have := (h'.within_of_get? hend).1
        exact ⟨b', Option.some_or, by omega⟩
      | none => exact ⟨b, by rw [Option.none_or]; exact hb, hle⟩

/-- A group is closed once its end has been noted. -/
theorem group (h : Notes i j s) (g : Nat) : Notes i j ((2 * g + 1, j) :: (s ++ [(2 * g, i)])) where
  le := h.le
  within p hp := by
    simp only [List.mem_cons, List.mem_append, List.not_mem_nil, or_false] at hp
    rcases hp with rfl | hp | rfl
    · exact ⟨h.le, Nat.le_refl _⟩
    · exact h.within p hp
    · exact ⟨Nat.le_refl _, h.le⟩
  closed g' a ha := by
    have hne : (2 * g' == 2 * g + 1) = false := beq_eq_false_iff_ne.2 (by omega)
    rw [Slots.get?, List.lookup_cons, hne, List.lookup_append] at ha
    by_cases hg : g' = g
    · subst hg
      refine ⟨j, by simp [Slots.get?], ?_⟩
      rcases Option.or_eq_some_iff.1 ha with ha | ⟨-, ha⟩
      · exact (h.within_of_get? ha).2
      · obtain rfl : i = a := by simpa using ha
        exact h.le
    · have hstart : (2 * g' == 2 * g) = false := beq_eq_false_iff_ne.2 (by omega)
      have hend : (2 * g' + 1 == 2 * g + 1) = false := beq_eq_false_iff_ne.2 (by omega)
      simp only [List.lookup_cons, hstart, List.lookup_nil, Option.or_none] at ha
      obtain ⟨b, hb, hle⟩ := h.closed g' a ha
      rw [Slots.get?] at hb
      exact ⟨b, by rw [Slots.get?, List.lookup_cons, hend, List.lookup_append, hb, Option.some_or],
        hle⟩

/-- The span of a group does not end before it starts. -/
theorem start_le_stop (h : Notes i j s) {g : Nat} {x : Span} (hx : s.group? g = some x) :
    x.start ≤ x.stop := by
  rw [Slots.group?] at hx
  split at hx
  · rename_i a b ha hb
    obtain rfl := Option.some.inj hx
    obtain ⟨b', hb', hle⟩ := h.closed g a ha
    obtain rfl := Option.some.inj (hb.symm.trans hb')
    exact hle
  · cases hx

theorem stop_le (h : Notes i j s) {g : Nat} {x : Span} (hx : s.group? g = some x) :
    x.stop ≤ j := by
  rw [Slots.group?] at hx
  split at hx
  · rename_i a b ha hb
    obtain rfl := Option.some.inj hx
    exact (h.within_of_get? hb).2
  · cases hx

end Notes

namespace Node

variable {text : List Char} {x y : Nat × Slots}

/-- **What a match notes** is a list of closed groups between its two positions. -/
theorem notes_of_match {n : Node} (h : n.Match text x y) :
    ∃ s, y.2 = s ++ x.2 ∧ Notes x.1 y.1 s := by
  induction n generalizing x y with
  | empty =>
    obtain rfl := h
    exact ⟨[], rfl, .nil (Nat.le_refl _)⟩
  | literal cs =>
    obtain ⟨-, rfl⟩ := h
    exact ⟨[], rfl, .nil (Nat.le_add_right ..)⟩
  | set k =>
    obtain ⟨-, rfl⟩ := h
    exact ⟨[], rfl, .nil (Nat.le_succ _)⟩
  | look l =>
    obtain ⟨-, rfl⟩ := h
    exact ⟨[], rfl, .nil (Nat.le_refl _)⟩
  | group i b ih =>
    obtain ⟨z, hz, rfl⟩ := h
    obtain ⟨s, hs, hn⟩ := ih hz
    exact ⟨_, by simp [hs], hn.group i⟩
  | cat a b iha ihb =>
    obtain ⟨z, ha, hb⟩ := h
    obtain ⟨s, hs, hn⟩ := iha ha
    obtain ⟨s', hs', hn'⟩ := ihb hb
    exact ⟨s' ++ s, by rw [hs', hs, List.append_assoc], hn.append hn'⟩
  | alt a b iha ihb => exact h.elim iha ihb
  | rep lo hi greedy b ih =>
    obtain ⟨n, -, -, hn⟩ := h
    induction n generalizing x with
    | zero =>
      obtain rfl := hn
      exact ⟨[], rfl, .nil (Nat.le_refl _)⟩
    | succ n ihn =>
      obtain ⟨z, hz, hrest⟩ := hn
      obtain ⟨s, hs, hnotes⟩ := ih hz
      obtain ⟨s', hs', hnotes'⟩ := ihn hrest
      exact ⟨s' ++ s, by rw [hs', hs, List.append_assoc], hnotes.append hnotes'⟩

/-- Where an expression matches does not depend on what has been noted before. -/
theorem Match.with_slots {n : Node} (h : n.Match text x y) (s : Slots) :
    ∃ t, n.Match text (x.1, s) (y.1, t) := by
  induction n generalizing x y s with
  | empty =>
    obtain rfl := h
    exact ⟨s, rfl⟩
  | literal cs =>
    obtain ⟨hcs, rfl⟩ := h
    exact ⟨s, hcs, rfl⟩
  | set k =>
    obtain ⟨hk, rfl⟩ := h
    exact ⟨s, hk, rfl⟩
  | look l =>
    obtain ⟨hl, rfl⟩ := h
    exact ⟨s, hl, rfl⟩
  | group i b ih =>
    obtain ⟨z, hz, rfl⟩ := h
    obtain ⟨t, ht⟩ := ih hz ((2 * i, x.1) :: s)
    exact ⟨(2 * i + 1, z.1) :: t, (z.1, t), ht, rfl⟩
  | cat a b iha ihb =>
    obtain ⟨z, ha, hb⟩ := h
    obtain ⟨t, ht⟩ := iha ha s
    obtain ⟨t', ht'⟩ := ihb hb t
    exact ⟨t', (z.1, t), ht, ht'⟩
  | alt a b iha ihb =>
    rcases h with h | h
    · obtain ⟨t, ht⟩ := iha h s
      exact ⟨t, Or.inl ht⟩
    · obtain ⟨t, ht⟩ := ihb h s
      exact ⟨t, Or.inr ht⟩
  | rep lo hi greedy b ih =>
    obtain ⟨n, hlo, hhi, hn⟩ := h
    suffices ∃ t, Times (b.Match text) n (x.1, s) (y.1, t) by
      obtain ⟨t, ht⟩ := this
      exact ⟨t, n, hlo, hhi, ht⟩
    clear hlo hhi
    induction n generalizing x s with
    | zero =>
      obtain rfl := hn
      exact ⟨s, rfl⟩
    | succ n ihn =>
      obtain ⟨z, hz, hrest⟩ := hn
      obtain ⟨t, ht⟩ := ih hz s
      obtain ⟨t', ht'⟩ := ihn t hrest
      exact ⟨t', (z.1, t), ht, ht'⟩

end Node

end KeyTrace
