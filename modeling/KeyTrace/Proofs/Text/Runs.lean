import KeyTrace.Text.Runs
import Mathlib

/-!
# What runs cover

Membership stops at the first run that is past the character, so it is right only for runs in
ascending order. Bringing runs into order and putting neighbours together keeps what they cover, and
no run begins where none did before.

## Main definitions

* `Runs.Covers`: some run covers a code point.
* `Runs.Sorted`: runs in ascending order of their beginnings.
* `Runs.Proper`: sorted runs that begin with characters.

## Main results

* `Runs.hasCode_iff`: membership in sorted runs.
* `Runs.has_ofChars`, `Runs.has_unions`: the set of some characters, and the union of some sets.
-/

namespace KeyTrace

namespace Runs

variable {runs rest pairs : Runs} {a b n : Nat}

/-- Some run covers a code point. -/
def Covers (runs : Runs) (n : Nat) : Prop := ∃ p ∈ runs, p.1 ≤ n ∧ n ≤ p.2

/-- Runs in ascending order of their beginnings. -/
def Sorted (runs : Runs) : Prop := runs.Pairwise fun p q => p.1 ≤ q.1

/-- Sorted runs, each of which begins with a character. -/
structure Proper (runs : Runs) : Prop where
  sorted : Sorted runs
  valid : ∀ p ∈ runs, p.1.isValidChar

/-- It is enough to compare neighbours. -/
theorem sorted_iff_isChain : Sorted runs ↔ runs.IsChain fun p q => p.1 ≤ q.1 := by
  have htrans : IsTrans (Nat × Nat) fun p q => p.1 ≤ q.1 := ⟨fun _ _ _ => Nat.le_trans⟩
  exact List.isChain_iff_pairwise.symm

theorem covers_cons : Covers ((a, b) :: rest) n ↔ a ≤ n ∧ n ≤ b ∨ Covers rest n := by
  simp [Covers]

theorem covers_flatten {sets : List Runs} : Covers sets.flatten n ↔ ∃ r ∈ sets, Covers r n := by
  constructor
  · rintro ⟨p, hp, hn⟩
    obtain ⟨r, hr, hpr⟩ := List.mem_flatten.1 hp
    exact ⟨r, hr, p, hpr, hn⟩
  · rintro ⟨r, hr, p, hp, hn⟩
    exact ⟨p, List.mem_flatten.2 ⟨r, hr, hp⟩, hn⟩

/-- **Membership in sorted runs.** -/
theorem hasCode_iff (h : Sorted runs) : hasCode runs n = true ↔ Covers runs n := by
  induction runs with
  | nil => simp [hasCode, Covers]
  | cons p rest ih =>
    obtain ⟨a, b⟩ := p
    obtain ⟨hle, hrest⟩ := List.pairwise_cons.1 h
    rw [hasCode, covers_cons]
    split
    · rename_i hlt
      refine ⟨fun hfalse => absurd hfalse Bool.false_ne_true, ?_⟩
      rintro (⟨hn, -⟩ | ⟨q, hq, hn, -⟩)
      · omega
      · have := hle q hq
        dsimp only at this
        omega
    · split
      · rename_i hn hb
        exact ⟨fun _ => Or.inl ⟨Nat.le_of_not_lt hn, hb⟩, fun _ => rfl⟩
      · rename_i hb
        rw [ih hrest]
        exact ⟨Or.inr, fun h => h.resolve_left fun hn => hb hn.2⟩

/-! ### Putting runs together -/

theorem fst_of_mem_joinFrom {p : Nat × Nat} (h : p ∈ joinFrom a b rest) :
    ∃ q ∈ (a, b) :: rest, q.1 = p.1 := by
  induction rest generalizing a b with
  | nil =>
    obtain rfl := List.mem_singleton.1 h
    exact ⟨_, List.mem_cons_self .., rfl⟩
  | cons q rest ih =>
    obtain ⟨c, d⟩ := q
    rw [joinFrom] at h
    split at h
    · obtain ⟨q, hq, hfst⟩ := ih h
      rcases List.mem_cons.1 hq with rfl | hq
      · exact ⟨_, List.mem_cons_self .., hfst⟩
      · exact ⟨q, List.mem_cons_of_mem _ (List.mem_cons_of_mem _ hq), hfst⟩
    · rcases List.mem_cons.1 h with rfl | h
      · exact ⟨_, List.mem_cons_self .., rfl⟩
      · obtain ⟨q, hq, hfst⟩ := ih h
        exact ⟨q, List.mem_cons_of_mem _ hq, hfst⟩

theorem sorted_joinFrom (h : Sorted ((a, b) :: rest)) : Sorted (joinFrom a b rest) := by
  induction rest generalizing a b with
  | nil => exact List.pairwise_singleton _ _
  | cons q rest ih =>
    obtain ⟨c, d⟩ := q
    obtain ⟨hle, hrest⟩ := List.pairwise_cons.1 h
    rw [joinFrom]
    split
    · refine ih (List.pairwise_cons.2 ⟨fun p hp => ?_, (List.pairwise_cons.1 hrest).2⟩)
      exact hle p (List.mem_cons_of_mem _ hp)
    · refine List.pairwise_cons.2 ⟨fun p hp => ?_, ih hrest⟩
      obtain ⟨q, hq, hfst⟩ := fst_of_mem_joinFrom hp
      exact hfst ▸ hle q hq

theorem covers_joinFrom (h : Sorted ((a, b) :: rest)) :
    Covers (joinFrom a b rest) n ↔ Covers ((a, b) :: rest) n := by
  induction rest generalizing a b with
  | nil => rfl
  | cons q rest ih =>
    obtain ⟨c, d⟩ := q
    obtain ⟨hle, hrest⟩ := List.pairwise_cons.1 h
    have hac : a ≤ c := hle (c, d) (List.mem_cons_self ..)
    rw [joinFrom]
    split
    · have hjoined : Sorted ((a, max b d) :: rest) :=
        List.pairwise_cons.2 ⟨fun p hp => hle p (List.mem_cons_of_mem _ hp),
          (List.pairwise_cons.1 hrest).2⟩
      rw [ih hjoined, covers_cons, covers_cons, covers_cons, ← or_assoc]
      refine or_congr ?_ Iff.rfl
      omega
    · rw [covers_cons, ih hrest]
      exact covers_cons.symm

theorem sorted_join (h : Sorted runs) : Sorted (join runs) := by
  cases runs with
  | nil => exact .nil
  | cons p rest => exact sorted_joinFrom h

theorem covers_join (h : Sorted runs) : Covers (join runs) n ↔ Covers runs n := by
  cases runs with
  | nil => rfl
  | cons p rest => exact covers_joinFrom h

theorem sorted_mergeSort (pairs : Runs) : Sorted (pairs.mergeSort le) := by
  have htrans : ∀ p q r, le p q = true → le q r = true → le p r = true := by
    intro p q r hpq hqr
    simp only [le, Bool.or_eq_true, Bool.and_eq_true, decide_eq_true_eq, beq_iff_eq] at *
    omega
  have htotal : ∀ p q, (le p q || le q p) = true := by
    intro p q
    simp only [le, Bool.or_eq_true, Bool.and_eq_true, decide_eq_true_eq, beq_iff_eq]
    omega
  refine (List.pairwise_mergeSort htrans htotal pairs).imp fun {p q} hpq => ?_
  simp only [le, Bool.or_eq_true, Bool.and_eq_true, decide_eq_true_eq, beq_iff_eq] at hpq
  omega

/-- Runs in any order cover what they cover once they are in order and put together. -/
theorem hasCode_ofPairs : hasCode (ofPairs pairs) n = true ↔ Covers pairs n := by
  have hsorted := sorted_mergeSort pairs
  rw [ofPairs, hasCode_iff (sorted_join hsorted), covers_join hsorted]
  simp only [Covers, List.mem_mergeSort]

theorem proper_ofPairs (h : ∀ p ∈ pairs, p.1.isValidChar) : Proper (ofPairs pairs) where
  sorted := sorted_join (sorted_mergeSort pairs)
  valid p hp := by
    rw [ofPairs] at hp
    cases hsort : pairs.mergeSort le with
    | nil =>
      rw [hsort] at hp
      cases hp
    | cons q rest =>
      rw [hsort] at hp
      obtain ⟨r, hr, hfst⟩ := fst_of_mem_joinFrom hp
      rw [← hsort, List.mem_mergeSort] at hr
      exact hfst ▸ h r hr

/-! ### Sets -/

/-- **The set of some characters** has just these. -/
theorem has_ofChars {cs : List Char} {c : Char} : (ofChars cs).has c = true ↔ c ∈ cs := by
  rw [has, ofChars, ofCodes, hasCode_ofPairs, Covers]
  simp only [List.map_map, List.mem_map, Function.comp_apply, exists_exists_and_eq_and]
  constructor
  · rintro ⟨d, hd, hle, hge⟩
    obtain rfl := Char.toNat_inj.1 (Nat.le_antisymm hge hle)
    exact hd
  · exact fun hc => ⟨c, hc, Nat.le_refl _, Nat.le_refl _⟩

theorem proper_ofChars (cs : List Char) : Proper (ofChars cs) := by
  refine proper_ofPairs fun p hp => ?_
  rw [List.map_map, List.mem_map] at hp
  obtain ⟨c, -, rfl⟩ := hp
  exact c.valid

/-- **The union of some sets** has what one of them has. -/
theorem has_unions {sets : List Runs} (h : ∀ r ∈ sets, Sorted r) {c : Char} :
    (unions sets).has c = true ↔ ∃ r ∈ sets, r.has c = true := by
  rw [has, unions, hasCode_ofPairs, covers_flatten]
  exact exists_congr fun r => and_congr_right fun hr => (hasCode_iff (h r hr)).symm

theorem proper_unions {sets : List Runs} (h : ∀ r ∈ sets, Proper r) : Proper (unions sets) := by
  refine proper_ofPairs fun p hp => ?_
  obtain ⟨r, hr, hpr⟩ := List.mem_flatten.1 hp
  exact (h r hr).valid p hpr

/-- The only character of a set. -/
theorem has_of_single? (h : Proper runs) {c : Char} (hs : runs.single? = some c) {d : Char} :
    runs.has d = true ↔ d = c := by
  unfold single? at hs
  split at hs
  · rename_i a b
    split at hs
    · rename_i hab
      obtain rfl := Option.some.inj hs
      obtain rfl : a = b := by simpa using hab
      have hvalid : a.isValidChar := h.valid (a, a) (List.mem_singleton_self _)
      have hcode : (Char.ofNat a).toNat = a := by
        rw [Char.toNat_ofNat, if_pos hvalid]
      have hhas := has_single (Char.ofNat a) d
      rw [single, hcode] at hhas
      rw [hhas, decide_eq_true_eq]
    · cases hs
  · cases hs

end Runs

end KeyTrace
