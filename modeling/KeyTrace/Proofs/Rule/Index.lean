import KeyTrace.Rule.Set
import Mathlib

/-!
# The index of a rule set

The index from extensions to rules says nothing but which rules cover an extension, in their order.
A rule that lists an extension several times stands in the index as often, which makes no
difference to what is tried first.

## Main definitions

* `RuleSet.covers`: whether some rule covers an extension.

## Main results

* `RuleSet.idsFor_eq`: the rules that cover an extension.
* `RuleSet.pairwise_le_idsFor`: they stand in their order.
* `RuleSet.isEmpty_idsFor`: no rule covers an extension.
* `RuleSet.findSome?_idsFor`: the first success among the rules that cover an extension.
-/

namespace KeyTrace

namespace RuleSet

/-- The positions noted for an extension. -/
def noted (index : List (String × List Nat)) (e : String) : List Nat := (index.lookup e).getD []

theorem noted_record (id : Nat) (ext e : String) (index : List (String × List Nat)) :
    noted (record id ext index) e = noted index e ++ if ext = e then [id] else [] := by
  induction index with
  | nil =>
    by_cases h : e = ext
    · simp [noted, record, h]
    · simp [noted, record, List.lookup_cons, beq_eq_false_iff_ne.2 h, Ne.symm h]
  | cons p rest ih =>
    obtain ⟨x, ids⟩ := p
    rw [record]
    by_cases hx : x = ext
    · subst hx
      by_cases he : e = x
      · subst he
        simp [noted]
      · simp [noted, List.lookup_cons, beq_eq_false_iff_ne.2 he, Ne.symm he]
    · rw [if_neg hx]
      by_cases he : e = x
      · subst he
        simp [noted, Ne.symm hx]
      · simpa [noted, List.lookup_cons, beq_eq_false_iff_ne.2 he] using ih

/-- A rule is noted for an extension as often as it lists it. -/
theorem noted_foldl_record (id : Nat) (e : String) (exts : List String)
    (index : List (String × List Nat)) :
    noted (exts.foldl (fun ix x => record id x ix) index) e =
      noted index e ++ List.replicate (exts.count e) id := by
  induction exts generalizing index with
  | nil => simp
  | cons x rest ih =>
    rw [List.foldl_cons, ih, noted_record, List.append_assoc, List.count_cons]
    by_cases h : x = e <;> simp [h, List.replicate_succ]

theorem noted_indexFrom (e : String) (rules : List Rule) (id : Nat)
    (index : List (String × List Nat)) :
    noted (indexFrom id index rules) e =
      noted index e ++
        (rules.zipIdx id).flatMap fun p => List.replicate (p.1.extensions.count e) p.2 := by
  induction rules generalizing id index with
  | nil => simp [indexFrom]
  | cons r rest ih =>
    rw [indexFrom, ih, noted_foldl_record, List.zipIdx_cons, List.flatMap_cons, List.append_assoc]

/-- The rules that cover an extension are those that list its normal form, in their order. -/
theorem idsFor_eq (s : RuleSet) {extension e : String}
    (h : Extension.normalize extension = some e) :
    s.idsFor extension =
      s.rules.zipIdx.flatMap fun p => List.replicate (p.1.extensions.count e) p.2 := by
  have hnoted := noted_indexFrom e s.rules 0 []
  rw [← s.index_eq] at hnoted
  rw [idsFor, h]
  exact hnoted

theorem mem_idsFor {s : RuleSet} {extension : String} {id : Nat} :
    id ∈ s.idsFor extension ↔ ∃ r, s.rule? id = some r ∧ r.appliesTo extension = true := by
  cases h : Extension.normalize extension with
  | none => simp [idsFor, Rule.appliesTo, h]
  | some e =>
    rw [idsFor_eq s h, List.mem_flatMap]
    simp only [Rule.appliesTo, h, List.contains_iff_mem, rule?]
    constructor
    · rintro ⟨⟨r, i⟩, hr, hid⟩
      obtain ⟨hcount, rfl⟩ := List.mem_replicate.1 hid
      exact ⟨r, by simpa [List.mem_zipIdx_iff_getElem?] using hr,
        List.count_pos_iff.1 (Nat.pos_of_ne_zero hcount)⟩
    · rintro ⟨r, hr, he⟩
      exact ⟨(r, id), by simpa [List.mem_zipIdx_iff_getElem?] using hr,
        List.mem_replicate.2 ⟨(List.count_pos_iff.2 he).ne', rfl⟩⟩

theorem pairwise_le_idsFor (s : RuleSet) (extension : String) :
    (s.idsFor extension).Pairwise (· ≤ ·) := by
  cases h : Extension.normalize extension with
  | none => simp [idsFor, h]
  | some e =>
    rw [idsFor_eq s h, List.pairwise_flatMap]
    have hidx : s.rules.zipIdx.Pairwise fun p q => p.2 < q.2 := by
      rw [← List.pairwise_map, List.zipIdx_map_snd]
      exact List.pairwise_lt_range'
    refine ⟨fun p _ => List.pairwise_replicate.2 (Or.inr (Nat.le_refl _)),
      hidx.imp fun {p q} hlt i hi j hj => ?_⟩
    rw [List.eq_of_mem_replicate hi, List.eq_of_mem_replicate hj]
    exact hlt.le

/-- Whether some rule covers an extension. -/
def covers (s : RuleSet) (extension : String) : Bool := s.rules.any fun r => r.appliesTo extension

theorem isEmpty_idsFor (s : RuleSet) (extension : String) :
    (s.idsFor extension).isEmpty = !s.covers extension := by
  rw [Bool.eq_iff_iff, List.isEmpty_iff, List.eq_nil_iff_forall_not_mem, Bool.not_eq_true',
    covers, List.any_eq_false]
  constructor
  · intro h r hr ha
    obtain ⟨id, hid⟩ := List.mem_iff_getElem?.1 hr
    exact h id (mem_idsFor.2 ⟨r, hid, ha⟩)
  · intro h id hid
    obtain ⟨r, hr, ha⟩ := mem_idsFor.1 hid
    exact h r (List.mem_of_getElem? hr) ha

/-- The first success among the rules that cover an extension: each of them need be tried once, in
the order of the set. -/
theorem findSome?_idsFor {β : Type} (s : RuleSet) (extension : String) (f : Nat → Option β) :
    (s.idsFor extension).findSome? f =
      (s.rules.zipIdx.filter fun p => p.1.appliesTo extension).findSome? fun p => f p.2 := by
  cases h : Extension.normalize extension with
  | none => simp [idsFor, Rule.appliesTo, h]
  | some e =>
    rw [idsFor_eq s h]
    simp only [Rule.appliesTo, h]
    induction s.rules.zipIdx with
    | nil => rfl
    | cons p rest ih =>
      rw [List.flatMap_cons, List.findSome?_append, ih, List.filter_cons]
      cases hcount : p.1.extensions.count e with
      | zero =>
        have hnot : e ∉ p.1.extensions := List.count_eq_zero.1 hcount
        simp [hnot]
      | succ n =>
        have hmem : e ∈ p.1.extensions := List.count_pos_iff.1 (by omega)
        simp only [List.contains_iff_mem.2 hmem, if_true, List.findSome?_cons]
        cases hf : f p.2 with
        | some b => simp [List.replicate_succ, hf]
        | none =>
          have : (List.replicate (n + 1) p.2).findSome? f = none := by
            simpa [List.findSome?_eq_none_iff] using hf
          rw [this, Option.none_or]

end RuleSet

end KeyTrace
