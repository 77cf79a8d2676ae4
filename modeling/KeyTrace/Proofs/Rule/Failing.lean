import KeyTrace.Proofs.Rule.Insertion

/-!
# Rules that turn out not to compile

A search tries the rules for a file on each line that has the probe of the key, in their order and
until one matches. So a rule that does not compile for an entry is noticed only if its turn comes on
some line. This is said here without regard to what has been compiled before, and it is compared
for two rule sets of which one has a rule more that matches nothing.

## Main definitions

* `RuleSet.Fails`: a rule turns out not to compile when an entry is searched for.
* `RuleSet.moved`: the position of a rule once another one has been inserted.

## Main results

* `RuleSet.fails_moved`: what fails still fails when a rule is inserted that matches nothing.
* `RuleSet.exists_of_fails_insert`: nothing else fails, unless the rule makes more lines looked at.
* `RuleSet.length_le_of_fails`: how many rules fail.
-/

namespace KeyTrace

namespace RuleSet

variable {s s' : RuleSet} {before after : List Rule} {r : Rule} {limit : Nat} {e : Entry}
  {linesOf : SourceFile → List String} {files : List SourceFile} {n : Nat}

/-- No rule for an extension that comes before a position matches a line. -/
def NoneBefore (s : RuleSet) (limit : Nat) (e : Entry) (extension line : String) (n : Nat) : Prop :=
  ∀ i r, i < n → s.rule? i = some r → r.appliesTo extension = true →
    matchRule limit e r line = none

/-- A rule does not compile for an entry, and its turn comes on some line of some file. -/
def Fails (s : RuleSet) (limit : Nat) (e : Entry) (linesOf : SourceFile → List String)
    (files : List SourceFile) (n : Nat) : Prop :=
  ∃ r fault, s.rule? n = some r ∧
    LineMatcher.compile r e.container e.key limit = .error fault ∧
    ∃ f ∈ files, r.appliesTo f.extension = true ∧ ∃ line ∈ linesOf f,
      s.mentions f.extension e.key line = true ∧ s.NoneBefore limit e f.extension line n

/-- Only the lines of the files count. -/
theorem Fails.congr {linesOf' : SourceFile → List String} (h : ∀ f ∈ files, linesOf f = linesOf' f)
    (hf : s.Fails limit e linesOf files n) : s.Fails limit e linesOf' files n := by
  obtain ⟨r, fault, hr, hfault, f, hmem, happlies, line, hline, hrest⟩ := hf
  exact ⟨r, fault, hr, hfault, f, hmem, happlies, line, h f hmem ▸ hline, hrest⟩

/-! ### Positions -/

/-- The position of a rule once another one has been inserted at a position. -/
def moved (p n : Nat) : Nat := if n < p then n else n + 1

theorem moved_injective (p : Nat) : Function.Injective (moved p) := by
  intro a b h
  unfold moved at h
  split at h <;> split at h <;> omega

/-- The inserted rule stands between the others. -/
theorem exists_eq_moved {p : Nat} (h : n ≠ p) : ∃ i, n = moved p i := by
  rcases Nat.lt_or_gt_of_ne h with hlt | hgt
  · exact ⟨n, by rw [moved, if_pos hlt]⟩
  · exact ⟨n - 1, by rw [moved, if_neg (by omega)]; omega⟩

theorem moved_lt_moved {p i : Nat} : moved p i < moved p n ↔ i < n := by
  unfold moved
  split <;> split <;> omega

variable (h : s.rules = before ++ after) (h' : s'.rules = before ++ r :: after)
include h h'

theorem rule?_moved (n : Nat) : s'.rule? (moved before.length n) = s.rule? n := by
  rw [rule?, rule?, h, h', moved]
  split
  · rename_i hlt
    rw [List.getElem?_append_left hlt, List.getElem?_append_left hlt]
  · rename_i hge
    have hge : before.length ≤ n := Nat.le_of_not_lt hge
    rw [List.getElem?_append_right (Nat.le_succ_of_le hge), List.getElem?_append_right hge,
      Nat.succ_sub hge, List.getElem?_cons_succ]

omit h in
theorem rule?_inserted : s'.rule? before.length = some r := by
  rw [rule?, h', List.getElem?_append_right (Nat.le_refl _), Nat.sub_self, List.getElem?_cons_zero]

/-! ### A rule that matches nothing -/

variable (hr : ∀ line, matchRule limit e r line = none)
include hr

theorem noneBefore_moved {extension line : String} :
    s'.NoneBefore limit e extension line (moved before.length n) ↔
      s.NoneBefore limit e extension line n := by
  constructor
  · intro hnone i q hlt hq
    exact hnone _ q (moved_lt_moved.2 hlt) (by rwa [rule?_moved h h'])
  · intro hnone i q hlt hq happlies
    by_cases hi : i = before.length
    · rw [hi, rule?_inserted h'] at hq
      obtain rfl := Option.some.inj hq
      exact hr line
    · obtain ⟨i, rfl⟩ := exists_eq_moved hi
      rw [rule?_moved h h'] at hq
      exact hnone i q (moved_lt_moved.1 hlt) hq happlies

/-- **What fails still fails** when a rule is inserted that matches nothing. -/
theorem fails_moved (hf : s.Fails limit e linesOf files n) :
    s'.Fails limit e linesOf files (moved before.length n) := by
  obtain ⟨q, fault, hq, hfault, f, hmem, happlies, line, hline, hmentions, hnone⟩ := hf
  exact ⟨q, fault, (rule?_moved h h' n).trans hq, hfault, f, hmem, happlies, line, hline,
    mentions_insert h h' hmentions, (noneBefore_moved h h' hr).2 hnone⟩

/-- **Nothing fails but what failed before, and the rule itself**, if it does not ignore case. -/
theorem exists_of_fails_insert (hcase : r.caseSensitive = true)
    (hf : s'.Fails limit e linesOf files n) :
    n = before.length ∨ ∃ i, n = moved before.length i ∧ s.Fails limit e linesOf files i := by
  by_cases hn : n = before.length
  · exact Or.inl hn
  · obtain ⟨i, rfl⟩ := exists_eq_moved hn
    obtain ⟨q, fault, hq, hfault, f, hmem, happlies, line, hline, hmentions, hnone⟩ := hf
    rw [mentions_insert_of_caseSensitive h h' hcase] at hmentions
    exact Or.inr ⟨i, rfl, q, fault, (rule?_moved h h' i).symm.trans hq, hfault, f, hmem, happlies,
      line, hline, hmentions, (noneBefore_moved h h' hr).1 hnone⟩

/-- **How many rules fail**: no fewer with the rule than without, and at most one more if it does
not ignore case. -/
theorem length_le_of_fails {failed failed' : List Nat} (hnodup : failed.Nodup)
    (hnodup' : failed'.Nodup) (hfailed : ∀ n, n ∈ failed ↔ s.Fails limit e linesOf files n)
    (hfailed' : ∀ n, n ∈ failed' ↔ s'.Fails limit e linesOf files n) :
    failed.length ≤ failed'.length ∧
      (r.caseSensitive = true → failed'.length ≤ failed.length + 1) := by
  constructor
  · have hsub : failed.map (moved before.length) ⊆ failed' := by
      intro n hn
      obtain ⟨i, hi, rfl⟩ := List.mem_map.1 hn
      exact (hfailed' _).2 (fails_moved h h' hr ((hfailed i).1 hi))
    have hle := (List.subperm_of_subset (hnodup.map (moved_injective _)) hsub).length_le
    rwa [List.length_map] at hle
  · intro hcase
    have hsub : failed' ⊆ before.length :: failed.map (moved before.length) := by
      intro n hn
      rcases exists_of_fails_insert h h' hr hcase ((hfailed' n).1 hn) with rfl | ⟨i, rfl, hi⟩
      · exact List.mem_cons_self
      · exact List.mem_cons_of_mem _ (List.mem_map_of_mem ((hfailed i).2 hi))
    have hle := (List.subperm_of_subset hnodup' hsub).length_le
    rwa [List.length_cons, List.length_map] at hle

end RuleSet

end KeyTrace
