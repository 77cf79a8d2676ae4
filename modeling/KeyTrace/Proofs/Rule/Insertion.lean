import KeyTrace.Proofs.Rule.Reference

/-!
# One more rule

What a rule set finds when a rule is added to it. Wherever the rule is put, no line stops being
looked at: it may cover more files, and if it ignores case, more lines of them mention the key. At
the end of the set it is tried last, and a rule that does not compile for an entry is passed over at
any place; in both cases a line in which something was found keeps its segments.

## Main results

* `RuleSet.mentions_insert`, `RuleSet.mentions_insert_of_caseSensitive`: the lines that are looked
  at.
* `RuleSet.references_sublist_append`: a rule at the end takes nothing away.
* `RuleSet.references_sublist_insert`, `RuleSet.references_insert_of_caseSensitive`: what a rule
  does that does not compile.
* `RuleSet.exists_rule_of_mem_references`: each reference is made by a rule.
-/

namespace KeyTrace

/-- Whatever one function yields along a list, another one yields as well that agrees with it. -/
theorem filterMap_sublist_filterMap {α β : Type} {f g : α → Option β}
    (h : ∀ a b, f a = some b → g a = some b) (s : List α) :
    (s.filterMap f).Sublist (s.filterMap g) := by
  induction s with
  | nil => exact .slnil
  | cons a rest ih =>
    rw [List.filterMap_cons, List.filterMap_cons]
    cases hf : f a with
    | none =>
      cases g a with
      | none => exact ih
      | some b => exact ih.cons b
    | some b =>
      rw [h a b hf]
      exact ih.cons_cons b

namespace RuleSet

variable {s s' : RuleSet} {before after : List Rule} {r : Rule} {limit : Nat} {e : Entry}

/-! ### The lines that are looked at -/

theorem ignoresCase_insert (h : s.rules = before ++ after) (h' : s'.rules = before ++ r :: after)
    (extension : String) :
    s'.ignoresCase extension =
      (s.ignoresCase extension || (r.appliesTo extension && !r.caseSensitive)) := by
  rw [ignoresCase, ignoresCase, h, h', List.any_append, List.any_append, List.any_cons,
    Bool.or_assoc, Bool.or_comm (after.any _)]

/-- A line that was looked at still is. -/
theorem mentions_insert (h : s.rules = before ++ after) (h' : s'.rules = before ++ r :: after)
    {extension key line : String} (hm : s.mentions extension key line = true) :
    s'.mentions extension key line = true := by
  unfold mentions at hm ⊢
  cases hp : Token.probe key.toList with
  | none => simp [hp] at hm
  | some p =>
    simp only [hp, List.any_eq_true, Bool.or_eq_true, Bool.and_eq_true] at hm ⊢
    obtain ⟨t, ht, hsame | ⟨hcase, hfold⟩⟩ := hm
    · exact ⟨t, ht, Or.inl hsame⟩
    · refine ⟨t, ht, Or.inr ⟨?_, hfold⟩⟩
      rw [ignoresCase_insert h h', hcase, Bool.true_or]

/-- A rule that does not ignore case makes no further lines looked at. -/
theorem mentions_insert_of_caseSensitive (h : s.rules = before ++ after)
    (h' : s'.rules = before ++ r :: after) (hr : r.caseSensitive = true)
    (extension key line : String) :
    s'.mentions extension key line = s.mentions extension key line := by
  have hcase : s'.ignoresCase extension = s.ignoresCase extension := by
    rw [ignoresCase_insert h h', hr, Bool.not_true, Bool.and_false, Bool.or_false]
  rw [mentions, mentions, hcase]

/-! ### The first match -/

/-- A rule at the end is tried when no other one matches. -/
theorem firstMatch_append (h : s'.rules = s.rules ++ [r]) {extension line : String}
    {segments : Segments} (hm : s.firstMatch limit e extension line = some segments) :
    s'.firstMatch limit e extension line = some segments := by
  unfold firstMatch at hm ⊢
  rw [h, List.filter_append, List.findSome?_append, hm, Option.some_or]

theorem matchRule_of_error {f : Failure}
    (h : LineMatcher.compile r e.container e.key limit = .error f) (line : String) :
    matchRule limit e r line = none := by
  rw [matchRule, h]
  rfl

/-- A rule that matches no line is as good as none. -/
theorem firstMatch_insert (h : s.rules = before ++ after) (h' : s'.rules = before ++ r :: after)
    (hr : ∀ line, matchRule limit e r line = none) (extension line : String) :
    s'.firstMatch limit e extension line = s.firstMatch limit e extension line := by
  rw [firstMatch, firstMatch, h, h', List.filter_append, List.filter_append, List.findSome?_append,
    List.findSome?_append, List.filter_cons]
  split
  · rw [List.findSome?_cons, hr]
  · rfl

/-! ### References -/

/-- More lines looked at, and the same segments in those that matched before: nothing is lost. -/
theorem references_sublist
    (hmentions : ∀ extension line, s.mentions extension e.key line = true →
      s'.mentions extension e.key line = true)
    (hfirst : ∀ extension line segments, s.firstMatch limit e extension line = some segments →
      s'.firstMatch limit e extension line = some segments)
    (linesOf : SourceFile → List String) (files : List SourceFile) :
    (s.references limit e linesOf files).Sublist (s'.references limit e linesOf files) := by
  refine List.Sublist.flatMap_right files fun f _ =>
    filterMap_sublist_filterMap (fun q reference hq => ?_) _
  dsimp only at hq ⊢
  split at hq
  · rename_i hm
    obtain ⟨segments, hsegments, rfl⟩ := Option.map_eq_some_iff.1 hq
    rw [if_pos (hmentions _ _ hm), hfirst _ _ _ hsegments]
    rfl
  · cases hq

/-- **A rule at the end takes nothing away.** -/
theorem references_sublist_append (h : s'.rules = s.rules ++ [r])
    (linesOf : SourceFile → List String) (files : List SourceFile) :
    (s.references limit e linesOf files).Sublist (s'.references limit e linesOf files) :=
  references_sublist (fun _ _ => mentions_insert (List.append_nil _).symm h)
    (fun _ _ _ => firstMatch_append h) linesOf files

/-- **A rule that matches nothing takes nothing away**, wherever it is put. -/
theorem references_sublist_insert (h : s.rules = before ++ after)
    (h' : s'.rules = before ++ r :: after) (hr : ∀ line, matchRule limit e r line = none)
    (linesOf : SourceFile → List String) (files : List SourceFile) :
    (s.references limit e linesOf files).Sublist (s'.references limit e linesOf files) :=
  references_sublist (fun _ _ => mentions_insert h h')
    (fun _ _ _ hm => (firstMatch_insert h h' hr _ _).trans hm) linesOf files

/-- It adds nothing either, unless it makes more lines looked at. -/
theorem references_insert_of_caseSensitive (h : s.rules = before ++ after)
    (h' : s'.rules = before ++ r :: after) (hr : ∀ line, matchRule limit e r line = none)
    (hcase : r.caseSensitive = true) (linesOf : SourceFile → List String)
    (files : List SourceFile) :
    s'.references limit e linesOf files = s.references limit e linesOf files := by
  refine List.flatMap_congr fun f _ => List.filterMap_congr fun q _ => ?_
  dsimp only
  rw [mentions_insert_of_caseSensitive h h' hcase, firstMatch_insert h h' hr]

/-- **Each reference is made by a rule of the set** that covers its file and matches its line. -/
theorem exists_rule_of_mem_references {linesOf : SourceFile → List String}
    {files : List SourceFile} {x : Reference} (hx : x ∈ s.references limit e linesOf files) :
    ∃ i r, s.rule? i = some r ∧ r.appliesTo x.file.extension = true ∧
      matchRule limit e r x.segments.line = some x.segments := by
  obtain ⟨f, -, hx⟩ := List.mem_flatMap.1 hx
  obtain ⟨-, line, -, hfile, -, hfirst⟩ := mem_referencesIn hx
  obtain ⟨r, hr, happlies, hmatch⟩ := exists_of_firstMatch hfirst
  obtain ⟨i, hi⟩ := List.mem_iff_getElem?.1 hr
  rw [hfile, line_of_firstMatch hfirst]
  exact ⟨i, r, hi, happlies, hmatch⟩

end RuleSet

end KeyTrace
