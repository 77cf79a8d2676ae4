import KeyTrace.Proofs.Pattern.Found
import KeyTrace.Rule.LineMatcher

/-!
# Segments make up the line

A line is cut at spans that follow each other, so its segments put together are the line again. The
spans of groups do follow each other once those that start inside an earlier one are dropped;
taking off the space that was put before the line keeps their order.

## Main definitions

* `Segments.Chain`: spans that follow each other.

## Main results

* `Segments.line_cut`: the segments of a line make up the line.
* `LineMatcher.line_of_apply`: so do those of a line that a compiled rule matches.
-/

namespace KeyTrace

namespace Segments

/-- Spans follow each other from a position on. -/
def Chain (cursor : Nat) : List Span → Prop
  | [] => True
  | s :: rest => cursor ≤ s.start ∧ s.start ≤ s.stop ∧ Chain s.stop rest

theorem toList_slice (line : List Char) {start stop : Nat} (h : start ≤ stop) :
    (slice line start stop).toList ++ line.drop stop = line.drop start := by
  have hdrop : line.drop stop = (line.drop start).drop (stop - start) := by
    rw [List.drop_drop, Nat.add_sub_cancel' h]
  rw [slice, String.toList_ofList, hdrop, List.take_append_drop]

theorem toList_line_cutFrom (line : List Char) {cursor : Nat} {spans : List Span}
    (h : Chain cursor spans) :
    (cutFrom line cursor spans).flatMap String.toList = line.drop cursor := by
  induction spans generalizing cursor with
  | nil => simp [cutFrom]
  | cons s rest ih =>
    obtain ⟨hstart, hstop, hrest⟩ := h
    rw [cutFrom, List.flatMap_cons, List.flatMap_cons, ih hrest, toList_slice line hstop,
      toList_slice line hstart]

/-- **The segments of a line make up the line.** -/
theorem line_cut (line : String) {spans : List Span} (h : Chain 0 spans) :
    (cut line.toList spans).line = line := by
  rw [Segments.line, ← String.toList_inj, String.toList_join, cut, toList_line_cutFrom _ h,
    List.drop_zero]

/-- Spans that follow each other still do so where positions are moved without changing their
order. -/
theorem Chain.map {f : Nat → Nat} (hf : ∀ a b, a ≤ b → f a ≤ f b) {cursor : Nat}
    {spans : List Span} (h : Chain cursor spans) :
    Chain (f cursor) (spans.map fun s => ⟨f s.start, f s.stop⟩) := by
  induction spans generalizing cursor with
  | nil => trivial
  | cons s rest ih =>
    obtain ⟨hstart, hstop, hrest⟩ := h
    exact ⟨hf _ _ hstart, hf _ _ hstop, ih hrest⟩

end Segments

namespace LineMatcher

theorem chain_outermost (cursor : Nat) {groups : List Span} (h : ∀ g ∈ groups, g.start ≤ g.stop) :
    Segments.Chain cursor (outermost cursor groups) := by
  induction groups generalizing cursor with
  | nil => trivial
  | cons g rest ih =>
    have hrest : ∀ g' ∈ rest, g'.start ≤ g'.stop := fun g' hg' => h g' (List.mem_cons_of_mem _ hg')
    rw [outermost]
    split
    · rename_i hle
      exact ⟨hle, h g (List.mem_cons_self ..), ih g.stop hrest⟩
    · exact ih cursor hrest

theorem toLine_mono (line : List Char) (a b : Nat) (h : a ≤ b) : toLine line a ≤ toLine line b := by
  rw [toLine, toLine]
  omega

/-- The spans that are kept, taken back to the line, follow each other. -/
theorem chain_kept (line : List Char) {whole : Span} {groups : List Span}
    (hwhole : whole.start ≤ whole.stop) (hgroups : ∀ g ∈ groups, g.start ≤ g.stop) :
    Segments.Chain 0 ((match outermost 0 groups with
      | [] => [whole]
      | kept => kept).map fun s : Span => ⟨toLine line s.start, toLine line s.stop⟩) := by
  have hzero : toLine line 0 = 0 := Nat.zero_min _
  rw [← hzero]
  refine Segments.Chain.map (toLine_mono line) ?_
  split
  · exact ⟨Nat.zero_le _, hwhole, trivial⟩
  · exact chain_outermost 0 hgroups

theorem closest_mem (offsets : Array Nat) (others : List Span) (first : Span) (rest : List Span) :
    closest offsets others first rest ∈ first :: rest := by
  rw [closest]
  generalize (fun s => (nearest others (toBytes offsets s)).getD 0) = key
  suffices h : ∀ best : Span × Nat,
      (rest.foldl (fun (best : Span × Nat) s => if key s < best.2 then (s, key s) else best)
        best).1 ∈ best.1 :: rest from h (first, key first)
  induction rest with
  | nil => exact fun best => List.mem_singleton_self _
  | cons s rest ih =>
    intro best
    rw [List.foldl_cons]
    split
    · exact List.mem_cons_of_mem _ (ih (s, key s))
    · rcases List.mem_cons.1 (ih best) with h | h
      · exact h ▸ List.mem_cons_self ..
      · exact List.mem_cons_of_mem _ (List.mem_cons_of_mem _ h)

/-- The span that is chosen is one of those to choose from. -/
theorem chosen_mem (offsets : Array Nat) (others : List Span) (first : Span) (rest : List Span) :
    (if others.isEmpty then first else closest offsets others first rest) ∈ first :: rest := by
  split
  · exact List.mem_cons_self ..
  · exact closest_mem offsets others first rest

variable {m : LineMatcher} {line : String} {segments : Segments}

theorem line_of_applyLiteral {key : Pattern} {node : Node} (hp : key.program = .ofNode node)
    {container : Option Pattern} (h : m.applyLiteral key container line.toList = some segments) :
    segments.line = line := by
  rw [applyLiteral] at h
  split at h
  · cases h
  · rename_i first rest hspans
    have hmem : ∀ s ∈ first :: rest, s.start ≤ s.stop := by
      intro s hs
      rw [← hspans] at hs
      exact (Pattern.within_of_findAll hp (List.mem_filter.1 hs).1).start_le_stop
    obtain rfl := Option.some.inj h
    exact Segments.line_cut line ⟨Nat.zero_le _, hmem _ (chosen_mem ..), trivial⟩

theorem line_of_applyTemplate {pattern : Pattern} {node : Node}
    (hp : pattern.program = .ofNode node)
    (h : m.applyTemplate pattern line.toList = some segments) : segments.line = line := by
  rw [applyTemplate] at h
  split at h
  · cases h
  · rename_i whole groups hfind
    obtain ⟨hwhole, hgroups⟩ := Pattern.within_of_find? hp hfind
    split at h
    · cases h
    · obtain rfl := Option.some.inj h
      exact Segments.line_cut line
        (chain_kept line.toList hwhole.start_le_stop fun g hg => (hgroups g hg).start_le_stop)

/-- What a compiled rule looks for was made of expressions. -/
theorem exists_of_compile {r : Rule} {container key : String} {limit : Nat}
    (h : compile r container key limit = .ok m) :
    (∃ k c node, r.pattern = none ∧ m.sought = .literal k c ∧ k.program = .ofNode node ∧
        ∀ c', c = some c' → ∃ node, c'.program = .ofNode node) ∨
      ∃ template p node groups, r.pattern = some template ∧ m.sought = .template p ∧
        Pattern.readNode (!r.caseSensitive) (Template.expand template container key).toList =
          some (node, groups) ∧ p.program = .ofNode node := by
  rw [compile] at h
  split at h
  · rename_i hnone
    split at h
    · cases h
    · rename_i k hk
      obtain ⟨node, -, hnode⟩ := Pattern.exists_of_compile hk
      split at h
      · obtain rfl := Except.ok.inj h
        exact Or.inl ⟨k, none, node, hnone, rfl, hnode, nofun⟩
      · split at h
        · cases h
        · rename_i c hc
          obtain ⟨node', -, hnode'⟩ := Pattern.exists_of_compile hc
          obtain rfl := Except.ok.inj h
          refine Or.inl ⟨k, some c, node, hnone, rfl, hnode, fun c' hc' => ?_⟩
          obtain rfl := Option.some.inj hc'
          exact ⟨node', hnode'⟩
  · rename_i template htemplate
    split at h
    · cases h
    · rename_i p hp
      obtain ⟨node, hread, hnode⟩ := Pattern.exists_of_compile hp
      obtain rfl := Except.ok.inj h
      exact Or.inr ⟨template, p, node, p.groups, htemplate, rfl, hread, hnode⟩

/-- **The segments of a line that a compiled rule matches make up the line.** -/
theorem line_of_apply {r : Rule} {container key : String} {limit : Nat}
    (hm : compile r container key limit = .ok m) (h : m.apply line = some segments) :
    segments.line = line := by
  rw [apply] at h
  rcases exists_of_compile hm with ⟨k, c, node, -, hs, hp, -⟩ | ⟨_, p, node, _, -, hs, -, hp⟩
  · rw [hs] at h
    exact line_of_applyLiteral hp h
  · rw [hs] at h
    exact line_of_applyTemplate hp h

end LineMatcher

end KeyTrace
