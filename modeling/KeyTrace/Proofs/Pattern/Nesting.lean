import KeyTrace.Proofs.Pattern.Numbering

/-!
# Groups inside groups

Groups are numbered in the order in which they are opened, so that the numbers in an expression
ascend from left to right and from the outside to the inside. Simplifying an expression may leave
groups out, but keeps the others in this order.

A repetition notes its groups again in each round, and what is noted last counts. The span of an
inner group may so stem from an earlier round than that of the outer one, and of two groups side by
side the second one may have been noted first. Still spans never overlap in part: what is noted in a
round lies behind all that was noted before.

## Main definitions

* `Node.numbers`: the numbers of the groups in an expression.
* `Node.Encloses`: one group has another one in it.
* `Laid`: how the spans of groups lie.

## Main results

* `Pattern.numbers_of_readNode`: the numbers in what is read ascend.
* `Node.laid_of_match`: how the spans lie that a match notes.
-/

namespace KeyTrace

namespace Node

/-! ### Numbers -/

/-- The numbers of the groups in an expression, that of a group before those of the groups in it. -/
def numbers : Node → List Nat
  | group i b => i :: b.numbers
  | cat a b => a.numbers ++ b.numbers
  | alt a b => a.numbers ++ b.numbers
  | rep _ _ _ b => b.numbers
  | _ => []

theorem numbers_members (n : Node) : n.members.flatMap numbers = n.numbers := by
  induction n with
  | cat a b iha ihb => rw [members, List.flatMap_append, iha, ihb, numbers]
  | empty => rfl
  | _ => exact List.flatMap_singleton ..

theorem numbers_mergeTexts (nodes : List Node) :
    (mergeTexts nodes).flatMap numbers = nodes.flatMap numbers := by
  induction nodes with
  | nil => rfl
  | cons n rest ih =>
    rw [List.flatMap_cons, ← ih]
    cases n with
    | literal cs =>
      rw [mergeTexts]
      split
      · rename_i ds more hmerge
        rw [hmerge]
        rfl
      · rfl
    | _ => rfl

theorem numbers_cats (nodes : List Node) : (cats nodes).numbers = nodes.flatMap numbers := by
  induction nodes with
  | nil => rfl
  | cons n rest ih =>
    cases rest with
    | nil => exact (List.flatMap_singleton ..).symm
    | cons m more =>
      have hcats : cats (n :: m :: more) = cat n (cats (m :: more)) := rfl
      rw [hcats, numbers, ih]
      exact List.flatMap_cons.symm

/-- A simplified sequence has the numbers of its members. -/
theorem numbers_sequence (nodes : List Node) :
    (sequence nodes).numbers = nodes.flatMap numbers := by
  rw [sequence, numbers_cats, numbers_mergeTexts, List.flatMap_assoc]
  exact List.flatMap_congr fun n _ => numbers_members n

theorem numbers_of_atomic {n : Node} (h : n.Atomic) : n.numbers = [] := by
  cases h with
  | literal | look => rfl
  | ofClass k =>
    rw [ofClass]
    split <;> rfl

theorem numbers_branches (n : Node) : n.branches.flatMap numbers = n.numbers := by
  induction n with
  | alt a b iha ihb => rw [branches, List.flatMap_append, iha, ihb, numbers]
  | _ => exact List.flatMap_singleton ..

theorem numbers_alts (nodes : List Node) : (alts nodes).numbers = nodes.flatMap numbers := by
  induction nodes with
  | nil => rfl
  | cons n rest ih =>
    cases rest with
    | nil => exact (List.flatMap_singleton ..).symm
    | cons m more =>
      have halts : alts (n :: m :: more) = alt n (alts (m :: more)) := rfl
      rw [halts, numbers, ih]
      exact List.flatMap_cons.symm

/-- Taking out a common beginning leaves some of the numbers, in their order. -/
theorem numbers_front {lists : List (List Node)} (hne : lists ≠ []) {front : List Node}
    (h : ∀ l ∈ lists, front <+: l) :
    (front.flatMap numbers ++
      lists.flatMap fun l => (l.drop front.length).flatMap numbers).Sublist
      (lists.flatMap fun l => l.flatMap numbers) := by
  cases lists with
  | nil => exact absurd rfl hne
  | cons l rest =>
    obtain ⟨more, rfl⟩ := h l (List.mem_cons_self ..)
    have hrest : (rest.flatMap fun l => (l.drop front.length).flatMap numbers).Sublist
        (rest.flatMap fun l => l.flatMap numbers) :=
      .flatMap_right rest fun l _ => (List.drop_sublist _ l).flatMap numbers
    rw [List.flatMap_cons, List.flatMap_cons, List.drop_left, List.flatMap_append,
      ← List.append_assoc]
    exact (List.Sublist.refl _).append hrest

/-- A simplified choice has some of the numbers of its alternatives, in their order. -/
theorem numbers_choiceFrom (fuel : Nat) (nodes : List Node) :
    (choiceFrom fuel nodes).numbers.Sublist (nodes.flatMap numbers) := by
  induction fuel generalizing nodes with
  | zero => rw [choiceFrom, numbers_alts]
  | succ fuel ih =>
    have hbranches : (nodes.flatMap branches).flatMap numbers = nodes.flatMap numbers := by
      rw [List.flatMap_assoc]
      exact List.flatMap_congr fun n _ => numbers_branches n
    rw [← hbranches, choiceFrom]
    generalize nodes.flatMap branches = bs
    split
    · exact List.nil_sublist _
    · rw [List.flatMap_singleton]
    · split
      · rw [numbers_of_atomic (.ofClass _)]
        exact List.nil_sublist _
      · rw [numbers_of_atomic (.ofClass _)]
        exact List.nil_sublist _
      · rename_i lists _ _ hlists
        have hmembers : bs.flatMap numbers = lists.flatMap fun l => l.flatMap numbers := by
          rw [← map_eq_of_mapM_sequence? hlists, List.flatMap_map]
          exact List.flatMap_congr fun n _ => (numbers_members n).symm
        split
        · rw [numbers_alts]
        · rename_i hfront
          have hne : lists ≠ [] := by
            rintro rfl
            exact hfront rfl
          have hrest := ih (lists.map fun l => sequence (l.drop (sharedPrefixes lists).length))
          rw [List.flatMap_map, List.flatMap_congr fun l _ => numbers_sequence _] at hrest
          rw [numbers_sequence, List.flatMap_append, List.flatMap_singleton, hmembers]
          exact ((List.Sublist.refl _).append hrest).trans
            (numbers_front hne fun l => sharedPrefixes_prefix)
      · rw [numbers_alts]

theorem numbers_repeated (lo : Nat) (hi : Option Nat) (greedy : Bool) (b : Node) :
    (repeated lo hi greedy b).numbers.Sublist b.numbers := by
  rw [repeated]
  generalize (if b.zeroWidth then (min lo 1, some ((hi.getD 1).min 1)) else (lo, hi)) = bounds
  obtain ⟨lo', hi'⟩ := bounds
  dsimp only
  split
  · exact List.nil_sublist _
  · split
    · exact List.Sublist.refl _
    · exact List.Sublist.refl _

end Node

/-! ### Numbers are given in order -/

namespace Pattern

variable {st st' : ReadState} {s : List Char}

/-- The numbers in the items of a sequence and in the alternatives before it, as they were read. -/
def numbersIn (items branches : List Item) : List Nat :=
  (items ++ branches).reverse.flatMap fun a => a.node.numbers

theorem numbersIn_cons (a : Item) (items branches : List Item) :
    numbersIn (a :: items) branches = numbersIn items branches ++ a.node.numbers := by
  simp [numbersIn]

theorem numbers_sequence (items : List Item) :
    (sequence items).node.numbers.Sublist (items.flatMap fun a => a.node.numbers) := by
  unfold sequence
  split
  · rw [List.flatMap_singleton]
  · rw [Node.numbers_sequence, List.flatMap_map]
    exact (List.filter_sublist ..).flatMap _

theorem numbers_alternatives (branches : List Item) :
    (alternatives branches).node.numbers.Sublist (branches.flatMap fun a => a.node.numbers) := by
  unfold alternatives
  split
  · rw [List.flatMap_singleton]
  · have hchoice := Node.numbers_choiceFrom (Node.breadth (branches.map Item.node))
      (branches.map Item.node)
    rwa [List.flatMap_map] at hchoice

/-- A sequence that has come to its end has some of the numbers of its items, in their order. -/
theorem numbersIn_barred (items branches : List Item) :
    (numbersIn [] (sequence items.reverse :: branches)).Sublist (numbersIn items branches) := by
  have hsequence := numbers_sequence items.reverse
  rw [numbersIn, numbersIn, List.nil_append, List.reverse_cons, List.reverse_append,
    List.flatMap_append, List.flatMap_append, List.flatMap_singleton]
  exact (List.Sublist.refl _).append hsequence

namespace ReadState

theorem numbers_current (st : ReadState) :
    st.current.node.numbers.Sublist (numbersIn st.items st.branches) :=
  (numbers_alternatives _).trans (numbersIn_barred st.items st.branches)

/-- The numbers in what has been read, as they were read: that of an open group stands between what
comes before it and what is in it. -/
def numbers (st : ReadState) : List Nat :=
  (st.groups.reverse.flatMap fun g => numbersIn g.items g.branches ++ g.index.toList) ++
    numbersIn st.items st.branches

/-- The numbers in what has been read are some of those given so far, in order. -/
def InOrder (st : ReadState) : Prop := st.numbers.Sublist (List.range' 1 st.count)

namespace InOrder

theorem initial (ignoreCase : Bool) : (ReadState.initial ignoreCase).InOrder :=
  List.nil_sublist _

/-- What stands after the open groups may lose numbers. -/
theorem with_items (h : st.InOrder) {items branches : List Item}
    (hsub : (numbersIn items branches).Sublist (numbersIn st.items st.branches)) (flags : Flags) :
    { st with flags := flags, items := items, branches := branches }.InOrder :=
  List.Sublist.trans ((List.Sublist.refl _).append hsub) h

theorem cons_item (h : st.InOrder) {a : Item} (ha : a.node.numbers = []) (flags : Flags) :
    { st with flags := flags, items := a :: st.items }.InOrder := by
  refine h.with_items ?_ flags
  rw [numbersIn_cons, ha, List.append_nil]

theorem openGroup (h : st.InOrder) (flags : Flags) : (Pattern.openGroup st none flags).InOrder := by
  have hnumbers : (Pattern.openGroup st none flags).numbers = st.numbers := by
    simp [numbers, Pattern.openGroup, numbersIn]
  rw [InOrder, hnumbers]
  exact h

/-- The next number is given to the group that is opened. -/
theorem openNoted (h : st.InOrder) (names : List (List Char)) :
    { Pattern.openNoted st with names := names }.InOrder := by
  have hnumbers : { Pattern.openNoted st with names := names }.numbers =
      st.numbers ++ [st.count + 1] := by
    simp [numbers, Pattern.openNoted, Pattern.openGroup, numbersIn]
  have hrange : List.range' 1 (st.count + 1) = List.range' 1 st.count ++ [st.count + 1] := by
    rw [List.range'_concat, Nat.one_mul, Nat.add_comm]
  rw [InOrder, hnumbers]
  exact hrange ▸ h.append (List.Sublist.refl _)

theorem repeatLast (h : st.InOrder) {lo : Nat} {hi : Option Nat} {long : Bool}
    (hst : Pattern.repeatLast st lo hi long = some st') : st'.InOrder := by
  rw [Pattern.repeatLast] at hst
  split at hst
  · rename_i a rest hitems
    split at hst
    · obtain rfl := Option.some.inj hst
      refine h.with_items ?_ st.flags
      rw [hitems, numbersIn_cons, numbersIn_cons]
      exact (List.Sublist.refl _).append (Node.numbers_repeated ..)
    · cases hst
  · cases hst

theorem closeGroup (h : st.InOrder) (hst : Pattern.closeGroup st = some st') : st'.InOrder := by
  have hbody := numbers_current st
  rw [Pattern.closeGroup] at hst
  split at hst
  · cases hst
  · rename_i g groups hgroups
    obtain rfl := Option.some.inj hst
    refine List.Sublist.trans ?_ h
    rw [numbers, numbers, hgroups, List.reverse_cons, List.flatMap_append, List.flatMap_singleton,
      List.append_assoc, List.append_assoc, numbersIn_cons]
    refine (List.Sublist.refl _).append ((List.Sublist.refl _).append ?_)
    cases g.index with
    | none => exact hbody
    | some i => exact hbody.cons_cons i

/-- **Each step of reading** gives numbers in order. -/
theorem move (h : st.InOrder) (hm : ReadMove st st') : st'.InOrder := by
  cases hm with
  | same => exact h
  | noted => exact h.openNoted _
  | grouped => exact h.openGroup _
  | switched => exact h.cons_item rfl _
  | closed hclose => exact h.closeGroup hclose
  | barred => exact h.with_items (numbersIn_barred ..) st.flags
  | added hn => exact h.cons_item (Node.numbers_of_atomic hn) st.flags
  | repeated hrepeat => exact h.repeatLast hrepeat

end InOrder

end ReadState

/-- **The numbers in what is read** are some of those from one on, in order. -/
theorem numbers_of_readNode {ignoreCase : Bool} {node : Node} {groups : Nat}
    (h : readNode ignoreCase s = some (node, groups)) :
    node.numbers.Sublist (List.range' 1 groups) := by
  obtain ⟨st, horder, rfl, rfl⟩ := exists_state_of_readNode
    (ReadState.InOrder.initial ignoreCase) (fun hm horder => horder.move hm) h
  exact ((ReadState.numbers_current st).trans (List.sublist_append_right ..)).trans horder

end Pattern

/-! ### Spans do not overlap in part -/

namespace Node

/-- One group has another one in it. -/
def Encloses : Node → Nat → Nat → Prop
  | group i b, outer, inner => outer = i ∧ inner ∈ b.numbers ∨ b.Encloses outer inner
  | cat a b, outer, inner => a.Encloses outer inner ∨ b.Encloses outer inner
  | alt a b, outer, inner => a.Encloses outer inner ∨ b.Encloses outer inner
  | rep _ _ _ b, outer, inner => b.Encloses outer inner
  | _, _, _ => False

theorem Encloses.mem_numbers {n : Node} {outer inner : Nat} (h : n.Encloses outer inner) :
    outer ∈ n.numbers ∧ inner ∈ n.numbers := by
  induction n with
  | group i b ih =>
    rcases h with ⟨rfl, h⟩ | h
    · exact ⟨List.mem_cons_self .., List.mem_cons_of_mem _ h⟩
    · exact ⟨List.mem_cons_of_mem i (ih h).1, List.mem_cons_of_mem i (ih h).2⟩
  | cat a b iha ihb | alt a b iha ihb =>
    rcases h with h | h
    · exact ⟨List.mem_append_left _ (iha h).1, List.mem_append_left _ (iha h).2⟩
    · exact ⟨List.mem_append_right _ (ihb h).1, List.mem_append_right _ (ihb h).2⟩
  | rep _ _ _ b ih => exact ih h
  | _ => exact h.elim

/-- Where the numbers ascend, a group has the lesser number than those in it. -/
theorem Encloses.lt {n : Node} (hn : n.numbers.Pairwise (· < ·)) {outer inner : Nat}
    (h : n.Encloses outer inner) : outer < inner := by
  induction n with
  | group i b ih =>
    obtain ⟨hi, hb⟩ := List.pairwise_cons.1 hn
    rcases h with ⟨rfl, h⟩ | h
    · exact hi inner h
    · exact ih hb h
  | cat a b iha ihb | alt a b iha ihb =>
    obtain ⟨ha, hb, -⟩ := List.pairwise_append.1 hn
    exact h.elim (iha ha) (ihb hb)
  | rep _ _ _ b ih => exact ih hn h
  | _ => exact h.elim

end Node

namespace Slots

variable (s : Slots) (i j g g' : Nat)

/-- Where a group starts, seen from the end of some group: what was noted inside counts first. -/
theorem get?_start_close : get? ((2 * g + 1, j) :: (s ++ [(2 * g, i)])) (2 * g') =
    (s.get? (2 * g')).or (if g' = g then some i else none) := by
  have hstop : (2 * g' == 2 * g + 1) = false := beq_eq_false_iff_ne.2 (by omega)
  simp only [get?, List.lookup_cons, List.lookup_append, List.lookup_nil, hstop]
  by_cases hg : g' = g
  · simp [hg]
  · have hne : (2 * g' == 2 * g) = false := beq_eq_false_iff_ne.2 (by omega)
    simp [hne, hg]

/-- Where a group stops, seen from the end of some group. -/
theorem get?_stop_close : get? ((2 * g + 1, j) :: (s ++ [(2 * g, i)])) (2 * g' + 1) =
    if g' = g then some j else s.get? (2 * g' + 1) := by
  have hstart : (2 * g' + 1 == 2 * g) = false := beq_eq_false_iff_ne.2 (by omega)
  simp only [get?, List.lookup_cons, List.lookup_append, List.lookup_nil, hstart]
  by_cases hg : g' = g
  · simp [hg]
  · have hne : (2 * g' + 1 == 2 * g + 1) = false := beq_eq_false_iff_ne.2 (by omega)
    simp [hne, hg]

end Slots

/-- How the spans of groups lie, of which some enclose others, in what is noted between two
positions: only groups of the given numbers take part. With an inner group all those around it take
part and end no earlier, and the spans of groups side by side are apart. -/
structure Laid (encloses : Nat → Nat → Prop) (numbers : List Nat) (i j : Nat) (s : Slots) : Prop
    where
  notes : Notes i j s
  paired : ∀ g b, s.get? (2 * g + 1) = some b → ∃ a, s.get? (2 * g) = some a
  mem : ∀ g x, s.group? g = some x → g ∈ numbers
  nested : ∀ outer inner y, encloses outer inner → s.group? inner = some y →
    ∃ x, s.group? outer = some x ∧ y.stop ≤ x.stop
  apart : ∀ g h x y, g ≠ h → ¬encloses g h → ¬encloses h g → s.group? g = some x →
    s.group? h = some y → x.stop ≤ y.start ∨ y.stop ≤ x.start

namespace Laid

variable {encloses encloses' : Nat → Nat → Prop} {numbers numbers' : List Nat} {i j k : Nat}
  {s s' : Slots}

theorem nil (h : i ≤ j) : Laid encloses numbers i j [] := ⟨.nil h, nofun, nofun, nofun, nofun⟩

/-- What is laid out for some of the groups of an expression is laid out for all, if no others
enclose these. -/
theorem imp (h : Laid encloses numbers i j s) (hmem : numbers ⊆ numbers')
    (hsub : ∀ g h, encloses g h → encloses' g h)
    (hinner : ∀ g h, h ∈ numbers → encloses' g h → encloses g h) :
    Laid encloses' numbers' i j s where
  notes := h.notes
  paired := h.paired
  mem g x hx := hmem (h.mem g x hx)
  nested outer inner y henc hy := h.nested outer inner y (hinner _ _ (h.mem _ _ hy) henc) hy
  apart g g' x y hne hno hno' := h.apart g g' x y hne (mt (hsub _ _) hno) (mt (hsub _ _) hno')

/-- A group that takes part in a later piece of the notes is the one of this piece. -/
theorem group?_append (h : Laid encloses numbers j k s') (s : Slots) (g : Nat) :
    (s' ++ s).group? g = (s'.group? g).or (s.group? g) := by
  simp only [Slots.group?, Slots.get?, List.lookup_append]
  cases hstart : s'.lookup (2 * g) with
  | some a =>
    obtain ⟨b, hb, -⟩ := h.notes.closed g a hstart
    rw [Slots.get?] at hb
    rw [hb]
    rfl
  | none =>
    have hstop : s'.lookup (2 * g + 1) = none := by
      by_contra hne
      obtain ⟨b, hb⟩ := Option.ne_none_iff_exists'.1 hne
      obtain ⟨a, ha⟩ := h.paired g b hb
      cases ha.symm.trans hstart
    rw [hstop]
    rfl

theorem start_le (h : Laid encloses numbers i j s) {g : Nat} {x : Span}
    (hx : s.group? g = some x) : i ≤ x.start := by
  rw [Slots.group?] at hx
  split at hx
  · rename_i a b ha hb
    obtain rfl := Option.some.inj hx
    exact (h.notes.within_of_get? ha).1
  · cases hx

/-- **Notes of one piece of text after another.** -/
theorem append (h : Laid encloses numbers i j s) (h' : Laid encloses numbers j k s') :
    Laid encloses numbers i k (s' ++ s) where
  notes := h.notes.append h'.notes
  paired g b hb := by
    rw [Slots.get?, List.lookup_append] at hb
    rw [Slots.get?, List.lookup_append]
    rcases Option.or_eq_some_iff.1 hb with hb | ⟨-, hb⟩
    · obtain ⟨a, ha⟩ := h'.paired g b hb
      rw [Slots.get?] at ha
      exact ⟨a, by rw [ha, Option.some_or]⟩
    · obtain ⟨a, ha⟩ := h.paired g b hb
      rw [Slots.get?] at ha
      rw [ha]
      cases s'.lookup (2 * g) with
      | none => exact ⟨a, rfl⟩
      | some a' => exact ⟨a', rfl⟩
  mem g x hx := by
    rw [h'.group?_append] at hx
    exact (Option.or_eq_some_iff.1 hx).elim (h'.mem g x) fun hx => h.mem g x hx.2
  nested outer inner y henc hy := by
    rw [h'.group?_append] at hy
    rw [h'.group?_append]
    rcases Option.or_eq_some_iff.1 hy with hy | ⟨-, hy⟩
    · obtain ⟨x, hx, hle⟩ := h'.nested outer inner y henc hy
      exact ⟨x, by rw [hx, Option.some_or], hle⟩
    · obtain ⟨x, hx, hle⟩ := h.nested outer inner y henc hy
      cases hnew : s'.group? outer with
      | none => exact ⟨x, hx, hle⟩
      | some x' =>
        -- The outer group has been noted again, behind all that was noted before.
        have hbefore := h.notes.stop_le hy
        have hbehind := h'.start_le hnew
        have hspan := h'.notes.start_le_stop hnew
        exact ⟨x', rfl, by omega⟩
  apart g g' x y hne hno hno' hx hy := by
    rw [h'.group?_append] at hx hy
    rcases Option.or_eq_some_iff.1 hx with hx | ⟨-, hx⟩
    · rcases Option.or_eq_some_iff.1 hy with hy | ⟨-, hy⟩
      · exact h'.apart g g' x y hne hno hno' hx hy
      · exact Or.inr ((h.notes.stop_le hy).trans (h'.start_le hx))
    · rcases Option.or_eq_some_iff.1 hy with hy | ⟨-, hy⟩
      · exact Or.inl ((h.notes.stop_le hx).trans (h'.start_le hy))
      · exact h.apart g g' x y hne hno hno' hx hy

/-- A group that has just been closed has the span of all that is in it. -/
theorem group?_close (h : Laid encloses numbers i j s) {g : Nat} (hg : g ∉ numbers) (g' : Nat) :
    Slots.group? ((2 * g + 1, j) :: (s ++ [(2 * g, i)])) g' =
      if g' = g then some ⟨i, j⟩ else s.group? g' := by
  rw [Slots.group?, Slots.get?_start_close, Slots.get?_stop_close]
  by_cases hg' : g' = g
  · subst hg'
    have hnone : s.get? (2 * g') = none := by
      by_contra hne
      obtain ⟨a, ha⟩ := Option.ne_none_iff_exists'.1 hne
      obtain ⟨b, hb, -⟩ := h.notes.closed g' a ha
      refine hg (h.mem g' ⟨a, b⟩ ?_)
      rw [Slots.group?, hb, ha]
    rw [hnone, if_pos rfl, if_pos rfl, if_pos rfl, Option.none_or]
  · rw [if_neg hg', if_neg hg', if_neg hg', Option.or_none, Slots.group?]

/-- **A group around the others.** -/
theorem group (h : Laid encloses numbers i j s) {g : Nat} (hg : g ∉ numbers)
    (hmem : ∀ o n, encloses o n → o ∈ numbers ∧ n ∈ numbers) :
    Laid (fun o n => o = g ∧ n ∈ numbers ∨ encloses o n) (g :: numbers) i j
      ((2 * g + 1, j) :: (s ++ [(2 * g, i)])) where
  notes := h.notes.group g
  paired g' b hb := by
    rw [Slots.get?_stop_close] at hb
    rw [Slots.get?_start_close]
    split at hb
    · rename_i heq
      rw [if_pos heq]
      cases s.get? (2 * g') with
      | none => exact ⟨i, rfl⟩
      | some a => exact ⟨a, rfl⟩
    · obtain ⟨a, ha⟩ := h.paired g' b hb
      exact ⟨a, by rw [ha, Option.some_or]⟩
  mem g' x hx := by
    rw [h.group?_close hg] at hx
    split at hx
    · rename_i heq
      exact heq ▸ List.mem_cons_self ..
    · exact List.mem_cons_of_mem g (h.mem g' x hx)
  nested o n y henc hy := by
    have hn : n ≠ g := by
      rintro rfl
      rcases henc with ⟨-, hn⟩ | henc
      · exact hg hn
      · exact hg (hmem _ _ henc).2
    rw [h.group?_close hg, if_neg hn] at hy
    rw [h.group?_close hg]
    rcases henc with ⟨rfl, -⟩ | henc
    · exact ⟨_, if_pos rfl, h.notes.stop_le hy⟩
    · have ho : o ≠ g := by
        rintro rfl
        exact hg (hmem _ _ henc).1
      rw [if_neg ho]
      exact h.nested o n y henc hy
  apart g₁ g₂ x y hne hno hno' hx hy := by
    rw [h.group?_close hg] at hx hy
    split at hx
    · rename_i heq
      rw [if_neg (heq ▸ hne.symm)] at hy
      exact absurd (Or.inl ⟨heq, h.mem _ _ hy⟩) hno
    · split at hy
      · rename_i heq
        exact absurd (Or.inl ⟨heq, h.mem _ _ hx⟩) hno'
      · exact h.apart g₁ g₂ x y hne (mt Or.inr hno) (mt Or.inr hno') hx hy

/-- A part of an expression is laid out like the whole, the groups of its other part being
absent. -/
theorem left {a b : Node} (hn : (a.numbers ++ b.numbers).Nodup)
    (h : Laid a.Encloses a.numbers i j s) :
    Laid (fun g h => a.Encloses g h ∨ b.Encloses g h) (a.numbers ++ b.numbers) i j s := by
  obtain ⟨-, -, hdisjoint⟩ := List.nodup_append.1 hn
  refine h.imp (List.subset_append_left ..) (fun _ _ => Or.inl) fun g g' hg' henc => ?_
  exact henc.resolve_right fun henc => hdisjoint g' hg' g' henc.mem_numbers.2 rfl

theorem right {a b : Node} (hn : (a.numbers ++ b.numbers).Nodup)
    (h : Laid b.Encloses b.numbers i j s) :
    Laid (fun g h => a.Encloses g h ∨ b.Encloses g h) (a.numbers ++ b.numbers) i j s := by
  obtain ⟨-, -, hdisjoint⟩ := List.nodup_append.1 hn
  refine h.imp (List.subset_append_right ..) (fun _ _ => Or.inr) fun g g' hg' henc => ?_
  exact henc.resolve_left fun henc => hdisjoint g' henc.mem_numbers.2 g' hg' rfl

/-- Where outer groups have the lesser numbers, a group ends no later than one of a lesser number,
or begins behind it. -/
theorem stop_le_or (h : Laid encloses numbers i j s) (hlt : ∀ o n, encloses o n → o < n)
    {g g' : Nat} {x y : Span} (hg : g < g') (hx : s.group? g = some x) (hy : s.group? g' = some y) :
    y.stop ≤ x.stop ∨ x.stop ≤ y.start := by
  by_cases henc : encloses g g'
  · obtain ⟨x', hx', hle⟩ := h.nested g g' y henc hy
    obtain rfl := Option.some.inj (hx.symm.trans hx')
    exact Or.inl hle
  · have hno : ¬encloses g' g := fun henc' => absurd (hlt _ _ henc') (by omega)
    have hspan := h.notes.start_le_stop hx
    rcases h.apart g g' x y (by omega) henc hno hx hy with hle | hle
    · exact Or.inr hle
    · exact Or.inl (hle.trans hspan)

end Laid

/-- **How the spans lie that a match notes.** -/
theorem Node.laid_of_match {text : List Char} {n : Node} {x y : Nat × Slots}
    (hn : n.numbers.Nodup) (h : n.Match text x y) :
    ∃ s, y.2 = s ++ x.2 ∧ Laid n.Encloses n.numbers x.1 y.1 s := by
  induction n generalizing x y with
  | empty =>
    obtain rfl := h
    exact ⟨[], rfl, .nil (Nat.le_refl _)⟩
  | literal cs =>
    obtain ⟨-, rfl⟩ := h
    exact ⟨[], rfl, .nil (Nat.le_add_right ..)⟩
  | set k =>
    obtain ⟨-, rfl⟩ := h
    exact ⟨[], rfl, .nil (Nat.le_succ _)⟩
  | look l =>
    obtain ⟨-, rfl⟩ := h
    exact ⟨[], rfl, .nil (Nat.le_refl _)⟩
  | group i b ih =>
    obtain ⟨hi, hb⟩ := List.nodup_cons.1 hn
    obtain ⟨z, hz, rfl⟩ := h
    obtain ⟨s, hs, hlaid⟩ := ih hb hz
    exact ⟨_, by simp [hs], hlaid.group hi fun _ _ => Encloses.mem_numbers⟩
  | cat a b iha ihb =>
    obtain ⟨ha, hb, -⟩ := List.nodup_append.1 hn
    obtain ⟨z, hxz, hzy⟩ := h
    obtain ⟨s, hs, hlaid⟩ := iha ha hxz
    obtain ⟨s', hs', hlaid'⟩ := ihb hb hzy
    exact ⟨s' ++ s, by rw [hs', hs, List.append_assoc], (hlaid.left hn).append (hlaid'.right hn)⟩
  | alt a b iha ihb =>
    obtain ⟨ha, hb, -⟩ := List.nodup_append.1 hn
    rcases h with h | h
    · obtain ⟨s, hs, hlaid⟩ := iha ha h
      exact ⟨s, hs, hlaid.left hn⟩
    · obtain ⟨s, hs, hlaid⟩ := ihb hb h
      exact ⟨s, hs, hlaid.right hn⟩
  | rep lo hi greedy b ih =>
    obtain ⟨n, -, -, htimes⟩ := h
    induction n generalizing x with
    | zero =>
      obtain rfl := htimes
      exact ⟨[], rfl, .nil (Nat.le_refl _)⟩
    | succ n ihn =>
      obtain ⟨z, hz, hrest⟩ := htimes
      obtain ⟨s, hs, hlaid⟩ := ih hn hz
      obtain ⟨s', hs', hlaid'⟩ := ihn hrest
      exact ⟨s' ++ s, by rw [hs', hs, List.append_assoc], hlaid.append hlaid'⟩

end KeyTrace
