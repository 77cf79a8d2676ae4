import KeyTrace.Proofs.Pattern.Language
import KeyTrace.Proofs.Pattern.Reading
import KeyTrace.Proofs.Pattern.Leftmost

/-!
# Groups are numbered from one

Group zero is the match as a whole. No group inside an expression that was read has this number, so
that nothing inside overwrites what is noted for the whole match: its span begins where the match
begins.

Expressions are read by way of the functions that simplify them. A property that an expression has
just if its parts have it survives all of these, and so holds of everything that is read
(`Pattern.hereditary_of_readNode`).

## Main definitions

* `Node.Hereditary`: properties that expressions share with their parts.
* `Pattern.ReadMove`: what one step of reading can do.
* `Node.Numbered`: all groups in an expression are numbered from one.

## Main results

* `Pattern.exists_state_of_readNode`: what is read has all that each step of reading keeps.
* `Pattern.hereditary_of_readNode`: what is read has every hereditary property.
* `Pattern.find?_eq_none_iff`, `Pattern.isLeast_of_find?`: a compiled pattern finds the leftmost
  match, if there is any.
-/

namespace KeyTrace

namespace Node

/-- A property that an expression has just if its parts have it, and that is not in the way of
characters, assertions, repetitions and groups numbered from one. -/
structure Hereditary (P : Node → Prop) : Prop extends Sequential P where
  set : ∀ k, P (set k)
  look : ∀ l, P (look l)
  alt : ∀ a b, P (alt a b) ↔ P a ∧ P b
  rep : ∀ lo hi greedy b, P b → P (rep lo hi greedy b)
  group : ∀ i b, 0 < i → P b → P (group i b)

/-- An expression without parts of its own. -/
inductive Atomic : Node → Prop
  | literal (cs : List Char) : Atomic (literal cs)
  | ofClass (k : CharClass) : Atomic (ofClass k)
  | look (l : Look) : Atomic (look l)

namespace Hereditary

variable {P : Node → Prop} (hP : Hereditary P)

include hP

theorem atomic {n : Node} (h : n.Atomic) : P n := by
  cases h with
  | literal cs => exact hP.literal cs
  | look l => exact hP.look l
  | ofClass k =>
    rw [Node.ofClass]
    split
    · exact hP.literal _
    · exact hP.set k

theorem of_mem_branches {n b : Node} (h : P n) (hb : b ∈ n.branches) : P b := by
  induction n with
  | alt a c iha ihc =>
    obtain ⟨ha, hc⟩ := (hP.alt a c).1 h
    rcases List.mem_append.1 hb with hb | hb
    · exact iha ha hb
    · exact ihc hc hb
  | _ =>
    obtain rfl := List.mem_singleton.1 hb
    exact h

theorem alts {nodes : List Node} (h : ∀ n ∈ nodes, P n) : P (alts nodes) := by
  induction nodes with
  | nil => exact hP.set CharClass.none
  | cons n rest ih =>
    have hn := h n (List.mem_cons_self ..)
    cases rest with
    | nil => exact hn
    | cons m more => exact (hP.alt n _).2 ⟨hn, ih fun n hn => h n (List.mem_cons_of_mem _ hn)⟩

theorem choiceFrom (fuel : Nat) {nodes : List Node} (h : ∀ n ∈ nodes, P n) :
    P (choiceFrom fuel nodes) := by
  induction fuel generalizing nodes with
  | zero => exact hP.alts h
  | succ fuel ih =>
    have hbranches : ∀ b ∈ nodes.flatMap branches, P b := by
      intro b hb
      obtain ⟨n, hn, hb⟩ := List.mem_flatMap.1 hb
      exact hP.of_mem_branches (h n hn) hb
    rw [Node.choiceFrom]
    generalize nodes.flatMap branches = bs at hbranches
    split
    · exact hP.set CharClass.none
    · exact hbranches _ (List.mem_singleton_self _)
    · split
      · exact hP.atomic (.ofClass _)
      · exact hP.atomic (.ofClass _)
      · rename_i lists _ _ hlists
        have hmembers : ∀ l ∈ lists, ∀ m ∈ l, P m := by
          intro l hl m hm
          rw [← map_eq_of_mapM_sequence? hlists] at hl
          obtain ⟨b, hb, rfl⟩ := List.mem_map.1 hl
          exact hP.of_mem_members (hbranches b hb) hm
        split
        · exact hP.alts hbranches
        · -- A common beginning and what is left of each sequence have members of the branches only.
          refine hP.sequence fun n hn => ?_
          rcases List.mem_append.1 hn with hn | hn
          · cases lists with
            | nil => cases hn
            | cons l lists =>
              have hfront := sharedPrefixes_prefix (List.mem_cons_self .. : l ∈ l :: lists)
              exact hmembers l (List.mem_cons_self ..) n (hfront.subset hn)
          · obtain rfl := List.mem_singleton.1 hn
            refine ih fun n hn => ?_
            obtain ⟨l, hl, rfl⟩ := List.mem_map.1 hn
            exact hP.sequence fun m hm => hmembers l hl m (List.mem_of_mem_drop hm)
      · exact hP.alts hbranches

theorem choice {nodes : List Node} (h : ∀ n ∈ nodes, P n) : P (choice nodes) :=
  hP.choiceFrom _ h

theorem repeated (lo : Nat) (hi : Option Nat) (greedy : Bool) {b : Node} (h : P b) :
    P (repeated lo hi greedy b) := by
  rw [Node.repeated]
  generalize (if b.zeroWidth then (min lo 1, some ((hi.getD 1).min 1)) else (lo, hi)) = bounds
  obtain ⟨lo', hi'⟩ := bounds
  dsimp only
  split
  · exact hP.empty
  · split
    · exact h
    · exact hP.rep _ _ _ _ h

end Hereditary

end Node

namespace Pattern

/-! ### Reading -/

/-- All that has been read has a property, and the groups that are open are numbered from one. -/
structure ReadState.All (P : Node → Prop) (st : ReadState) : Prop where
  items : ∀ a ∈ st.items, P a.node
  branches : ∀ a ∈ st.branches, P a.node
  groups : ∀ g ∈ st.groups, (∀ i, g.index = some i → 0 < i) ∧ (∀ a ∈ g.items, P a.node) ∧
    ∀ a ∈ g.branches, P a.node

variable {P : Node → Prop} {st st' : ReadState} {s rest : List Char}

/-- Repetition signs repeat the last item. -/
theorem exists_repeat_of_readRepeat {lo : Nat} {hi : Option Nat}
    (h : readRepeat st lo hi s = some (st', rest)) :
    ∃ lo hi long, repeatLast st lo hi long = some st' := by
  unfold readRepeat at h
  split at h
  all_goals
    obtain ⟨st₁, hst₁, heq⟩ := Option.map_eq_some_iff.1 h
    obtain ⟨rfl, -⟩ := Prod.mk.inj heq
    exact ⟨_, _, _, hst₁⟩

/-- Counts between braces repeat the last item. -/
theorem exists_repeat_of_readBraces (h : readBraces st s = some (st', rest)) :
    ∃ lo hi long, repeatLast st lo hi long = some st' := by
  have hmap : ∀ {lo : Nat} {hi : Option Nat} {long : Bool} {left : List Char},
      (repeatLast st lo hi long).map (fun st => (st, left)) = some (st', rest) →
        ∃ lo hi long, repeatLast st lo hi long = some st' := by
    intro lo hi long left h
    obtain ⟨st₁, hst₁, heq⟩ := Option.map_eq_some_iff.1 h
    obtain ⟨rfl, -⟩ := Prod.mk.inj heq
    exact ⟨_, _, _, hst₁⟩
  unfold readBraces at h
  dsimp only at h
  obtain ⟨⟨lo, left⟩, -, h⟩ := Option.bind_eq_some_iff.1 h
  obtain ⟨lo, -, h⟩ := Option.bind_eq_some_iff.1 h
  repeat' split at h
  all_goals first
    | exact hmap h
    | cases h
    | skip
  -- What is left is the case of two counts.
  obtain ⟨⟨hi, left⟩, -, h⟩ := Option.bind_eq_some_iff.1 h
  obtain ⟨hi, -, h⟩ := Option.bind_eq_some_iff.1 h
  repeat' split at h
  all_goals first
    | exact hmap h
    | cases h

/-- An opening parenthesis opens a group that is noted under the next number, opens one that is not
noted, or turns switches. -/
theorem cases_of_readOpening (h : readOpening st s = some (st', rest)) :
    (∃ names, st' = { openNoted st with names := names }) ∨
      (∃ flags, st' = openGroup st none flags) ∨
      ∃ flags, st' = { st with flags := flags, items := ⟨.empty, 0, false⟩ :: st.items } := by
  have hnamed : ∀ {s : List Char}, openNamed st s = some (st', rest) →
      ∃ names, st' = { openNoted st with names := names } := by
    intro s h
    obtain ⟨⟨name, left⟩, -, h⟩ := Option.bind_eq_some_iff.1 h
    dsimp only at h
    split at h
    · cases h
    · exact ⟨_, (Prod.mk.inj (Option.some.inj h)).1.symm⟩
  unfold readOpening at h
  split at h
  · cases h
  · cases h
  · cases h
  · cases h
  · exact Or.inl (hnamed h)
  · exact Or.inl (hnamed h)
  · dsimp only at h
    obtain ⟨flags, -, h⟩ := Option.bind_eq_some_iff.1 h
    split at h
    · exact Or.inr (Or.inl ⟨flags, (Prod.mk.inj (Option.some.inj h)).1.symm⟩)
    · split at h
      · cases h
      · exact Or.inr (Or.inr ⟨flags, (Prod.mk.inj (Option.some.inj h)).1.symm⟩)
    · cases h
  · exact Or.inl ⟨_, (Prod.mk.inj (Option.some.inj h)).1.symm⟩

theorem atomic_of_nodeOf {flags : Flags} {a : Atom} {n : Node} (h : nodeOf flags a = some n) :
    n.Atomic := by
  unfold nodeOf at h
  split at h
  · split at h
    · cases h
    · obtain rfl := Option.some.inj h
      rw [characterNode]
      split
      · exact .ofClass _
      · exact .literal _
  · obtain rfl := Option.some.inj h
    exact .ofClass _
  · obtain rfl := Option.some.inj h
    exact .look _

/-- What one step of reading makes of the state. -/
inductive ReadMove (st : ReadState) : ReadState → Prop
  | same : ReadMove st st
  | noted {names : List (List Char)} : ReadMove st { openNoted st with names := names }
  | grouped {flags : Flags} : ReadMove st (openGroup st none flags)
  | switched {flags : Flags} :
      ReadMove st { st with flags := flags, items := ⟨.empty, 0, false⟩ :: st.items }
  | closed {st' : ReadState} (h : closeGroup st = some st') : ReadMove st st'
  | barred :
      ReadMove st { st with items := [], branches := sequence st.items.reverse :: st.branches }
  | added {n : Node} {depth : Nat} (h : n.Atomic) :
      ReadMove st { st with items := ⟨n, depth, true⟩ :: st.items }
  | repeated {st' : ReadState} {lo : Nat} {hi : Option Nat} {long : Bool}
      (h : repeatLast st lo hi long = some st') : ReadMove st st'

/-- **Every step of reading is a move.** -/
theorem move_of_readStep (h : readStep st s = some (st', rest)) : ReadMove st st' := by
  unfold readStep at h
  split at h
  · obtain ⟨rfl, -⟩ := Prod.mk.inj (Option.some.inj h)
    exact .same
  · split at h
    · rcases cases_of_readOpening h with ⟨names, rfl⟩ | ⟨flags, rfl⟩ | ⟨flags, rfl⟩
      · exact .noted
      · exact .grouped
      · exact .switched
    · obtain ⟨st₁, hst₁, heq⟩ := Option.map_eq_some_iff.1 h
      obtain ⟨rfl, -⟩ := Prod.mk.inj heq
      exact .closed hst₁
    · obtain ⟨rfl, -⟩ := Prod.mk.inj (Option.some.inj h)
      exact .barred
    · obtain ⟨⟨k, left⟩, -, heq⟩ := Option.map_eq_some_iff.1 h
      obtain ⟨rfl, -⟩ := Prod.mk.inj heq
      exact .added (.ofClass _)
    · obtain ⟨_, _, _, hrepeat⟩ := exists_repeat_of_readRepeat h
      exact .repeated hrepeat
    · obtain ⟨_, _, _, hrepeat⟩ := exists_repeat_of_readRepeat h
      exact .repeated hrepeat
    · obtain ⟨_, _, _, hrepeat⟩ := exists_repeat_of_readRepeat h
      exact .repeated hrepeat
    · obtain ⟨_, _, _, hrepeat⟩ := exists_repeat_of_readBraces h
      exact .repeated hrepeat
    · obtain ⟨⟨a, left⟩, -, h⟩ := Option.bind_eq_some_iff.1 h
      obtain ⟨n, hn, heq⟩ := Option.map_eq_some_iff.1 h
      obtain ⟨rfl, -⟩ := Prod.mk.inj heq
      exact .added (atomic_of_nodeOf hn)
    · obtain ⟨k, -, heq⟩ := Option.map_eq_some_iff.1 h
      obtain ⟨rfl, -⟩ := Prod.mk.inj heq
      exact .added (.ofClass k)
    · obtain ⟨rfl, -⟩ := Prod.mk.inj (Option.some.inj h)
      exact .added (.look _)
    · obtain ⟨rfl, -⟩ := Prod.mk.inj (Option.some.inj h)
      exact .added (.look _)
    · obtain ⟨n, hn, heq⟩ := Option.map_eq_some_iff.1 h
      obtain ⟨rfl, -⟩ := Prod.mk.inj heq
      exact .added (atomic_of_nodeOf hn)

/-- What each move keeps of the state is kept by reading on. -/
theorem readFrom_keeps {Q : ReadState → Prop}
    (hmove : ∀ {st st' : ReadState}, ReadMove st st' → Q st → Q st') {fuel : Nat} (h : Q st)
    (hst : readFrom fuel st s = some st') : Q st' := by
  induction fuel generalizing st s with
  | zero => cases hst
  | succ fuel ih =>
    rw [readFrom] at hst
    split at hst
    · obtain rfl := Option.some.inj hst
      exact h
    · obtain ⟨⟨st₁, left⟩, hstep, hst⟩ := Option.bind_eq_some_iff.1 hst
      exact ih (hmove (move_of_readStep hstep) h) hst

/-- **What is read** is taken from a state that has all that each move keeps. -/
theorem exists_state_of_readNode {Q : ReadState → Prop} {ignoreCase : Bool} {node : Node}
    {groups : Nat} (hinitial : Q (.initial ignoreCase))
    (hmove : ∀ {st st' : ReadState}, ReadMove st st' → Q st → Q st')
    (h : readNode ignoreCase s = some (node, groups)) :
    ∃ st, Q st ∧ node = st.current.node ∧ groups = st.count := by
  obtain ⟨st, hst, h⟩ := Option.bind_eq_some_iff.1 h
  split at h
  · obtain ⟨rfl, rfl⟩ := Prod.mk.inj (Option.some.inj h)
    exact ⟨st, readFrom_keeps hmove hinitial hst, rfl, rfl⟩
  · cases h

namespace ReadState.All

variable (hP : Node.Hereditary P)

theorem initial (ignoreCase : Bool) : (ReadState.initial ignoreCase).All P := ⟨nofun, nofun, nofun⟩

/-- The current sequence may be replaced by one of items that have the property. -/
theorem with_items (h : st.All P) {items : List Item} (hitems : ∀ a ∈ items, P a.node)
    (flags : Flags) : { st with flags := flags, items := items }.All P :=
  ⟨hitems, h.branches, h.groups⟩

theorem cons_item (h : st.All P) {n : Node} (hn : P n) (depth : Nat) (isPart : Bool) :
    { st with items := ⟨n, depth, isPart⟩ :: st.items }.All P := by
  refine h.with_items ?_ st.flags
  intro a ha
  rcases List.mem_cons.1 ha with rfl | ha
  · exact hn
  · exact h.items a ha

theorem openGroup (h : st.All P) {index : Option Nat} (hindex : ∀ i, index = some i → 0 < i)
    (flags : Flags) : (Pattern.openGroup st index flags).All P := by
  refine ⟨nofun, nofun, fun g hg => ?_⟩
  rcases List.mem_cons.1 hg with rfl | hg
  · exact ⟨hindex, h.items, h.branches⟩
  · exact h.groups g hg

theorem openNoted (h : st.All P) (names : List (List Char)) :
    { Pattern.openNoted st with names := names }.All P := by
  have hopen : (Pattern.openGroup st (some (st.count + 1)) st.flags).All P :=
    h.openGroup (by simp) st.flags
  exact ⟨hopen.items, hopen.branches, hopen.groups⟩

include hP

theorem sequence (h : ∀ a ∈ st.items, P a.node) : P (Pattern.sequence st.items.reverse).node :=
  sequential_sequence hP.toSequential fun a ha => h a (List.mem_reverse.1 ha)

theorem current (h : st.All P) : P st.current.node := by
  have hall : ∀ a ∈ (Pattern.sequence st.items.reverse :: st.branches).reverse, P a.node := by
    intro a ha
    rcases List.mem_cons.1 (List.mem_reverse.1 ha) with rfl | ha
    · exact sequence hP h.items
    · exact h.branches a ha
  rw [ReadState.current]
  generalize (Pattern.sequence st.items.reverse :: st.branches).reverse = branches at hall
  unfold alternatives
  split
  · exact hall _ (List.mem_singleton_self _)
  · refine hP.choice fun n hn => ?_
    obtain ⟨a, ha, rfl⟩ := List.mem_map.1 hn
    exact hall a ha

theorem repeatLast (h : st.All P) {lo : Nat} {hi : Option Nat} {long : Bool}
    (hst : Pattern.repeatLast st lo hi long = some st') : st'.All P := by
  rw [Pattern.repeatLast] at hst
  split at hst
  · rename_i a rest hitems
    split at hst
    · obtain rfl := Option.some.inj hst
      have hall := h.items
      rw [hitems] at hall
      refine h.with_items (fun b hb => ?_) st.flags
      rcases List.mem_cons.1 hb with rfl | hb
      · exact hP.repeated _ _ _ (hall a (List.mem_cons_self ..))
      · exact hall b (List.mem_cons_of_mem a hb)
    · cases hst
  · cases hst

theorem closeGroup (h : st.All P) (hst : Pattern.closeGroup st = some st') : st'.All P := by
  have hbody := h.current hP
  rw [Pattern.closeGroup] at hst
  split at hst
  · cases hst
  · rename_i g groups hgroups
    obtain rfl := Option.some.inj hst
    have hall := h.groups
    rw [hgroups] at hall
    obtain ⟨hindex, hitems, hbranches⟩ := hall g (List.mem_cons_self ..)
    refine ⟨fun a ha => ?_, hbranches, fun g' hg' => hall g' (List.mem_cons_of_mem g hg')⟩
    rcases List.mem_cons.1 ha with rfl | ha
    · dsimp only
      split
      · exact hP.group _ _ (hindex _ ‹_›) hbody
      · exact hbody
    · exact hitems a ha

/-- One step of reading keeps the property. -/
theorem move (h : st.All P) (hm : ReadMove st st') : st'.All P := by
  cases hm with
  | same => exact h
  | noted => exact h.openNoted _
  | grouped => exact h.openGroup (by simp) _
  | switched =>
    have hcons := h.cons_item hP.empty 0 false
    exact ⟨hcons.items, hcons.branches, hcons.groups⟩
  | closed hclose => exact h.closeGroup hP hclose
  | barred =>
    refine ⟨nofun, fun a ha => ?_, h.groups⟩
    rcases List.mem_cons.1 ha with rfl | ha
    · exact sequence hP h.items
    · exact h.branches a ha
  | added hn => exact h.cons_item (hP.atomic hn) _ true
  | repeated hrepeat => exact h.repeatLast hP hrepeat

end ReadState.All

/-- **What is read has every hereditary property.** -/
theorem hereditary_of_readNode (hP : Node.Hereditary P) {ignoreCase : Bool} {node : Node}
    {groups : Nat} (h : readNode ignoreCase s = some (node, groups)) : P node := by
  obtain ⟨st, hall, rfl, -⟩ := exists_state_of_readNode (ReadState.All.initial ignoreCase)
    (fun hm hall => hall.move hP hm) h
  exact hall.current hP

end Pattern

/-! ### The whole match -/

namespace Node

/-- All groups in the expression are numbered from one. -/
def Numbered : Node → Prop
  | group i b => 0 < i ∧ b.Numbered
  | cat a b => a.Numbered ∧ b.Numbered
  | alt a b => a.Numbered ∧ b.Numbered
  | rep _ _ _ b => b.Numbered
  | _ => True

theorem hereditary_numbered : Hereditary Numbered where
  empty := trivial
  literal _ := trivial
  cat _ _ := Iff.rfl
  set _ := trivial
  look _ := trivial
  alt _ _ := Iff.rfl
  rep _ _ _ _ h := h
  group _ _ hi h := ⟨hi, h⟩

variable {text : List Char} {x y : Nat × Slots}

/-- A match notes nothing in the slots of the whole match. -/
theorem slots_of_match {n : Node} (hn : n.Numbered) (h : n.Match text x y) :
    ∃ s, y.2 = s ++ x.2 ∧ ∀ q ∈ s, 2 ≤ q.1 := by
  induction n generalizing x y with
  | empty =>
    obtain rfl := h
    exact ⟨[], rfl, nofun⟩
  | literal cs =>
    obtain ⟨-, rfl⟩ := h
    exact ⟨[], rfl, nofun⟩
  | set k =>
    obtain ⟨-, rfl⟩ := h
    exact ⟨[], rfl, nofun⟩
  | look l =>
    obtain ⟨-, rfl⟩ := h
    exact ⟨[], rfl, nofun⟩
  | group i b ih =>
    obtain ⟨hi, hb⟩ := hn
    obtain ⟨z, hz, rfl⟩ := h
    obtain ⟨s, hs, hslots⟩ := ih hb hz
    refine ⟨(2 * i + 1, z.1) :: (s ++ [(2 * i, x.1)]), by simp [hs], fun q hq => ?_⟩
    simp only [List.mem_cons, List.mem_append, List.not_mem_nil, or_false] at hq
    rcases hq with rfl | hq | rfl
    · dsimp only
      omega
    · exact hslots q hq
    · dsimp only
      omega
  | cat a b iha ihb =>
    obtain ⟨z, ha, hb⟩ := h
    obtain ⟨s, hs, hslots⟩ := iha hn.1 ha
    obtain ⟨s', hs', hslots'⟩ := ihb hn.2 hb
    refine ⟨s' ++ s, by rw [hs', hs, List.append_assoc], fun q hq => ?_⟩
    exact (List.mem_append.1 hq).elim (hslots' q) (hslots q)
  | alt a b iha ihb =>
    rcases h with h | h
    · exact iha hn.1 h
    · exact ihb hn.2 h
  | rep lo hi greedy b ih =>
    obtain ⟨n, -, -, htimes⟩ := h
    induction n generalizing x with
    | zero =>
      obtain rfl := htimes
      exact ⟨[], rfl, nofun⟩
    | succ n ihn =>
      obtain ⟨z, hz, hrest⟩ := htimes
      obtain ⟨s, hs, hslots⟩ := ih hn hz
      obtain ⟨s', hs', hslots'⟩ := ihn hrest
      refine ⟨s' ++ s, by rw [hs', hs, List.append_assoc], fun q hq => ?_⟩
      exact (List.mem_append.1 hq).elim (hslots' q) (hslots q)

/-- The span of the whole match is that from its first place to its last one. -/
theorem whole_of_match {n : Node} (hn : n.Numbered) {pos : Nat}
    (h : (group 0 n).Match text (pos, []) y) : y.2.group? 0 = some ⟨pos, y.1⟩ := by
  obtain ⟨z, hz, rfl⟩ := h
  obtain ⟨s, hs, hslots⟩ := slots_of_match hn hz
  have hstart : z.2.lookup 0 = some pos := by
    have hnone : s.lookup 0 = none := by
      rw [List.lookup_eq_none_iff]
      intro q hq
      have hslot := hslots q hq
      simp only [bne_iff_ne, ne_eq]
      omega
    rw [hs, List.lookup_append, hnone]
    simp
  have hstop : ((1, z.1) :: z.2).lookup 0 = some pos := by
    rw [List.lookup_cons]
    exact hstart
  simp [Slots.group?, Slots.get?, hstop]

end Node

namespace Pattern

variable {p : Pattern} {node : Node} {text : List Char}

/-- **A compiled pattern finds nothing just if there is no match.** -/
theorem find?_eq_none_iff (hp : p.program = .ofNode node) (hn : node.Numbered) :
    p.find? text = none ↔ ∀ i, ¬ node.Begins text i := by
  have hsearch : (Program.ofNode node).search text.toArray 0 = none ↔
      ∀ i, 0 ≤ i → ¬ node.Begins text i := Program.search_eq_none_iff
  simp only [Nat.zero_le, forall_const] at hsearch
  rw [← hsearch, find?, hp]
  cases hs : (Program.ofNode node).search text.toArray 0 with
  | none => simp
  | some final =>
    obtain ⟨start, y, -, hy, rfl⟩ := Program.isLeast_of_search hs
    simp [Node.whole_of_match hn hy]

/-- **A compiled pattern finds the leftmost match** and the groups that the search noted. -/
theorem isLeast_of_find? (hp : p.program = .ofNode node) (hn : node.Numbered) {whole : Span}
    {groups : List Span} (h : p.find? text = some (whole, groups)) :
    IsLeast {i | node.Begins text i} whole.start ∧
      ∃ slots, (Program.ofNode node).search text.toArray 0 = some slots ∧
        slots.group? 0 = some whole ∧
        (Node.group 0 node).Match text (whole.start, []) (whole.stop, slots) ∧
        groups = (List.range p.groups).filterMap fun i => slots.group? (i + 1) := by
  rw [find?, hp, Option.bind_eq_some_iff] at h
  obtain ⟨final, hs, h⟩ := h
  obtain ⟨start, y, hleast, hy, rfl⟩ := Program.isLeast_of_search hs
  have hwhole := Node.whole_of_match hn hy
  rw [hwhole] at h
  obtain ⟨rfl, rfl⟩ := Prod.mk.inj (Option.some.inj h)
  simp only [Nat.zero_le, true_and] at hleast
  exact ⟨hleast, y.2, hs, hwhole, hy, rfl⟩

end Pattern

end KeyTrace
