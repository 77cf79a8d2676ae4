import KeyTrace.Proofs.Pattern.Found
import KeyTrace.Proofs.Pattern.Reaching

/-!
# A search finds the leftmost match

Threads are tried in order, none twice at the same instruction and position. That loses nothing:
whatever a place that was tried leads to, one of the threads that are left leads to in fewer steps
(`Program.Exploring`), so that a place can be passed over without giving up a match. Once no thread
is left, nothing that was tried leads to a match, and the next start is as good as the first one.

Marks tell places apart because code goes on inside the program only; the fuel is enough because
each step takes a thread, a mark or a start.

## Main definitions

* `Program.Closed`: all instructions go on inside the program.
* `Program.Exploring`: what was tried is not given up.
* `Program.Tries`: what trying threads and then starts should find.
* `Node.Begins`: a match of an expression begins at a position.

## Main results

* `Program.tries_search`: a search finds the first start that leads to a match.
* `Program.search_eq_none_iff`, `Program.isLeast_of_search`: it fails just if there is no match, and
  finds the leftmost one otherwise.
-/

namespace KeyTrace

/-! ### Where code goes on -/

/-- The addresses at which an instruction may go on. -/
def Inst.targets : Inst → List Nat
  | accept => []
  | set _ next => [next]
  | look _ next => [next]
  | save _ next => [next]
  | jump next => [next]
  | split a b => [a, b]

namespace Node

theorem codeSize_pos (n : Node) : 0 < n.codeSize := by
  induction n with
  | literal cs => exact Nat.lt_of_lt_of_le Nat.zero_lt_one (Nat.le_max_left ..)
  | cat a b iha ihb => exact Nat.add_pos_left iha _
  | rep lo hi greedy b ih =>
    simp only [codeSize]
    repeat' split
    all_goals omega
  | _ => simp [codeSize]

theorem targets_fork (greedy : Bool) (body leave : Nat) :
    ∀ t ∈ (fork greedy body leave).targets, t = body ∨ t = leave := by
  intro t ht
  cases greedy with
  | true => simpa [fork, Inst.targets] using ht
  | false => exact (by simpa [fork, Inst.targets] using ht : t = leave ∨ t = body).symm

/-- Code goes on below a bound. -/
def Below (bound : Nat) (code : List Inst) : Prop := ∀ i ∈ code, ∀ t ∈ i.targets, t < bound

variable {bound : Nat}

theorem below_cons {i : Inst} {code : List Inst} (hi : ∀ t ∈ i.targets, t < bound)
    (h : Below bound code) : Below bound (i :: code) := by
  intro j hj
  rcases List.mem_cons.1 hj with rfl | hj
  · exact hi
  · exact h j hj

theorem below_append {code more : List Inst} (h : Below bound code) (h' : Below bound more) :
    Below bound (code ++ more) := by
  intro i hi
  exact (List.mem_append.1 hi).elim (h i) (h' i)

theorem below_fork {greedy : Bool} {body leave : Nat} (hbody : body < bound)
    (hleave : leave < bound) : ∀ t ∈ (fork greedy body leave).targets, t < bound := by
  intro t ht
  rcases targets_fork greedy body leave t ht with rfl | rfl
  · exact hbody
  · exact hleave

theorem below_nil : Below bound [] := nofun

theorem below_textCode (cs : List Char) {base exit : Nat} (hbase : base + max 1 cs.length ≤ bound)
    (hexit : exit < bound) : Below bound (textCode cs base exit) := by
  induction cs generalizing base with
  | nil => exact below_cons (by simpa [Inst.targets] using hexit) below_nil
  | cons c rest ih =>
    cases rest with
    | nil => exact below_cons (by simpa [Inst.targets] using hexit) below_nil
    | cons d rest =>
      simp only [List.length_cons] at hbase ih
      refine below_cons ?_ (ih (by omega))
      simp only [Inst.targets, List.mem_singleton, forall_eq]
      omega

section Repetition

variable {code : Nat → Nat → List Inst} {size : Nat} (hsize : 0 < size)
  (hcode : ∀ base exit, base + size ≤ bound → exit < bound → Below bound (code base exit))

include hsize hcode

theorem below_copies {n base exit : Nat} (hbase : base + n * size ≤ bound) (hexit : exit < bound) :
    Below bound (copies code size n base exit) := by
  fun_induction copies code size n base exit with
  | case1 => exact below_nil
  | case2 base exit => exact hcode base exit (by simpa using hbase) hexit
  | case3 n base exit ih =>
    have hsplit : base + (n + 2) * size = base + size + (n + 1) * size := by ring
    have hrest : size ≤ (n + 1) * size := Nat.le_mul_of_pos_left size (Nat.succ_pos n)
    rw [hsplit] at hbase
    exact below_append (hcode base _ (by omega) (by omega)) (ih hbase hexit)

theorem below_optionals {greedy : Bool} {n base exit : Nat} (hbase : base + n * (size + 1) < bound)
    (hexit : exit < bound) : Below bound (optionals code size greedy n base exit) := by
  induction n generalizing base with
  | zero => exact below_nil
  | succ n ih =>
    have hsplit : base + (n + 1) * (size + 1) = base + 1 + size + n * (size + 1) := by ring
    refine below_cons (below_fork (by omega) hexit) ?_
    exact below_append (hcode _ _ (by omega) (by omega)) (ih (by omega))

end Repetition

theorem below_rep {b : Node} {lo : Nat} {hi : Option Nat} {greedy : Bool}
    (ih : ∀ base exit, base + b.codeSize ≤ bound → exit < bound → Below bound (b.code base exit))
    {base exit : Nat} (hbase : base + (rep lo hi greedy b).codeSize ≤ bound)
    (hexit : exit < bound) : Below bound ((rep lo hi greedy b).code base exit) := by
  have hsize := b.codeSize_pos
  simp only [codeSize] at hbase
  simp only [code]
  split at hbase
  · split at hbase
    · split at hbase
      · rw [if_pos ‹_›, if_pos ‹_›]
        exact below_cons (below_fork (by omega) hexit) (ih _ _ (by omega) (by omega))
      · rw [if_pos ‹_›, if_neg ‹_›]
        refine below_cons (below_fork (by omega) hexit) ?_
        exact below_append (ih _ _ (by omega) (by omega))
          (below_cons (below_fork (by omega) hexit) below_nil)
    · rw [if_neg ‹_›]
      have hless : (lo - 1) * b.codeSize ≤ lo * b.codeSize :=
        Nat.mul_le_mul_right _ (Nat.sub_le lo 1)
      exact below_append (below_copies hsize ih (by omega) (by omega))
        (below_cons (below_fork (by omega) hexit) below_nil)
  · refine below_append (below_append ?_ ?_) (below_cons ?_ below_nil)
    · exact below_copies hsize ih (by omega) (by omega)
    · exact below_optionals hsize ih (by omega) (by omega)
    · simpa [Inst.targets] using hexit

/-- **The code of an expression goes on inside itself or at its exit.** -/
theorem below_code (n : Node) {base exit : Nat} (hbase : base + n.codeSize ≤ bound)
    (hexit : exit < bound) : Below bound (n.code base exit) := by
  induction n generalizing base exit with
  | empty => exact below_cons (by simpa [Inst.targets] using hexit) below_nil
  | literal cs => exact below_textCode cs hbase hexit
  | set k => exact below_cons (by simpa [Inst.targets] using hexit) below_nil
  | look l => exact below_cons (by simpa [Inst.targets] using hexit) below_nil
  | group i b ih =>
    simp only [codeSize] at hbase
    refine below_cons ?_ (below_append (ih (by omega) (by omega)) (below_cons ?_ below_nil))
    · simp only [Inst.targets, List.mem_singleton, forall_eq]
      omega
    · simpa [Inst.targets] using hexit
  | cat a b iha ihb =>
    have hb := b.codeSize_pos
    simp only [codeSize] at hbase
    exact below_append (iha (by omega) (by omega)) (ihb (by omega) hexit)
  | alt a b iha ihb =>
    have hb := b.codeSize_pos
    simp only [codeSize] at hbase
    refine below_cons ?_ (below_append (iha (by omega) hexit) (ihb (by omega) hexit))
    simp only [Inst.targets, List.mem_cons, List.not_mem_nil, or_false, forall_eq_or_imp, forall_eq]
    omega
  | rep lo hi greedy b ih => exact below_rep (fun _ _ => ih) hbase hexit

end Node

namespace Program

/-- All instructions go on inside the program. -/
def Closed (p : Program) : Prop :=
  ∀ (pc : Nat) (i : Inst), p[pc]? = some i → ∀ t ∈ i.targets, t < p.size

theorem size_ofNode (node : Node) : (ofNode node).size = (Node.group 0 node).codeSize + 1 := by
  simp [ofNode, Node.length_code]

theorem closed_ofNode (node : Node) : (ofNode node).Closed := by
  intro pc i hi
  rw [size_ofNode]
  rw [ofNode, List.getElem?_toArray] at hi
  have hcode : Node.Below ((Node.group 0 node).codeSize + 1)
      ((Node.group 0 node).code 0 (Node.group 0 node).codeSize) :=
    Node.below_code _ (by omega) (by omega)
  have haccept : Node.Below ((Node.group 0 node).codeSize + 1) [Inst.accept] :=
    Node.below_cons (by simp [Inst.targets]) Node.below_nil
  exact Node.below_append hcode haccept i (List.mem_of_getElem? hi)

end Program

/-! ### Marks -/

namespace Marks

theorem has_add (m : Marks) (i j : Nat) : (m.add i).has j = (decide (j = i) || m.has j) := by
  unfold has add
  simp only [Array.getD_eq_getD_getElem?]
  split
  · rename_i hi
    rw [Array.getElem?_setIfInBounds]
    by_cases hj : i = j
    · subst hj
      simp [hi]
    · simp [hj, Ne.symm hj]
  · rename_i hi
    have hsize : (m ++ Array.replicate (i - m.size) false).size = i := by
      rw [Array.size_append, Array.size_replicate]
      omega
    rw [Array.getElem?_push, hsize]
    by_cases hj : j = i
    · simp [hj]
    · rw [if_neg hj, Array.getElem?_append, Array.getElem?_replicate]
      by_cases hlt : j < m.size
      · simp [hj, hlt]
      · have hnone : m[j]? = none := Array.getElem?_eq_none (Nat.not_lt.1 hlt)
        rw [if_neg hlt, hnone]
        split
        · simp [hj]
        · simp [hj]

/-- How many of the first `n` numbers are not marked. -/
def room (m : Marks) (n : Nat) : Nat := ((Finset.range n).filter fun i => m.has i = false).card

theorem room_add {m : Marks} {i n : Nat} (hi : i < n) (h : m.has i = false) :
    (m.add i).room n + 1 = m.room n := by
  have hmem : i ∈ (Finset.range n).filter fun j => m.has j = false := by simp [hi, h]
  have herase : ((Finset.range n).filter fun j => (m.add i).has j = false) =
      ((Finset.range n).filter fun j => m.has j = false).erase i := by
    ext j
    simp only [has_add, Finset.mem_filter, Finset.mem_range, Finset.mem_erase, Bool.or_eq_false_iff,
      decide_eq_false_iff_not]
    tauto
  rw [room, herase, Finset.card_erase_add_one hmem, room]

theorem room_empty (n : Nat) : room #[] n = n := by
  simp [room, has]

end Marks

namespace Program

variable {p : Program} {text : List Char}

/-! ### What a thread leads to -/

theorem Reaches.next {n : Nat} {t : Thread} {threads : List Thread} {final : Slots}
    (ha : p.advance text.toArray t = .goOn threads) (h : p.Reaches text n t final) :
    ∃ m, m + 1 = n ∧ ∃ t' ∈ threads, p.Reaches text m t' final := by
  cases h with
  | accept hp => simp [advance, hp] at ha
  | @step m _ t' _ _ ha' ht' hr =>
    obtain rfl := Progress.goOn.inj (ha'.symm.trans ha)
    exact ⟨m, rfl, t', ht', hr⟩

/-- **What one instruction makes of a thread** that does not match: at most two ways on, each to a
target of the instruction and over one character at most, whatever has been noted before. The slots
of a way are what it notes. -/
theorem exists_ways {t : Thread} {threads : List Thread}
    (h : p.advance text.toArray t = .goOn threads) :
    ∃ ways : List Thread, ways.length ≤ 2 ∧
      (∀ s, p.advance text.toArray ⟨t.pc, t.pos, s⟩ =
        .goOn (ways.map fun w => ⟨w.pc, w.pos, w.slots ++ s⟩)) ∧
      ∀ w ∈ ways, (∃ i, p[t.pc]? = some i ∧ w.pc ∈ i.targets) ∧
        (w.pos = t.pos ∨ w.pos = t.pos + 1 ∧ t.pos < text.length) := by
  cases hi : p[t.pc]? with
  | none => exact ⟨[], by simp, fun s => by simp [advance, hi], nofun⟩
  | some i =>
    cases i with
    | accept => simp [advance, hi] at h
    | set k next =>
      by_cases hk : ∃ c, text[t.pos]? = some c ∧ k.mem c = true
      · obtain ⟨c, hc, hmem⟩ := hk
        have hlt := (List.getElem?_eq_some_iff.1 hc).1
        exact ⟨[⟨next, t.pos + 1, []⟩], by simp, fun s => by simp [advance, hi, hc, hmem],
          by simp [Inst.targets, hlt]⟩
      · refine ⟨[], by simp, fun s => ?_, nofun⟩
        simp only [advance, hi, List.getElem?_toArray]
        split
        · rename_i c hc
          exact if_neg fun hmem => hk ⟨c, hc, hmem⟩
        · rfl
    | look l next =>
      have hadvance : ∀ s, p.advance text.toArray ⟨t.pc, t.pos, s⟩ =
          if l.holds (Node.before? text t.pos) text[t.pos]? then .goOn [⟨next, t.pos, s⟩]
          else .goOn [] := by
        intro s
        simp only [advance, hi, List.getElem?_toArray, Node.before?]
        rfl
      by_cases hl : l.holds (Node.before? text t.pos) text[t.pos]? = true
      · exact ⟨[⟨next, t.pos, []⟩], by simp, fun s => by simp [hadvance, hl],
          by simp [Inst.targets]⟩
      · exact ⟨[], by simp, fun s => by simp [hadvance, hl], nofun⟩
    | save slot next =>
      exact ⟨[⟨next, t.pos, [(slot, t.pos)]⟩], by simp, fun s => by simp [advance, hi],
        by simp [Inst.targets]⟩
    | jump next =>
      exact ⟨[⟨next, t.pos, []⟩], by simp, fun s => by simp [advance, hi], by simp [Inst.targets]⟩
    | split a b =>
      exact ⟨[⟨a, t.pos, []⟩, ⟨b, t.pos, []⟩], by simp, fun s => by simp [advance, hi],
        by simp [Inst.targets]⟩

theorem Reaches.with_slots {n : Nat} {t : Thread} {final : Slots} (h : p.Reaches text n t final)
    (s : Slots) : ∃ final', p.Reaches text n ⟨t.pc, t.pos, s⟩ final' := by
  induction h generalizing s with
  | accept hp => exact ⟨s, .accept hp⟩
  | step ha ht _ ih =>
    obtain ⟨ways, -, hways, -⟩ := exists_ways ha
    obtain rfl := Progress.goOn.inj (ha.symm.trans (hways _))
    obtain ⟨w, hw, rfl⟩ := List.mem_map.1 ht
    obtain ⟨final', hr⟩ := ih (w.slots ++ s)
    exact ⟨final', .step (hways s) (List.mem_map_of_mem hw) hr⟩

/-- A thread leads to no match. -/
def Dead (p : Program) (text : List Char) (t : Thread) : Prop :=
  ∀ n final, ¬ p.Reaches text n t final

theorem dead_of_next {t : Thread} {threads : List Thread}
    (ha : p.advance text.toArray t = .goOn threads) (h : ∀ t' ∈ threads, p.Dead text t') :
    p.Dead text t := by
  intro n final hr
  obtain ⟨m, -, t', ht', hr'⟩ := hr.next ha
  exact h t' ht' m final hr'

/-! ### Places in the program and in the text -/

/-- A thread stands in the program, and at a position of the text from `origin` on. -/
structure Inside (p : Program) (text : List Char) (origin : Nat) (t : Thread) : Prop where
  pc_lt : t.pc < p.size
  origin_le : origin ≤ t.pos
  pos_le : t.pos ≤ text.length

/-- The number of a thread's place. -/
def mark (p : Program) (origin : Nat) (t : Thread) : Nat := (t.pos - origin) * p.size + t.pc

variable {origin : Nat} {t : Thread}

theorem Inside.mark_lt (h : p.Inside text origin t) :
    p.mark origin t < (text.length + 1 - origin) * p.size := by
  have hrow : t.pos - origin + 1 ≤ text.length + 1 - origin := by
    have hpos := h.pos_le
    have horigin := h.origin_le
    omega
  calc p.mark origin t < (t.pos - origin) * p.size + p.size := Nat.add_lt_add_left h.pc_lt _
    _ = (t.pos - origin + 1) * p.size := by ring
    _ ≤ (text.length + 1 - origin) * p.size := Nat.mul_le_mul_right _ hrow

/-- Different places have different numbers. -/
theorem Inside.eq_of_mark {u : Thread} (ht : p.Inside text origin t) (hu : p.Inside text origin u)
    (h : p.mark origin t = p.mark origin u) : t.pc = u.pc ∧ t.pos = u.pos := by
  have hpc : t.pc = u.pc := by
    have hmod := congrArg (· % p.size) h
    simpa [mark, Nat.mod_eq_of_lt ht.pc_lt, Nat.mod_eq_of_lt hu.pc_lt] using hmod
  have hrow : (t.pos - origin) * p.size = (u.pos - origin) * p.size := by
    rw [mark, mark, hpc] at h
    exact Nat.add_right_cancel h
  have hpos := Nat.eq_of_mul_eq_mul_right (Nat.zero_lt_of_lt ht.pc_lt) hrow
  have horigin := ht.origin_le
  have horigin' := hu.origin_le
  exact ⟨hpc, by omega⟩

/-- Threads stay inside. -/
theorem Inside.advance {threads : List Thread} (hp : p.Closed) (ht : p.Inside text origin t)
    (ha : p.advance text.toArray t = .goOn threads) : ∀ t' ∈ threads, p.Inside text origin t' := by
  obtain ⟨ways, -, hways, hplaces⟩ := exists_ways ha
  obtain rfl := Progress.goOn.inj (ha.symm.trans (hways t.slots))
  intro t' ht'
  obtain ⟨w, hw, rfl⟩ := List.mem_map.1 ht'
  obtain ⟨⟨i, hi, htarget⟩, hpos⟩ := hplaces w hw
  have horigin := ht.origin_le
  have hle := ht.pos_le
  constructor
  · exact hp _ _ hi _ htarget
  · dsimp only
    omega
  · dsimp only
    omega

theorem length_of_advance {threads : List Thread}
    (ha : p.advance text.toArray t = .goOn threads) : threads.length ≤ 2 := by
  obtain ⟨ways, hlength, hways, -⟩ := exists_ways ha
  obtain rfl := Progress.goOn.inj (ha.symm.trans (hways t.slots))
  rwa [List.length_map]

/-! ### What was tried is not given up -/

/-- Whatever a place that was tried leads to, one of the threads that are left leads to in fewer
steps. -/
structure Exploring (p : Program) (text : List Char) (origin : Nat) (threads : List Thread)
    (seen : Marks) : Prop where
  inside : ∀ t ∈ threads, p.Inside text origin t
  tried : ∀ n t final, p.Inside text origin t → seen.has (p.mark origin t) = true →
    p.Reaches text n t final → ∃ t' ∈ threads, ∃ m < n, ∃ final', p.Reaches text m t' final'

namespace Exploring

variable {seen : Marks} {rest : List Thread}

theorem initial (p : Program) (text : List Char) (origin : Nat) :
    p.Exploring text origin [] #[] where
  inside := nofun
  tried n t final _ hseen := by simp [Marks.has] at hseen

/-- A thread at a place that was tried already is passed over. -/
theorem skip (h : p.Exploring text origin (t :: rest) seen)
    (hseen : seen.has (p.mark origin t) = true) : p.Exploring text origin rest seen where
  inside t' ht' := h.inside t' (List.mem_cons_of_mem t ht')
  tried := by
    -- What leads to `t` itself leads to something shorter, because `t` was tried too.
    intro n
    induction n using Nat.strong_induction_on with
    | _ n ih =>
      intro u final hu hmark hr
      obtain ⟨t', ht', m, hm, final', hr'⟩ := h.tried n u final hu hmark hr
      rcases List.mem_cons.1 ht' with rfl | ht'
      · have hinside := h.inside t' (List.mem_cons_self ..)
        obtain ⟨t'', ht'', m', hm', hr''⟩ := ih m hm t' final' hinside hseen hr'
        exact ⟨t'', ht'', m', hm'.trans hm, hr''⟩
      · exact ⟨t', ht', m, hm, final', hr'⟩

/-- A thread at a new place is replaced by those that it goes on to. -/
theorem visit {next : List Thread} (hp : p.Closed)
    (h : p.Exploring text origin (t :: rest) seen)
    (ha : p.advance text.toArray t = .goOn next) :
    p.Exploring text origin (next ++ rest) (seen.add (p.mark origin t)) where
  inside t' ht' := by
    rcases List.mem_append.1 ht' with ht' | ht'
    · exact (h.inside t (List.mem_cons_self ..)).advance hp ha t' ht'
    · exact h.inside t' (List.mem_cons_of_mem t ht')
  tried n u final hu hmark hr := by
    have hnext : ∀ n final, p.Reaches text n t final →
        ∃ t' ∈ next ++ rest, ∃ m < n, ∃ final', p.Reaches text m t' final' := by
      intro n final hr
      obtain ⟨m, rfl, t', ht', hr'⟩ := hr.next ha
      exact ⟨t', List.mem_append_left rest ht', m, Nat.lt_succ_self m, final, hr'⟩
    rw [Marks.has_add, Bool.or_eq_true, decide_eq_true_eq] at hmark
    rcases hmark with hmark | hmark
    · obtain ⟨hpc, hpos⟩ := hu.eq_of_mark (h.inside t (List.mem_cons_self ..)) hmark
      obtain ⟨final', hr'⟩ := hr.with_slots t.slots
      rw [hpc, hpos] at hr'
      exact hnext n final' hr'
    · obtain ⟨t', ht', m, hm, final', hr'⟩ := h.tried n u final hu hmark hr
      rcases List.mem_cons.1 ht' with rfl | ht'
      · obtain ⟨t'', ht'', m', hm', hr''⟩ := hnext m final' hr'
        exact ⟨t'', ht'', m', hm'.trans hm, hr''⟩
      · exact ⟨t', List.mem_append_right next ht', m, hm, final', hr'⟩

/-- Once no thread is left, the next start is tried. -/
theorem start (h : p.Exploring text origin [] seen) (hsize : 0 < p.size) {pos : Nat}
    (horigin : origin ≤ pos) (hpos : pos ≤ text.length) :
    p.Exploring text origin [⟨0, pos, []⟩] seen where
  inside t ht := by
    obtain rfl := List.mem_singleton.1 ht
    exact ⟨hsize, horigin, hpos⟩
  tried n u final hu hmark hr := by
    obtain ⟨t', ht', -⟩ := h.tried n u final hu hmark hr
    cases ht'

/-- If nothing is left that leads to a match, what was tried does not lead to one. -/
theorem dead (h : p.Exploring text origin (t :: rest) seen)
    (hseen : seen.has (p.mark origin t) = true) (hrest : ∀ t' ∈ rest, p.Dead text t') :
    p.Dead text t := by
  intro n final hr
  have hinside := h.inside t (List.mem_cons_self ..)
  obtain ⟨t', ht', m, -, final', hr'⟩ := (h.skip hseen).tried n t final hinside hseen hr
  exact hrest t' ht' m final' hr'

end Exploring

/-! ### Trying threads and then starts -/

/-- What trying threads and then the starts from `start` on should give: nothing if none of them
leads to a match; and otherwise a match that a thread leads to or, if no thread does, one that the
first start leads to which leads to any. -/
def Tries (p : Program) (text : List Char) (threads : List Thread) (start : Nat) :
    Option Slots → Prop
  | none => (∀ t ∈ threads, p.Dead text t) ∧
      ∀ i, start ≤ i → i ≤ text.length → p.Dead text ⟨0, i, []⟩
  | some final => (∃ t ∈ threads, ∃ n, p.Reaches text n t final) ∨
      (∀ t ∈ threads, p.Dead text t) ∧ ∃ i, start ≤ i ∧ i ≤ text.length ∧
        (∀ j, start ≤ j → j < i → p.Dead text ⟨0, j, []⟩) ∧
        ∃ n, p.Reaches text n ⟨0, i, []⟩ final

namespace Tries

variable {start : Nat} {rest : List Thread} {result : Option Slots}

/-- The next start is tried like a thread. -/
theorem of_start (h : p.Tries text [⟨0, start, []⟩] (start + 1) result)
    (hstart : start ≤ text.length) : p.Tries text [] start result := by
  have hdead : p.Dead text ⟨0, start, []⟩ → ∀ i,
      (start + 1 ≤ i → p.Dead text ⟨0, i, []⟩) → start ≤ i → p.Dead text ⟨0, i, []⟩ := by
    intro h i hi hle
    rcases Nat.eq_or_lt_of_le hle with rfl | hlt
    · exact h
    · exact hi hlt
  cases result with
  | none =>
    obtain ⟨hthread, hstarts⟩ := h
    have hthread := hthread _ (List.mem_singleton_self _)
    exact ⟨nofun, fun i hi hlength => hdead hthread i (fun hlt => hstarts i hlt hlength) hi⟩
  | some final =>
    rcases h with ⟨t, ht, hr⟩ | ⟨hthread, i, hi, hlength, hbefore, hr⟩
    · obtain rfl := List.mem_singleton.1 ht
      exact Or.inr ⟨nofun, start, Nat.le_refl _, hstart,
        fun j hle hlt => absurd hle (Nat.not_le.2 hlt), hr⟩
    · have hthread := hthread _ (List.mem_singleton_self _)
      exact Or.inr ⟨nofun, i, Nat.le_of_succ_le hi, hlength,
        fun j hle hlt => hdead hthread j (fun hj => hbefore j hj hlt) hle, hr⟩

/-- A thread may be replaced by others that lead to the same. -/
theorem of_next {next : List Thread} (h : p.Tries text (next ++ rest) start result)
    (hdead : (∀ t' ∈ next ++ rest, p.Dead text t') → p.Dead text t)
    (hreaches : ∀ t' ∈ next, ∀ n final, p.Reaches text n t' final →
      ∃ m, p.Reaches text m t final) : p.Tries text (t :: rest) start result := by
  have hall : (∀ t' ∈ next ++ rest, p.Dead text t') → ∀ t' ∈ t :: rest, p.Dead text t' := by
    intro h t' ht'
    rcases List.mem_cons.1 ht' with rfl | ht'
    · exact hdead h
    · exact h t' (List.mem_append_right next ht')
  cases result with
  | none => exact ⟨hall h.1, h.2⟩
  | some final =>
    rcases h with ⟨t', ht', n, hr⟩ | ⟨hthreads, hstarts⟩
    · rcases List.mem_append.1 ht' with ht' | ht'
      · exact Or.inl ⟨t, List.mem_cons_self .., hreaches t' ht' n final hr⟩
      · exact Or.inl ⟨t', List.mem_cons_of_mem t ht', n, hr⟩
    · exact Or.inr ⟨hall hthreads, hstarts⟩

end Tries

/-- Trying threads finds what it should, with fuel for every thread, every place that has no mark
and every start. -/
theorem tries_run (hp : p.Closed) (hsize : 0 < p.size) {fuel start : Nat} {threads : List Thread}
    {seen : Marks} (h : p.Exploring text origin threads seen) (horigin : origin ≤ start)
    (hfuel : 2 * seen.room ((text.length + 1 - origin) * p.size) + threads.length +
      2 * (text.length + 1 - start) < fuel) :
    p.Tries text threads start (p.run text.toArray origin fuel threads start seen) := by
  induction fuel generalizing threads start seen with
  | zero => cases hfuel
  | succ fuel ih =>
    cases threads with
    | nil =>
      rw [run, List.size_toArray]
      split
      · exact ⟨fun t ht => absurd ht List.not_mem_nil, fun i hi hlength => by omega⟩
      · refine Tries.of_start (ih (h.start hsize horigin (by omega)) (by omega) ?_) (by omega)
        simp only [List.length_nil, List.length_singleton] at hfuel ⊢
        omega
    | cons t rest =>
      have hinside := h.inside t (List.mem_cons_self ..)
      simp only [run]
      simp only [List.length_cons] at hfuel
      split
      · rename_i hseen
        have hrest := ih (h.skip hseen) horigin (by omega)
        change p.Tries text ([] ++ rest) start _ at hrest
        exact hrest.of_next (h.dead hseen) fun t' ht' => absurd ht' List.not_mem_nil
      · rename_i hnew
        split
        · rename_i ha
          exact Or.inl ⟨t, List.mem_cons_self .., 0, .accept (advance_eq_matched ha)⟩
        · rename_i next ha
          have hroom := Marks.room_add hinside.mark_lt (Bool.eq_false_iff.2 hnew)
          have hlength := length_of_advance ha
          refine Tries.of_next (ih (h.visit hp ha) horigin ?_) ?_ ?_
          · rw [List.length_append]
            simp only [mark] at hroom ⊢
            omega
          · exact fun hall => dead_of_next ha fun t' ht' => hall t' (List.mem_append_left rest ht')
          · exact fun t' ht' n final hr => ⟨n + 1, .step ha ht' hr⟩

/-- **A search finds the first start that leads to a match.** -/
theorem tries_search (hp : p.Closed) (hsize : 0 < p.size) (text : List Char) (origin : Nat) :
    p.Tries text [] origin (p.search text.toArray origin) := by
  have htext : text.toArray.size = text.length := List.size_toArray
  refine tries_run hp hsize (.initial p text origin) (Nat.le_refl _) ?_
  rw [Marks.room_empty, htext, List.length_nil]
  omega

end Program

/-! ### Working a search out -/

namespace Program

/-- `run` with a list of the numbers that are marked, for working a search out by hand. -/
def runList (p : Program) (text : Array Char) (origin : Nat) :
    Nat → List Thread → Nat → List Nat → Option Slots
  | 0, _, _, _ => none
  | fuel + 1, [], start, marked =>
    if text.size < start then none
    else runList p text origin fuel [⟨0, start, []⟩] (start + 1) marked
  | fuel + 1, t :: rest, start, marked =>
    if marked.contains (p.mark origin t) then runList p text origin fuel rest start marked
    else
      match advance p text t with
      | .matched => some t.slots
      | .goOn next => runList p text origin fuel (next ++ rest) start (p.mark origin t :: marked)

theorem run_eq_runList {p : Program} {text : Array Char} {origin fuel start : Nat}
    {threads : List Thread} {seen : Marks} {marked : List Nat}
    (h : ∀ i, seen.has i = marked.contains i) :
    p.run text origin fuel threads start seen =
      p.runList text origin fuel threads start marked := by
  induction fuel generalizing threads start seen marked with
  | zero => rfl
  | succ fuel ih =>
    cases threads with
    | nil => rw [run, runList, ih h]
    | cons t rest =>
      have hrun : p.run text origin (fuel + 1) (t :: rest) start seen =
          if seen.has (p.mark origin t) then p.run text origin fuel rest start seen
          else
            match p.advance text t with
            | .matched => some t.slots
            | .goOn next =>
              p.run text origin fuel (next ++ rest) start (seen.add (p.mark origin t)) := rfl
      rw [hrun, runList, h, ih h]
      cases p.advance text t with
      | matched => rfl
      | goOn next =>
        have hnext : ∀ i, (seen.add (p.mark origin t)).has i =
            (p.mark origin t :: marked).contains i := by
          intro i
          rw [Marks.has_add, h, List.contains_cons]
          rfl
        dsimp only
        rw [ih hnext]

theorem search_eq_runList (p : Program) (text : Array Char) (origin : Nat) :
    p.search text origin = p.runList text origin
      (2 * ((text.size + 1 - origin) * p.size) + 2 * (text.size + 1 - origin) + 1) [] origin [] :=
  run_eq_runList fun i => by simp [Marks.has]

end Program

/-! ### Where matches begin -/

namespace Node

/-- A match of the expression begins at a position of the text. -/
def Begins (n : Node) (text : List Char) (pos : Nat) : Prop :=
  pos ≤ text.length ∧ ∃ y, n.Match text (pos, []) y

theorem begins_iff_group {n : Node} {text : List Char} {pos : Nat} :
    n.Begins text pos ↔ pos ≤ text.length ∧ ∃ y, (group 0 n).Match text (pos, []) y := by
  constructor
  · rintro ⟨hpos, y, hy⟩
    obtain ⟨t, ht⟩ := hy.with_slots [(0, pos)]
    exact ⟨hpos, _, (y.1, t), ht, rfl⟩
  · rintro ⟨hpos, y, z, hz, rfl⟩
    obtain ⟨t, ht⟩ := Match.with_slots hz []
    exact ⟨hpos, _, ht⟩

end Node

namespace Program

variable {node : Node} {text : List Char}

theorem begins_iff {pos : Nat} (h : pos ≤ text.length) :
    node.Begins text pos ↔ ¬ (ofNode node).Dead text ⟨0, pos, []⟩ := by
  rw [Node.begins_iff_group]
  simp only [Dead, not_forall, not_not]
  constructor
  · rintro ⟨-, y, hy⟩
    obtain ⟨n, hn⟩ := reaches_of_match hy
    exact ⟨n, y.2, hn⟩
  · rintro ⟨n, final, hr⟩
    obtain ⟨y, hy, -⟩ := match_of_reaches hr
    exact ⟨h, y, hy⟩

theorem tries_ofNode (node : Node) (text : List Char) (origin : Nat) :
    (ofNode node).Tries text [] origin ((ofNode node).search text.toArray origin) :=
  tries_search (closed_ofNode node) (by rw [size_ofNode]; exact Nat.succ_pos _) text origin

/-- **A search fails just if there is no match** from its origin on. -/
theorem search_eq_none_iff {origin : Nat} :
    (ofNode node).search text.toArray origin = none ↔ ∀ i, origin ≤ i → ¬ node.Begins text i := by
  have htries := tries_ofNode node text origin
  constructor
  · intro hnone i hi hbegins
    rw [hnone] at htries
    exact (begins_iff hbegins.1).1 hbegins (htries.2 i hi hbegins.1)
  · intro h
    cases hs : (ofNode node).search text.toArray origin with
    | none => rfl
    | some final =>
      rw [hs] at htries
      obtain ⟨t, ht, -⟩ | ⟨-, i, hi, hlength, -, n, hr⟩ := htries
      · cases ht
      · exact absurd ((begins_iff hlength).2 fun hdead => hdead n final hr) (h i hi)

/-- **A search finds the leftmost match** from its origin on. -/
theorem isLeast_of_search {origin : Nat} {final : Slots}
    (h : (ofNode node).search text.toArray origin = some final) :
    ∃ start y, IsLeast {i | origin ≤ i ∧ node.Begins text i} start ∧
      (Node.group 0 node).Match text (start, []) y ∧ final = y.2 := by
  have htries := tries_ofNode node text origin
  rw [h] at htries
  obtain ⟨t, ht, -⟩ | ⟨-, i, hi, hlength, hbefore, n, hr⟩ := htries
  · cases ht
  · obtain ⟨y, hy, hfinal⟩ := match_of_reaches hr
    refine ⟨i, y, ⟨⟨hi, Node.begins_iff_group.2 ⟨hlength, y, hy⟩⟩, ?_⟩, hy, hfinal⟩
    rintro j ⟨hj, hbegins⟩
    by_contra hlt
    exact (begins_iff hbegins.1).1 hbegins (hbefore j hj (Nat.not_le.1 hlt))

end Program

end KeyTrace
