import KeyTrace.Proofs.Pattern.Meaning

/-!
# The code of an expression does what the expression means

An expression's code is laid out at an address in a program and goes on to its exit. Whatever leads
from there to the end of the program leaves the code through this exit, and has matched the
expression by then: `Node.leads_code`. The number of steps that are left goes down on the way,
which carries the induction through loops.

## Main definitions

* `Program.Reaches`: a thread leads to a match in so many steps.
* `Program.Placed`: code stands at an address.
* `Program.Leads`: what starts at one address passes through another one.

## Main results

* `Node.length_code`: the length of an expression's code.
* `Node.leads_code`: the code of an expression matches it.
* `Program.match_of_reaches`: a program that was made of an expression matches it.
-/

namespace KeyTrace

namespace Program

/-- A thread leads to a match with the given slots in so many steps. -/
inductive Reaches (p : Program) (text : List Char) : Nat → Thread → Slots → Prop
  | accept {t : Thread} (h : p[t.pc]? = some .accept) : Reaches p text 0 t t.slots
  | step {n : Nat} {t t' : Thread} {threads : List Thread} {final : Slots}
      (h : p.advance text.toArray t = .goOn threads) (ht : t' ∈ threads)
      (hr : Reaches p text n t' final) : Reaches p text (n + 1) t final

variable {p : Program} {text : List Char} {n pc pos : Nat} {s final : Slots}

/-! ### One instruction -/

theorem reaches_jump {next : Nat} (hp : p[pc]? = some (.jump next))
    (h : p.Reaches text n ⟨pc, pos, s⟩ final) :
    ∃ m < n, p.Reaches text m ⟨next, pos, s⟩ final := by
  cases h with
  | accept h => simp [hp] at h
  | @step m _ _ _ _ h ht hr =>
    simp only [advance, hp, Progress.goOn.injEq] at h
    obtain rfl := List.mem_singleton.1 (h ▸ ht)
    exact ⟨m, Nat.lt_succ_self m, hr⟩

theorem reaches_save {slot next : Nat} (hp : p[pc]? = some (.save slot next))
    (h : p.Reaches text n ⟨pc, pos, s⟩ final) :
    ∃ m < n, p.Reaches text m ⟨next, pos, (slot, pos) :: s⟩ final := by
  cases h with
  | accept h => simp [hp] at h
  | @step m _ _ _ _ h ht hr =>
    simp only [advance, hp, Progress.goOn.injEq] at h
    obtain rfl := List.mem_singleton.1 (h ▸ ht)
    exact ⟨m, Nat.lt_succ_self m, hr⟩

theorem reaches_split {a b : Nat} (hp : p[pc]? = some (.split a b))
    (h : p.Reaches text n ⟨pc, pos, s⟩ final) :
    ∃ m < n, p.Reaches text m ⟨a, pos, s⟩ final ∨ p.Reaches text m ⟨b, pos, s⟩ final := by
  cases h with
  | accept h => simp [hp] at h
  | @step m _ _ _ _ h ht hr =>
    simp only [advance, hp, Progress.goOn.injEq] at h
    refine ⟨m, Nat.lt_succ_self m, ?_⟩
    rw [← h, List.mem_pair] at ht
    rcases ht with rfl | rfl
    · exact Or.inl hr
    · exact Or.inr hr

theorem reaches_set {k : CharClass} {next : Nat} (hp : p[pc]? = some (.set k next))
    (h : p.Reaches text n ⟨pc, pos, s⟩ final) :
    ∃ m < n, (∃ c, text[pos]? = some c ∧ k.mem c = true) ∧
      p.Reaches text m ⟨next, pos + 1, s⟩ final := by
  cases h with
  | accept h => simp [hp] at h
  | @step m _ _ _ _ h ht hr =>
    simp only [advance, hp, List.getElem?_toArray] at h
    split at h
    · rename_i c hc
      split at h
      · rename_i hk
        obtain rfl := List.mem_singleton.1 (Progress.goOn.inj h ▸ ht)
        exact ⟨m, Nat.lt_succ_self m, ⟨c, hc, hk⟩, hr⟩
      · obtain rfl := Progress.goOn.inj h
        cases ht
    · obtain rfl := Progress.goOn.inj h
      cases ht

theorem reaches_look {l : Look} {next : Nat} (hp : p[pc]? = some (.look l next))
    (h : p.Reaches text n ⟨pc, pos, s⟩ final) :
    ∃ m < n, l.holds (Node.before? text pos) text[pos]? = true ∧
      p.Reaches text m ⟨next, pos, s⟩ final := by
  cases h with
  | accept h => simp [hp] at h
  | @step m _ _ _ _ h ht hr =>
    have hadvance : p.advance text.toArray ⟨pc, pos, s⟩ =
        if l.holds (Node.before? text pos) text[pos]? then .goOn [⟨next, pos, s⟩]
        else .goOn [] := by
      simp only [advance, hp, List.getElem?_toArray, Node.before?]
      rfl
    rw [hadvance] at h
    split at h
    · rename_i hl
      obtain rfl := List.mem_singleton.1 (Progress.goOn.inj h ▸ ht)
      exact ⟨m, Nat.lt_succ_self m, hl, hr⟩
    · obtain rfl := Progress.goOn.inj h
      cases ht

/-! ### Code at an address -/

/-- The code stands in the program from an address on. -/
def Placed (p : Program) (base : Nat) (code : List Inst) : Prop :=
  ∀ i, i < code.length → p[base + i]? = code[i]?

theorem Placed.head {base : Nat} {i : Inst} {code : List Inst} (h : p.Placed base (i :: code)) :
    p[base]? = some i := by
  simpa using h 0 (by simp)

theorem Placed.tail {base : Nat} {i : Inst} {code : List Inst} (h : p.Placed base (i :: code)) :
    p.Placed (base + 1) code := by
  intro j hj
  have := h (j + 1) (by simpa using hj)
  rwa [List.getElem?_cons_succ, ← Nat.add_assoc, Nat.add_right_comm] at this

theorem Placed.left {base : Nat} {code more : List Inst} (h : p.Placed base (code ++ more)) :
    p.Placed base code := by
  intro j hj
  rw [h j (by simp only [List.length_append]; omega), List.getElem?_append_left hj]

theorem Placed.right {base : Nat} {code more : List Inst} (h : p.Placed base (code ++ more)) :
    p.Placed (base + code.length) more := by
  intro j hj
  rw [Nat.add_assoc, h _ (by simp only [List.length_append]; omega),
    List.getElem?_append_right (Nat.le_add_right ..), Nat.add_sub_cancel_left]

theorem reaches_fork {greedy : Bool} {body leave : Nat}
    (hp : p[pc]? = some (Node.fork greedy body leave))
    (h : p.Reaches text n ⟨pc, pos, s⟩ final) :
    ∃ m < n, p.Reaches text m ⟨body, pos, s⟩ final ∨ p.Reaches text m ⟨leave, pos, s⟩ final := by
  cases greedy with
  | true => exact reaches_split hp h
  | false =>
    obtain ⟨m, hm, hr⟩ := reaches_split hp h
    exact ⟨m, hm, hr.symm⟩

end Program

namespace Node

/-! ### The length of code -/

theorem length_textCode (cs : List Char) (base exit : Nat) :
    (textCode cs base exit).length = max 1 cs.length := by
  induction cs generalizing base with
  | nil => rfl
  | cons c rest ih =>
    cases rest with
    | nil => rfl
    | cons d rest =>
      rw [textCode, List.length_cons, ih]
      · simp only [List.length_cons]
        omega
      · exact nofun

theorem length_copies {code : Nat → Nat → List Inst} {size : Nat}
    (hcode : ∀ base exit, (code base exit).length = size) (n base exit : Nat) :
    (copies code size n base exit).length = n * size := by
  fun_induction copies code size n base exit with
  | case1 => rw [Nat.zero_mul]; rfl
  | case2 base exit => rw [hcode, Nat.one_mul]
  | case3 n base exit ih => rw [List.length_append, hcode, ih, Nat.add_comm, ← Nat.succ_mul]

theorem length_optionals {code : Nat → Nat → List Inst} {size : Nat}
    (hcode : ∀ base exit, (code base exit).length = size) (greedy : Bool) (n base exit : Nat) :
    (optionals code size greedy n base exit).length = n * (size + 1) := by
  induction n generalizing base with
  | zero => rw [Nat.zero_mul]; rfl
  | succ n ih => rw [optionals, List.length_cons, List.length_append, hcode, ih]; ring

/-- The code of an expression has the length that its layout counts on. -/
theorem length_code (n : Node) (base exit : Nat) : (n.code base exit).length = n.codeSize := by
  induction n generalizing base exit with
  | empty => rfl
  | literal cs => exact length_textCode cs base exit
  | set k => rfl
  | look l => rfl
  | group i b ih => simp [code, codeSize, ih]
  | cat a b iha ihb => simp [code, codeSize, iha, ihb]
  | alt a b iha ihb => simp [code, codeSize, iha, ihb]
  | rep lo hi greedy b ih =>
    cases hi with
    | none =>
      by_cases hlo : lo = 0
      · subst hlo
        by_cases hb : b.takesText = true
        · simp [code, codeSize, hb, ih]
        · simp [code, codeSize, hb, ih]
      · simp [code, codeSize, hlo, length_copies ih]
    | some h => simp [code, codeSize, length_copies ih, length_optionals ih]; ring

end Node

/-! ### From an address to the exit -/

/-- What starts at `base` passes through `exit`, which is related to where it started, with fewer
steps left. -/
def Program.Leads (p : Program) (text : List Char) (R : Nat × Slots → Nat × Slots → Prop)
    (base exit : Nat) : Prop :=
  ∀ n x final, p.Reaches text n ⟨base, x.1, x.2⟩ final →
    ∃ m < n, ∃ y, R x y ∧ p.Reaches text m ⟨exit, y.1, y.2⟩ final

namespace Program.Leads

variable {p : Program} {text : List Char} {R R' : Nat × Slots → Nat × Slots → Prop}
  {a b c : Nat}

theorem mono (h : p.Leads text R a b) (hR : ∀ x y, R x y → R' x y) : p.Leads text R' a b := by
  intro n x final hr
  obtain ⟨m, hm, y, hy, hr'⟩ := h n x final hr
  exact ⟨m, hm, y, hR x y hy, hr'⟩

theorem trans (h : p.Leads text R a b) (h' : p.Leads text R' b c) :
    p.Leads text (fun x y => ∃ z, R x z ∧ R' z y) a c := by
  intro n x final hr
  obtain ⟨m, hm, z, hz, hr'⟩ := h n x final hr
  obtain ⟨m', hm', y, hy, hr''⟩ := h' m z final hr'
  exact ⟨m', by omega, y, ⟨z, hz, hy⟩, hr''⟩

/-- A fork at `b` that goes into a body, which comes back to the fork, or on to `c`. The steps that
are left bound the number of rounds. -/
theorem loop {greedy : Bool} (hp : p[b]? = some (Node.fork greedy a c))
    (h : p.Leads text R a b) : p.Leads text (fun x y => ∃ n, Node.Times R n x y) b c := by
  intro n
  induction n using Nat.strong_induction_on with
  | _ n ih =>
    intro x final hr
    obtain ⟨m, hm, hr | hr⟩ := reaches_fork hp hr
    · obtain ⟨m', hm', z, hz, hr'⟩ := h m x final hr
      obtain ⟨m'', hm'', y, ⟨i, hi⟩, hr''⟩ := ih m' (by omega) z final hr'
      exact ⟨m'', by omega, y, ⟨i + 1, z, hz, hi⟩, hr''⟩
    · exact ⟨m, hm, x, ⟨0, rfl⟩, hr⟩

variable {code : Nat → Nat → List Inst} {size : Nat}
  (hcode : ∀ base exit, p.Placed base (code base exit) → p.Leads text R base exit)
  (hsize : ∀ base exit, (code base exit).length = size)

include hcode hsize

theorem copies {n base exit : Nat} (hp : p.Placed base (Node.copies code size (n + 1) base exit)) :
    p.Leads text (Node.Times R (n + 1)) base exit := by
  induction n generalizing base with
  | zero => exact (hcode _ _ hp).mono fun x y h => ⟨y, h, rfl⟩
  | succ n ih =>
    have hright := hp.right
    rw [hsize] at hright
    exact (hcode _ _ hp.left).trans (ih hright)

/-- Each of `n` bodies may be left out, together with those after it. -/
theorem optionals {greedy : Bool} {n base : Nat}
    (hp : p.Placed base (Node.optionals code size greedy n base (base + n * (size + 1))))
    {k : Nat} {x : Nat × Slots} {final : Slots} (h : p.Reaches text k ⟨base, x.1, x.2⟩ final) :
    ∃ m ≤ k, ∃ i ≤ n, ∃ y, Node.Times R i x y ∧
      p.Reaches text m ⟨base + n * (size + 1), y.1, y.2⟩ final := by
  induction n generalizing base k x with
  | zero =>
    rw [Nat.zero_mul]
    exact ⟨k, Nat.le_refl k, 0, Nat.le_refl 0, x, rfl, h⟩
  | succ n ih =>
    have hexit : base + (n + 1) * (size + 1) = base + 1 + size + n * (size + 1) := by ring
    rw [hexit] at hp ⊢
    obtain ⟨m, hm, hr | hr⟩ := reaches_fork hp.head h
    · have hright := hp.tail.right
      rw [hsize] at hright
      obtain ⟨m', hm', z, hz, hr'⟩ := hcode _ _ hp.tail.left m x final hr
      obtain ⟨m'', hm'', i, hi, y, hy, hr''⟩ := ih hright hr'
      exact ⟨m'', by omega, i + 1, by omega, y, ⟨z, hz, hy⟩, hr''⟩
    · exact ⟨m, hm.le, 0, Nat.zero_le _, x, rfl, hr⟩

end Program.Leads

namespace Node

variable {p : Program} {text : List Char}

theorem leads_textCode (cs : List Char) {base exit : Nat}
    (hp : p.Placed base (textCode cs base exit)) :
    p.Leads text ((literal cs).Match text) base exit := by
  induction cs generalizing base with
  | nil =>
    intro n x final h
    obtain ⟨m, hm, hr⟩ := Program.reaches_jump hp.head h
    exact ⟨m, hm, x, ⟨List.nil_prefix, rfl⟩, hr⟩
  | cons c rest ih =>
    -- One character is taken, and then what `R` takes from the next position.
    have hone : ∀ {next : Nat} {n : Nat} {x : Nat × Slots} {final : Slots},
        p[base]? = some (.set (CharClass.single c) next) →
          p.Reaches text n ⟨base, x.1, x.2⟩ final →
            ∃ m < n, text[x.1]? = some c ∧ p.Reaches text m ⟨next, x.1 + 1, x.2⟩ final := by
      intro next n x final hset h
      obtain ⟨m, hm, ⟨d, hd, hmem⟩, hr⟩ := Program.reaches_set hset h
      obtain rfl : d = c := by simpa using hmem
      exact ⟨m, hm, hd, hr⟩
    have hdrop : ∀ {i : Nat} {ds : List Char}, text[i]? = some c → ds <+: text.drop (i + 1) →
        c :: ds <+: text.drop i := by
      intro i ds hc hds
      obtain ⟨hlt, rfl⟩ := List.getElem?_eq_some_iff.1 hc
      rw [List.drop_eq_getElem_cons hlt]
      exact List.cons_prefix_cons.2 ⟨rfl, hds⟩
    intro n x final h
    cases rest with
    | nil =>
      obtain ⟨m, hm, hc, hr⟩ := hone hp.head h
      exact ⟨m, hm, _, ⟨hdrop hc List.nil_prefix, rfl⟩, hr⟩
    | cons d rest =>
      obtain ⟨m, hm, hc, hr⟩ := hone hp.head h
      obtain ⟨m', hm', y, ⟨hpre, rfl⟩, hr'⟩ := ih hp.tail m (x.1 + 1, x.2) final hr
      refine ⟨m', by omega, _, ⟨hdrop hc hpre, ?_⟩, hr'⟩
      simp only [List.length_cons, Prod.mk.injEq, and_true]
      omega

/-! ### Repetitions -/

section Repetition

variable {b : Node} {greedy : Bool} {base exit : Nat}
  (ih : ∀ base exit, p.Placed base (b.code base exit) → p.Leads text (b.Match text) base exit)

include ih

theorem leads_star (hp : p.Placed base ((rep 0 none greedy b).code base exit)) :
    p.Leads text ((rep 0 none greedy b).Match text) base exit := by
  have hmatch : ∀ x y, (∃ n, Times (b.Match text) n x y) →
      (rep 0 none greedy b).Match text x y := by
    rintro x y ⟨n, hn⟩
    exact ⟨n, Nat.zero_le n, nofun, hn⟩
  simp only [code, beq_self_eq_true, if_true] at hp
  split at hp
  · exact (Program.Leads.loop hp.head (ih _ _ hp.tail)).mono hmatch
  · have hfork := hp.tail.right
    rw [length_code] at hfork
    have hbody := ih _ _ hp.tail.left
    have hloop := Program.Leads.loop hfork.head hbody
    intro n x final h
    obtain ⟨m, hm, hr | hr⟩ := Program.reaches_fork hp.head h
    · obtain ⟨m', hm', z, hz, hr'⟩ := hbody m x final hr
      obtain ⟨m'', hm'', y, ⟨i, hi⟩, hr''⟩ := hloop m' z final hr'
      exact ⟨m'', by omega, y, hmatch _ _ ⟨i + 1, z, hz, hi⟩, hr''⟩
    · exact ⟨m, hm, x, hmatch _ _ ⟨0, rfl⟩, hr⟩

omit ih in
/-- The last of several copies stands where the fork after them leads back to. -/
theorem placed_last_copy {n : Nat}
    (hp : p.Placed base (copies b.code b.codeSize (n + 1) base exit)) :
    p.Placed (base + n * b.codeSize) (b.code (base + n * b.codeSize) exit) := by
  induction n generalizing base with
  | zero => simpa [copies] using hp
  | succ n ihn =>
    have hright := hp.right
    rw [length_code] at hright
    have hbase : base + (n + 1) * b.codeSize = base + b.codeSize + n * b.codeSize := by ring
    rw [hbase]
    exact ihn hright

theorem leads_atLeast {lo : Nat}
    (hp : p.Placed base ((rep (lo + 1) none greedy b).code base exit)) :
    p.Leads text ((rep (lo + 1) none greedy b).Match text) base exit := by
  have hcode : (rep (lo + 1) none greedy b).code base exit =
      copies b.code b.codeSize (lo + 1) base (base + (lo + 1) * b.codeSize) ++
        [fork greedy (base + lo * b.codeSize) exit] := rfl
  rw [hcode] at hp
  have hfork := hp.right
  rw [length_copies b.length_code] at hfork
  have hfirst := Program.Leads.copies ih b.length_code hp.left
  have hloop := Program.Leads.loop hfork.head (ih _ _ (placed_last_copy hp.left))
  refine (hfirst.trans hloop).mono ?_
  rintro x y ⟨z, hz, n, hn⟩
  exact ⟨lo + 1 + n, Nat.le_add_right .., nofun, hz.append hn⟩

theorem leads_between {lo hi : Nat}
    (hp : p.Placed base ((rep lo (some hi) greedy b).code base exit)) :
    p.Leads text ((rep lo (some hi) greedy b).Match text) base exit := by
  have hcode : (rep lo (some hi) greedy b).code base exit =
      copies b.code b.codeSize lo base (base + lo * b.codeSize) ++
        optionals b.code b.codeSize greedy (hi - lo) (base + lo * b.codeSize)
          (base + lo * b.codeSize + (hi - lo) * (b.codeSize + 1)) ++ [.jump exit] := rfl
  rw [hcode] at hp
  have hjump := hp.right
  have hoptionals := hp.left.right
  rw [List.length_append, length_copies b.length_code, length_optionals b.length_code,
    ← Nat.add_assoc] at hjump
  rw [length_copies b.length_code] at hoptionals
  intro n x final h
  have hfirst : ∃ m ≤ n, ∃ z, Times (b.Match text) lo x z ∧
      p.Reaches text m ⟨base + lo * b.codeSize, z.1, z.2⟩ final := by
    cases lo with
    | zero =>
      rw [Nat.zero_mul]
      exact ⟨n, Nat.le_refl n, x, rfl, h⟩
    | succ lo =>
      obtain ⟨m, hm, z, hz, hr⟩ := Program.Leads.copies ih b.length_code hp.left.left n x final h
      exact ⟨m, hm.le, z, hz, hr⟩
  obtain ⟨m, hm, z, hz, hr⟩ := hfirst
  obtain ⟨m', hm', i, hi', y, hy, hr'⟩ :=
    Program.Leads.optionals ih b.length_code hoptionals hr
  obtain ⟨m'', hm'', hr''⟩ := Program.reaches_jump hjump.head hr'
  refine ⟨m'', by omega, y, ⟨lo + i, Nat.le_add_right .., ?_, hz.append hy⟩, hr''⟩
  intro h' hh
  obtain rfl := Option.some.inj hh
  omega

theorem leads_rep {lo : Nat} {hi : Option Nat}
    (hp : p.Placed base ((rep lo hi greedy b).code base exit)) :
    p.Leads text ((rep lo hi greedy b).Match text) base exit := by
  cases hi with
  | none =>
    cases lo with
    | zero => exact leads_star ih hp
    | succ lo => exact leads_atLeast ih hp
  | some hi => exact leads_between ih hp

end Repetition

/-- **The code of an expression matches it**, before it goes on to its exit. -/
theorem leads_code (n : Node) {base exit : Nat} (hp : p.Placed base (n.code base exit)) :
    p.Leads text (n.Match text) base exit := by
  induction n generalizing base exit with
  | empty =>
    intro n x final h
    obtain ⟨m, hm, hr⟩ := Program.reaches_jump hp.head h
    exact ⟨m, hm, x, rfl, hr⟩
  | literal cs => exact leads_textCode cs hp
  | set k =>
    intro n x final h
    obtain ⟨m, hm, hc, hr⟩ := Program.reaches_set hp.head h
    exact ⟨m, hm, _, ⟨hc, rfl⟩, hr⟩
  | look l =>
    intro n x final h
    obtain ⟨m, hm, hl, hr⟩ := Program.reaches_look hp.head h
    exact ⟨m, hm, _, ⟨hl, rfl⟩, hr⟩
  | group i b ih =>
    intro n x final h
    have hend := hp.tail.right
    rw [length_code] at hend
    obtain ⟨m, hm, hr⟩ := Program.reaches_save hp.head h
    obtain ⟨m', hm', z, hz, hr'⟩ := ih hp.tail.left m (x.1, (2 * i, x.1) :: x.2) final hr
    obtain ⟨m'', hm'', hr''⟩ := Program.reaches_save hend.head hr'
    exact ⟨m'', by omega, _, ⟨z, hz, rfl⟩, hr''⟩
  | cat a b iha ihb =>
    have hright := hp.right
    rw [length_code] at hright
    exact (iha hp.left).trans (ihb hright)
  | alt a b iha ihb =>
    intro n x final h
    have hright := hp.tail.right
    rw [length_code] at hright
    obtain ⟨m, hm, hr | hr⟩ := Program.reaches_split hp.head h
    · obtain ⟨m', hm', y, hy, hr'⟩ := iha hp.tail.left m x final hr
      exact ⟨m', by omega, y, Or.inl hy, hr'⟩
    · obtain ⟨m', hm', y, hy, hr'⟩ := ihb hright m x final hr
      exact ⟨m', by omega, y, Or.inr hy, hr'⟩
  | rep lo hi greedy b ih => exact leads_rep (fun _ _ => ih) hp

end Node

/-- The code of an expression, noted as group zero, stands at the start of its program. -/
theorem Program.placed_ofNode (node : Node) :
    (Program.ofNode node).Placed 0
      ((Node.group 0 node).code 0 (Node.group 0 node).codeSize ++ [Inst.accept]) := by
  intro i _
  rw [Nat.zero_add, ofNode, List.getElem?_toArray]

/-- **A program that was made of an expression matches it.** Whatever it finds is a match of the
expression, noted as group zero. -/
theorem Program.match_of_reaches {node : Node} {text : List Char} {n start : Nat} {final : Slots}
    (h : (Program.ofNode node).Reaches text n ⟨0, start, []⟩ final) :
    ∃ y, (Node.group 0 node).Match text (start, []) y ∧ final = y.2 := by
  have hp := Program.placed_ofNode node
  have haccept := hp.right
  rw [Node.length_code, Nat.zero_add] at haccept
  obtain ⟨m, -, y, hy, hr⟩ := Node.leads_code _ hp.left n (start, []) final h
  refine ⟨y, hy, ?_⟩
  cases hr with
  | accept => rfl
  | step hstep => simp [advance, haccept.head] at hstep

end KeyTrace
