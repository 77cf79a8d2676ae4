import KeyTrace.Proofs.Pattern.Layout

/-!
# What an expression matches is reached by its code

The other half of `Node.leads_code`. Where an expression leads from one place to another, its code
has a way from its address to its exit: whatever is reached from the exit at the second place is
reached from the address at the first one. Loops are entered as often as the match repeats their
body, so that the induction is on the number of rounds.

## Main definitions

* `Program.Follows`: what is reached from one address is reached from another one before it.

## Main results

* `Node.follows_code`: the code of an expression follows its meaning.
* `Program.reaches_of_match`: a program that was made of an expression reaches each of its matches.
-/

namespace KeyTrace

namespace Program

variable {p : Program} {text : List Char} {n pc pos next : Nat} {s final : Slots}

/-! ### One instruction -/

theorem Reaches.jump (hp : p[pc]? = some (.jump next))
    (h : p.Reaches text n ⟨next, pos, s⟩ final) : p.Reaches text (n + 1) ⟨pc, pos, s⟩ final :=
  .step (by simp [advance, hp]) (List.mem_singleton_self _) h

theorem Reaches.save {slot : Nat} (hp : p[pc]? = some (.save slot next))
    (h : p.Reaches text n ⟨next, pos, (slot, pos) :: s⟩ final) :
    p.Reaches text (n + 1) ⟨pc, pos, s⟩ final :=
  .step (by simp [advance, hp]) (List.mem_singleton_self _) h

theorem Reaches.set {k : CharClass} {c : Char} (hp : p[pc]? = some (.set k next))
    (hc : text[pos]? = some c) (hk : k.mem c = true)
    (h : p.Reaches text n ⟨next, pos + 1, s⟩ final) : p.Reaches text (n + 1) ⟨pc, pos, s⟩ final :=
  .step (by simp [advance, hp, hc, hk]) (List.mem_singleton_self _) h

theorem Reaches.look {l : Look} (hp : p[pc]? = some (.look l next))
    (hl : l.holds (Node.before? text pos) text[pos]? = true)
    (h : p.Reaches text n ⟨next, pos, s⟩ final) : p.Reaches text (n + 1) ⟨pc, pos, s⟩ final := by
  have hadvance : p.advance text.toArray ⟨pc, pos, s⟩ =
      if l.holds (Node.before? text pos) text[pos]? then .goOn [⟨next, pos, s⟩] else .goOn [] := by
    simp only [advance, hp, List.getElem?_toArray, Node.before?]
    rfl
  rw [if_pos hl] at hadvance
  exact .step hadvance (List.mem_singleton_self _) h

theorem Reaches.split {a b : Nat} (hp : p[pc]? = some (.split a b))
    (h : p.Reaches text n ⟨a, pos, s⟩ final ∨ p.Reaches text n ⟨b, pos, s⟩ final) :
    p.Reaches text (n + 1) ⟨pc, pos, s⟩ final := by
  have hadvance : p.advance text.toArray ⟨pc, pos, s⟩ =
      .goOn [⟨a, pos, s⟩, ⟨b, pos, s⟩] := by simp [advance, hp]
  rcases h with h | h
  · exact .step hadvance (List.mem_cons_self ..) h
  · exact .step hadvance (List.mem_cons_of_mem _ (List.mem_singleton_self _)) h

/-- A fork leads into the body. -/
theorem Reaches.enter {greedy : Bool} {body leave : Nat}
    (hp : p[pc]? = some (Node.fork greedy body leave))
    (h : p.Reaches text n ⟨body, pos, s⟩ final) : p.Reaches text (n + 1) ⟨pc, pos, s⟩ final := by
  cases greedy with
  | true => exact .split hp (Or.inl h)
  | false => exact .split hp (Or.inr h)

/-- A fork leads past the body. -/
theorem Reaches.leave {greedy : Bool} {body leave : Nat}
    (hp : p[pc]? = some (Node.fork greedy body leave))
    (h : p.Reaches text n ⟨leave, pos, s⟩ final) : p.Reaches text (n + 1) ⟨pc, pos, s⟩ final := by
  cases greedy with
  | true => exact .split hp (Or.inr h)
  | false => exact .split hp (Or.inl h)

/-! ### From the exit back to an address -/

/-- What is reached from `exit` is reached from `base`, at a place that is related to it. -/
def Follows (p : Program) (text : List Char) (R : Nat × Slots → Nat × Slots → Prop)
    (base exit : Nat) : Prop :=
  ∀ x y final, R x y → (∃ n, p.Reaches text n ⟨exit, y.1, y.2⟩ final) →
    ∃ n, p.Reaches text n ⟨base, x.1, x.2⟩ final

namespace Follows

variable {R R' : Nat × Slots → Nat × Slots → Prop} {a b c : Nat}

theorem mono (h : p.Follows text R a b) (hR : ∀ x y, R' x y → R x y) : p.Follows text R' a b := by
  intro x y final hxy hr
  exact h x y final (hR x y hxy) hr

theorem trans (h : p.Follows text R a b) (h' : p.Follows text R' b c) :
    p.Follows text (fun x y => ∃ z, R x z ∧ R' z y) a c := by
  rintro x y final ⟨z, hxz, hzy⟩ hr
  exact h x z final hxz (h' z y final hzy hr)

/-- A fork at `b` that goes into a body, which comes back to the fork, or on to `c`. -/
theorem loop {greedy : Bool} (hp : p[b]? = some (Node.fork greedy a c))
    (h : p.Follows text R a b) : p.Follows text (fun x y => ∃ n, Node.Times R n x y) b c := by
  rintro x y final ⟨n, hn⟩ hr
  induction n generalizing x with
  | zero =>
    obtain rfl := hn
    obtain ⟨m, hm⟩ := hr
    exact ⟨m + 1, hm.leave hp⟩
  | succ n ih =>
    obtain ⟨z, hxz, hrest⟩ := hn
    obtain ⟨m, hm⟩ := h x z final hxz (ih z hrest)
    exact ⟨m + 1, hm.enter hp⟩

variable {code : Nat → Nat → List Inst} {size : Nat}
  (hcode : ∀ base exit, p.Placed base (code base exit) → p.Follows text R base exit)
  (hsize : ∀ base exit, (code base exit).length = size)

include hcode hsize

theorem copies {n base exit : Nat} (hp : p.Placed base (Node.copies code size (n + 1) base exit)) :
    p.Follows text (Node.Times R (n + 1)) base exit := by
  induction n generalizing base with
  | zero =>
    refine (hcode _ _ hp).mono ?_
    rintro x y ⟨z, hxz, rfl⟩
    exact hxz
  | succ n ih =>
    have hright := hp.right
    rw [hsize] at hright
    exact (hcode _ _ hp.left).trans (ih hright)

/-- Each of `n` bodies may be left out, together with those after it. -/
theorem optionals {greedy : Bool} {n i base : Nat} (hi : i ≤ n)
    (hp : p.Placed base (Node.optionals code size greedy n base (base + n * (size + 1)))) :
    p.Follows text (Node.Times R i) base (base + n * (size + 1)) := by
  intro x y final hxy hr
  induction n generalizing base x i with
  | zero =>
    obtain rfl : i = 0 := by omega
    obtain rfl := hxy
    rwa [Nat.zero_mul] at hr
  | succ n ih =>
    have hexit : base + (n + 1) * (size + 1) = base + 1 + size + n * (size + 1) := by ring
    rw [hexit] at hp hr
    cases i with
    | zero =>
      obtain rfl := hxy
      obtain ⟨m, hm⟩ := hr
      exact ⟨m + 1, hm.leave hp.head⟩
    | succ i =>
      obtain ⟨z, hxz, hrest⟩ := hxy
      have hright := hp.tail.right
      rw [hsize] at hright
      obtain ⟨m, hm⟩ := hcode _ _ hp.tail.left x z final hxz
        (ih (by omega) hright z hrest hr)
      exact ⟨m + 1, hm.enter hp.head⟩

end Follows

end Program

namespace Node

variable {p : Program} {text : List Char}

theorem follows_textCode (cs : List Char) {base exit : Nat}
    (hp : p.Placed base (textCode cs base exit)) :
    p.Follows text ((literal cs).Match text) base exit := by
  induction cs generalizing base with
  | nil =>
    rintro x y final ⟨-, rfl⟩ ⟨n, hn⟩
    exact ⟨n + 1, hn.jump hp.head⟩
  | cons c rest ih =>
    rintro x y final ⟨hstart, rfl⟩ ⟨n, hn⟩
    have hlt : x.1 < text.length := by
      have hlength := hstart.length_le
      simp only [List.length_cons, List.length_drop] at hlength
      omega
    rw [List.drop_eq_getElem_cons hlt, List.cons_prefix_cons] at hstart
    obtain ⟨hhead, htail⟩ := hstart
    have hchar : text[x.1]? = some c := by rw [List.getElem?_eq_getElem hlt, hhead]
    have hmem : (CharClass.single c).mem c = true := by simp
    cases rest with
    | nil => exact ⟨n + 1, hn.set hp.head hchar hmem⟩
    | cons d rest =>
      have hplace : x.1 + (c :: d :: rest).length = x.1 + 1 + (d :: rest).length := by
        simp only [List.length_cons]
        omega
      rw [hplace] at hn
      obtain ⟨m, hm⟩ := ih hp.tail (x.1 + 1, x.2) _ final ⟨htail, rfl⟩ ⟨n, hn⟩
      exact ⟨m + 1, hm.set hp.head hchar hmem⟩

/-! ### Repetitions -/

section Repetition

variable {b : Node} {greedy : Bool} {base exit : Nat}
  (ih : ∀ base exit, p.Placed base (b.code base exit) → p.Follows text (b.Match text) base exit)

include ih

theorem follows_star (hp : p.Placed base ((rep 0 none greedy b).code base exit)) :
    p.Follows text ((rep 0 none greedy b).Match text) base exit := by
  have htimes : ∀ x y, (rep 0 none greedy b).Match text x y →
      ∃ n, Times (b.Match text) n x y := by
    rintro x y ⟨n, -, -, hn⟩
    exact ⟨n, hn⟩
  simp only [code, beq_self_eq_true, if_true] at hp
  split at hp
  · exact (Program.Follows.loop hp.head (ih _ _ hp.tail)).mono htimes
  · -- The first round is entered through a fork of its own.
    have hfork := hp.tail.right
    rw [length_code] at hfork
    have hbody := ih _ _ hp.tail.left
    have hloop := Program.Follows.loop hfork.head hbody
    rintro x y final hxy hr
    obtain ⟨n, hn⟩ := htimes x y hxy
    cases n with
    | zero =>
      obtain rfl := hn
      obtain ⟨m, hm⟩ := hr
      exact ⟨m + 1, hm.leave hp.head⟩
    | succ n =>
      obtain ⟨z, hxz, hrest⟩ := hn
      obtain ⟨m, hm⟩ := hbody x z final hxz (hloop z y final ⟨n, hrest⟩ hr)
      exact ⟨m + 1, hm.enter hp.head⟩

theorem follows_atLeast {lo : Nat}
    (hp : p.Placed base ((rep (lo + 1) none greedy b).code base exit)) :
    p.Follows text ((rep (lo + 1) none greedy b).Match text) base exit := by
  have hcode : (rep (lo + 1) none greedy b).code base exit =
      copies b.code b.codeSize (lo + 1) base (base + (lo + 1) * b.codeSize) ++
        [fork greedy (base + lo * b.codeSize) exit] := rfl
  rw [hcode] at hp
  have hfork := hp.right
  rw [length_copies b.length_code] at hfork
  have hfirst := Program.Follows.copies ih b.length_code hp.left
  have hloop := Program.Follows.loop hfork.head (ih _ _ (placed_last_copy hp.left))
  refine (hfirst.trans hloop).mono ?_
  rintro x y ⟨n, hlo, -, hn⟩
  obtain ⟨k, rfl⟩ := Nat.exists_eq_add_of_le hlo
  obtain ⟨z, hxz, hzy⟩ := hn.split
  exact ⟨z, hxz, k, hzy⟩

theorem follows_between {lo hi : Nat}
    (hp : p.Placed base ((rep lo (some hi) greedy b).code base exit)) :
    p.Follows text ((rep lo (some hi) greedy b).Match text) base exit := by
  have hcode : (rep lo (some hi) greedy b).code base exit =
      copies b.code b.codeSize lo base (base + lo * b.codeSize) ++
        optionals b.code b.codeSize greedy (hi - lo) (base + lo * b.codeSize)
          (base + lo * b.codeSize + (hi - lo) * (b.codeSize + 1)) ++ [.jump exit] := rfl
  rw [hcode] at hp
  have hjump := hp.right
  have hoptionals := hp.left.right
  rw [List.length_append, length_copies b.length_code, length_optionals b.length_code,
    ← Nat.add_assoc] at hjump
  rw [length_copies b.length_code] at hoptionals
  rintro x y final ⟨n, hlo, hhi, hn⟩ ⟨m, hm⟩
  obtain ⟨k, rfl⟩ := Nat.exists_eq_add_of_le hlo
  obtain ⟨z, hxz, hzy⟩ := hn.split
  have hk : k ≤ hi - lo := by
    have hmost := hhi hi rfl
    omega
  have hz := Program.Follows.optionals ih b.length_code hk hoptionals z y final hzy
    ⟨m + 1, hm.jump hjump.head⟩
  cases lo with
  | zero =>
    obtain rfl := hxz
    rwa [Nat.zero_mul] at hz
  | succ lo => exact Program.Follows.copies ih b.length_code hp.left.left x z final hxz hz

theorem follows_rep {lo : Nat} {hi : Option Nat}
    (hp : p.Placed base ((rep lo hi greedy b).code base exit)) :
    p.Follows text ((rep lo hi greedy b).Match text) base exit := by
  cases hi with
  | none =>
    cases lo with
    | zero => exact follows_star ih hp
    | succ lo => exact follows_atLeast ih hp
  | some hi => exact follows_between ih hp

end Repetition

/-- **The code of an expression follows its meaning**: it has a way through for every match. -/
theorem follows_code (n : Node) {base exit : Nat} (hp : p.Placed base (n.code base exit)) :
    p.Follows text (n.Match text) base exit := by
  induction n generalizing base exit with
  | empty =>
    rintro x y final rfl ⟨n, hn⟩
    exact ⟨n + 1, hn.jump hp.head⟩
  | literal cs => exact follows_textCode cs hp
  | set k =>
    rintro x y final ⟨⟨c, hc, hk⟩, rfl⟩ ⟨n, hn⟩
    exact ⟨n + 1, hn.set hp.head hc hk⟩
  | look l =>
    rintro x y final ⟨hl, rfl⟩ ⟨n, hn⟩
    exact ⟨n + 1, hn.look hp.head hl⟩
  | group i b ih =>
    rintro x y final ⟨z, hz, rfl⟩ ⟨n, hn⟩
    have hend := hp.tail.right
    rw [length_code] at hend
    obtain ⟨m, hm⟩ := ih hp.tail.left (x.1, (2 * i, x.1) :: x.2) z final hz
      ⟨n + 1, hn.save hend.head⟩
    exact ⟨m + 1, hm.save hp.head⟩
  | cat a b iha ihb =>
    have hright := hp.right
    rw [length_code] at hright
    exact (iha hp.left).trans (ihb hright)
  | alt a b iha ihb =>
    have hright := hp.tail.right
    rw [length_code] at hright
    rintro x y final (hxy | hxy) hr
    · obtain ⟨m, hm⟩ := iha hp.tail.left x y final hxy hr
      exact ⟨m + 1, .split hp.head (Or.inl hm)⟩
    · obtain ⟨m, hm⟩ := ihb hright x y final hxy hr
      exact ⟨m + 1, .split hp.head (Or.inr hm)⟩
  | rep lo hi greedy b ih => exact follows_rep (fun _ _ => ih) hp

end Node

/-- **A program that was made of an expression reaches each of its matches.** -/
theorem Program.reaches_of_match {node : Node} {text : List Char} {start : Nat} {y : Nat × Slots}
    (h : (Node.group 0 node).Match text (start, []) y) :
    ∃ n, (Program.ofNode node).Reaches text n ⟨0, start, []⟩ y.2 := by
  have hp := Program.placed_ofNode node
  have haccept := hp.right
  rw [Node.length_code, Nat.zero_add] at haccept
  exact Node.follows_code _ hp.left (start, []) y y.2 h ⟨0, .accept haccept.head⟩

end KeyTrace
