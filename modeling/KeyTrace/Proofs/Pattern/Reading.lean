import KeyTrace.Pattern
import KeyTrace.Proofs.Pattern.Language

/-!
# Reading what is spelled out

Reading goes on item by item, so that what a piece of text does to the state can be said once,
whatever follows it. A text that was escaped adds its characters and nothing else; a group around it
adds the group of them.

Some items look at the character after them: a group that begins with a question mark is a special
one, and a repetition sign before a question mark is a short one. They are therefore read together
with the piece that follows.

## Main definitions

* `Pattern.Reads`: a text leads from one state of reading to another.
* `ReadState.spell`: the state with the characters of a text added.
* `Pattern.Spells`: a text adds items that take the words of a language.

## Main results

* `Pattern.node_of_reads`: the expression that is read from a whole text.
* `Pattern.reads_escape`, `Pattern.reads_group`: reading an escaped text, and one between
  parentheses.
* `Pattern.language_of_spells`, `Pattern.language_of_bar`: the words of what is read.
-/

namespace KeyTrace

/-- All but the word characters. -/
def CharClass.nonWord : CharClass := (CharClass.word true).compl

/-- All but line feeds. -/
def CharClass.nonBreak : CharClass := (CharClass.single '\n').compl

theorem CharClass.proper_nonWord : Runs.Proper CharClass.nonWord where
  sorted := Runs.sorted_iff_isChain.2 (by decide +kernel)
  valid := by decide +kernel

theorem CharClass.ofClass_nonWord : Node.ofClass CharClass.nonWord = .set CharClass.nonWord := by
  have hsingle : Runs.single? CharClass.nonWord = Option.none := by decide +kernel
  rw [Node.ofClass, hsingle]

/-- Some text without line feeds, as long as possible. -/
def Node.dots : Node := .rep 1 none true (.set CharClass.nonBreak)

theorem Node.proper_dots : Node.dots.Proper where
  sorted := Runs.sorted_iff_isChain.2 (by decide)
  valid := by decide

namespace Pattern

/-- Reading a text leads from one state to another, whatever follows the text. -/
def Reads (st : ReadState) (s : List Char) (st' : ReadState) : Prop :=
  ∀ fuel rest, (s ++ rest).length < fuel → ∃ fuel', rest.length < fuel' ∧
    readFrom fuel st (s ++ rest) = readFrom fuel' st' rest

variable {st st' st'' : ReadState} {c : Char} {s t : List Char}

namespace Reads

theorem nil (st : ReadState) : Reads st [] st := fun fuel _ h => ⟨fuel, h, rfl⟩

theorem trans (h : Reads st s st') (h' : Reads st' t st'') : Reads st (s ++ t) st'' := by
  intro fuel rest hfuel
  rw [List.append_assoc] at hfuel ⊢
  obtain ⟨fuel', hfuel', hread⟩ := h fuel (t ++ rest) hfuel
  obtain ⟨fuel'', hfuel'', hread'⟩ := h' fuel' rest hfuel'
  exact ⟨fuel'', hfuel'', hread.trans hread'⟩

/-- One step, and then the rest of the piece. -/
theorem cons (hs : st.flags.spaced = false)
    (hstep : ∀ rest, readStep st (c :: (s ++ t) ++ rest) = some (st', t ++ rest))
    (h : Reads st' t st'') : Reads st (c :: (s ++ t)) st'' := by
  intro fuel rest hfuel
  cases fuel with
  | zero => cases hfuel
  | succ fuel =>
    have hlt : (t ++ rest).length < fuel := by
      simp only [List.length_append, List.length_cons] at hfuel ⊢
      omega
    obtain ⟨fuel', hfuel', hread⟩ := h fuel rest hlt
    refine ⟨fuel', hfuel', ?_⟩
    rw [← hread, List.cons_append, readFrom, hs, skip, if_neg Bool.false_ne_true]
    dsimp only
    rw [← List.cons_append, hstep, Option.bind_some]

/-- One step. -/
theorem step (hs : st.flags.spaced = false)
    (hstep : ∀ rest, readStep st (c :: s ++ rest) = some (st', rest)) :
    Reads st (c :: s) st' := by
  have h := cons (s := s) (t := []) hs (fun rest => by simpa using hstep rest) (nil st')
  rwa [List.append_nil] at h

end Reads

/-- The state that a whole text leads to. -/
theorem readFrom_of_reads {ignoreCase : Bool} (h : Reads (.initial ignoreCase) s st) :
    readFrom (s.length + 1) (.initial ignoreCase) s = some st := by
  obtain ⟨fuel, hfuel, hfrom⟩ := h (s.length + 1) [] (by simp)
  rw [List.append_nil] at hfrom
  rw [hfrom]
  cases fuel with
  | zero => cases hfuel
  | succ fuel =>
    cases hs : st.flags.spaced <;> simp [readFrom, skip, hs, dropBlank]

/-- **The expression that is read from a whole text.** -/
theorem node_of_reads {ignoreCase : Bool} {node : Node} {groups : Nat}
    (h : Reads (.initial ignoreCase) s st) (hread : readNode ignoreCase s = some (node, groups)) :
    node = st.current.node ∧ groups = st.count := by
  rw [readNode, readFrom_of_reads h, Option.bind_some] at hread
  split at hread
  · obtain ⟨rfl, rfl⟩ := Prod.mk.inj (Option.some.inj hread)
    exact ⟨rfl, rfl⟩
  · cases hread

/-! ### Characters -/

theorem nodeOf_literal (flags : Flags) (c : Char) :
    nodeOf flags (.literal c false) = some (characterNode flags c) := by
  simp [nodeOf]

/-- A character without a meaning of its own stands for itself. -/
theorem readStep_plain (h : isMeta c = false) (rest : List Char) :
    readStep st (c :: rest) = some (st.push (characterNode st.flags c), rest) := by
  have hne : ∀ d, isMeta d = true → c ≠ d := by
    intro d hd heq
    rw [heq, hd] at h
    cases h
  rw [readStep, nodeOf_literal, Option.map_some]
  all_goals exact hne _ rfl

/-- A character with a meaning of its own stands for itself after a backslash. -/
theorem readStep_escaped (h : isMeta c = true) (rest : List Char) :
    readStep st ('\\' :: c :: rest) = some (st.push (characterNode st.flags c), rest) := by
  have hdigits : ∀ d, isMeta d = true → ('0' ≤ d && d ≤ '9') = false := by
    intro d hd
    rw [isMeta, List.contains_iff_mem] at hd
    fin_cases hd <;> rfl
  have hescapable : isEscapable c = true := by rw [isEscapable, h, Bool.true_or]
  have hread : readEscape st.flags (c :: rest) = some (.literal c false, rest) := by
    unfold readEscape
    simp only [hdigits c h, hescapable, Bool.false_eq_true, if_false, if_true]
  rw [readStep, hread, Option.bind_some]
  dsimp only
  rw [nodeOf_literal, Option.map_some]

/-- The state with the characters of a text added. -/
def ReadState.spell (st : ReadState) (cs : List Char) : ReadState :=
  cs.foldl (fun st c => st.push (characterNode st.flags c)) st

theorem ReadState.spell_eq (st : ReadState) (cs : List Char) :
    st.spell cs = { st with
      items := (cs.map fun c => ⟨characterNode st.flags c, 0, true⟩).reverse ++ st.items } := by
  induction cs generalizing st with
  | nil => rfl
  | cons c cs ih =>
    change (st.push (characterNode st.flags c)).spell cs = _
    rw [ih]
    simp [ReadState.push]

theorem reads_escapeChar (hs : st.flags.spaced = false) (c : Char) :
    Reads st (escapeChar c) (st.push (characterNode st.flags c)) := by
  rw [escapeChar]
  split
  · rename_i h
    exact .step hs fun rest => readStep_escaped h rest
  · rename_i h
    exact .step hs fun rest => readStep_plain (by simpa using h) rest

/-- **Reading an escaped text** adds its characters. -/
theorem reads_escape (hs : st.flags.spaced = false) (cs : List Char) :
    Reads st (escape cs) (st.spell cs) := by
  induction cs generalizing st with
  | nil => exact .nil st
  | cons c cs ih =>
    rw [escape, List.flatMap_cons]
    exact (reads_escapeChar hs c).trans (ih hs)

/-! ### Groups and repetitions -/

/-- No escaped text begins with a sign that the item before it could take. -/
theorem exists_escape_eq_cons {cs : List Char} (h : cs ≠ []) :
    ∃ d more, escape cs = d :: more ∧ d ≠ '?' ∧ d ≠ '\x7b' := by
  cases cs with
  | nil => exact absurd rfl h
  | cons c cs =>
    rw [escape, List.flatMap_cons, escapeChar]
    split
    · exact ⟨'\\', _, rfl, by decide⟩
    · rename_i hc
      refine ⟨c, _, rfl, ?_, ?_⟩
      · rintro rfl
        exact hc rfl
      · rintro rfl
        exact hc rfl

/-- A group that begins with no question mark is noted. -/
theorem readOpening_noted (hs : st.flags.spaced = false) (hc : c ≠ '?') (rest : List Char) :
    readOpening st (c :: rest) = some (openNoted st, c :: rest) := by
  rw [readOpening, hs, skip, if_neg Bool.false_ne_true]
  split <;> first | rfl | exact absurd (List.cons.inj ‹_›).1 hc

/-- **Reading an escaped text between parentheses** adds the group of its characters. -/
theorem reads_group (hs : st.flags.spaced = false) {cs : List Char} (h : cs ≠ []) :
    Reads st ('(' :: (escape cs ++ [')'])) { st with
      items := ⟨Node.group (st.count + 1) ((openNoted st).spell cs).current.node,
        ((openNoted st).spell cs).current.depth + 1, true⟩ :: st.items
      count := st.count + 1 } := by
  obtain ⟨d, more, hcs, hd, -⟩ := exists_escape_eq_cons h
  have hs' : (openNoted st).flags.spaced = false := hs
  have hopen : Reads st ('(' :: ([] ++ escape cs)) ((openNoted st).spell cs) := by
    refine .cons hs (fun rest => ?_) (reads_escape hs' cs)
    rw [List.nil_append, hcs]
    exact readOpening_noted hs hd (more ++ rest)
  have hclose : Reads ((openNoted st).spell cs) [')'] { st with
      items := ⟨Node.group (st.count + 1) ((openNoted st).spell cs).current.node,
        ((openNoted st).spell cs).current.depth + 1, true⟩ :: st.items
      count := st.count + 1 } := by
    refine .step ?_ fun rest => ?_
    · rw [ReadState.spell_eq]
      exact hs'
    · change (closeGroup ((openNoted st).spell cs)).map _ = _
      rw [closeGroup, ReadState.spell_eq]
      rfl
  exact hopen.trans hclose

/-! ### The words of what is read -/

/-- One state has more items than another, which take the words of a language. -/
structure ReadState.Adds (st : ReadState) (L : Language Char) (st' : ReadState) : Prop where
  flags : st'.flags = st.flags
  branches : st'.branches = st.branches
  groups : st'.groups = st.groups
  items : ∃ added : List Item, st'.items = added.reverse ++ st.items ∧
    (∀ a ∈ added, a.isPart = true ∧ a.node.Proper) ∧ (added.map fun a => a.node.language).prod = L

theorem ReadState.Adds.trans {L M : Language Char} (h : st.Adds L st') (h' : st'.Adds M st'') :
    st.Adds (L * M) st'' where
  flags := h'.flags.trans h.flags
  branches := h'.branches.trans h.branches
  groups := h'.groups.trans h.groups
  items := by
    obtain ⟨added, hitems, hparts, rfl⟩ := h.items
    obtain ⟨more, hitems', hparts', rfl⟩ := h'.items
    refine ⟨added ++ more, ?_, fun a ha => ?_, ?_⟩
    · rw [hitems', hitems, List.reverse_append, List.append_assoc]
    · exact (List.mem_append.1 ha).elim (hparts a) (hparts' a)
    · rw [List.map_append, List.prod_append]

theorem ReadState.adds_push (st : ReadState) (n : Node) (h : n.Proper) :
    st.Adds n.language (st.push n) where
  flags := rfl
  branches := rfl
  groups := rfl
  items := ⟨[⟨n, 0, true⟩], rfl, by simpa using h, List.prod_singleton⟩

theorem characterNode_eq {flags : Flags} (h : flags.ignoreCase = false) (c : Char) :
    characterNode flags c = .literal [c] := by
  rw [characterNode, h, if_neg Bool.false_ne_true]

theorem ReadState.adds_spell {st : ReadState} (h : st.flags.ignoreCase = false) (cs : List Char) :
    st.Adds {cs} (st.spell cs) := by
  induction cs generalizing st with
  | nil =>
    refine ⟨rfl, rfl, rfl, [], rfl, nofun, ?_⟩
    exact Language.one_def
  | cons c cs ih =>
    have hspell : st.spell (c :: cs) = (st.push (.literal [c])).spell cs := by
      rw [← characterNode_eq h c]
      rfl
    have hflags : (st.push (.literal [c])).flags.ignoreCase = false := h
    have hpush : st.Adds {[c]} (st.push (.literal [c])) := st.adds_push (.literal [c]) trivial
    have hrest := hpush.trans (ih hflags)
    rwa [Node.singleton_mul_singleton, ← hspell] at hrest

theorem language_sequence {items : List Item} (h : ∀ a ∈ items, a.isPart = true) :
    (sequence items).node.language = (items.map fun a => a.node.language).prod := by
  unfold sequence
  split
  · exact List.prod_singleton.symm
  · rw [Node.language_sequence, List.filter_eq_self.2 h, List.map_map]
    rfl

/-- What the items of a sequence have, the sequence has. -/
theorem sequential_sequence {P : Node → Prop} (hP : Node.Sequential P) {items : List Item}
    (h : ∀ a ∈ items, P a.node) : P (sequence items).node := by
  unfold sequence
  split
  · exact h _ (List.mem_singleton_self _)
  · refine hP.sequence fun n hn => ?_
    obtain ⟨a, ha, rfl⟩ := List.mem_map.1 hn
    exact h a (List.mem_filter.1 ha).1

/-- The sequence that was begun last has the words of what was added to it. -/
theorem ReadState.Adds.language_sequence {L : Language Char} (h : st.Adds L st')
    (hitems : st.items = []) : (sequence st'.items.reverse).node.language = L := by
  obtain ⟨added, heq, hparts, rfl⟩ := h.items
  rw [heq, hitems, List.append_nil, List.reverse_reverse]
  exact Pattern.language_sequence fun a ha => (hparts a ha).1

theorem ReadState.Adds.proper_sequence {L : Language Char} (h : st.Adds L st')
    (hitems : st.items = []) : (sequence st'.items.reverse).node.Proper := by
  obtain ⟨added, heq, hparts, -⟩ := h.items
  rw [heq, hitems, List.append_nil, List.reverse_reverse]
  exact sequential_sequence Node.sequential_proper fun a ha => (hparts a ha).2

/-- Without alternatives, the current item is the current sequence. -/
theorem ReadState.current_eq (h : st.branches = []) : st.current = sequence st.items.reverse := by
  rw [ReadState.current, h]
  rfl

/-- Reading a piece of text, with case minded, adds items that take the words of a language. -/
def Spells (s : List Char) (L : Language Char) : Prop :=
  ∀ st : ReadState, st.flags = .initial false → ∃ st', Reads st s st' ∧ st.Adds L st'

namespace Spells

variable {L M : Language Char}

theorem append (h : Spells s L) (h' : Spells t M) : Spells (s ++ t) (L * M) := by
  intro st hst
  obtain ⟨st', hreads, hadds⟩ := h st hst
  obtain ⟨st'', hreads', hadds'⟩ := h' st' (hadds.flags.trans hst)
  exact ⟨st'', hreads.trans hreads', hadds.trans hadds'⟩

/-- An escaped text stands for itself. -/
theorem escape (cs : List Char) : Spells (Pattern.escape cs) {cs} := by
  intro st hst
  have hspaced : st.flags.spaced = false := by rw [hst]; rfl
  have hcase : st.flags.ignoreCase = false := by rw [hst]; rfl
  exact ⟨st.spell cs, reads_escape hspaced cs, ReadState.adds_spell hcase cs⟩

/-- A group of escaped text takes the same text. -/
theorem group {cs : List Char} (h : cs ≠ []) :
    Spells ('(' :: (Pattern.escape cs ++ [')'])) {cs} := by
  intro st hst
  have hspaced : st.flags.spaced = false := by rw [hst]; rfl
  have hcase : (openNoted st).flags.ignoreCase = false := by
    change st.flags.ignoreCase = false
    rw [hst]
    rfl
  have hadds := ReadState.adds_spell hcase cs
  refine ⟨_, reads_group hspaced h, rfl, rfl, rfl, [_], rfl, ?_, ?_⟩
  · intro a ha
    obtain rfl := List.mem_singleton.1 ha
    refine ⟨rfl, ?_⟩
    rw [ReadState.current_eq hadds.branches]
    exact hadds.proper_sequence rfl
  · rw [List.map_singleton, List.prod_singleton, ReadState.current_eq hadds.branches]
    exact hadds.language_sequence rfl

/-- A sign for other than word characters takes one of them. -/
theorem nonWord : Spells ['\\', 'W'] (CharClass.words CharClass.nonWord) := by
  intro st hst
  have hspaced : st.flags.spaced = false := by rw [hst]; rfl
  refine ⟨st.push (.set CharClass.nonWord), .step hspaced fun rest => ?_,
    st.adds_push (.set CharClass.nonWord) CharClass.proper_nonWord⟩
  change (readEscape st.flags ('W' :: rest)).bind _ = _
  rw [hst]
  change some (st.push (Node.ofClass CharClass.nonWord), rest) = _
  rw [CharClass.ofClass_nonWord]

/-- A repeated dot takes some text, here before another piece that is no question mark. -/
theorem dots {c : Char} (h : Spells (c :: s) L) (hc : c ≠ '?') :
    Spells ('.' :: '+' :: c :: s) (Node.dots.language * L) := by
  intro st hst
  have hspaced : st.flags.spaced = false := by rw [hst]; rfl
  have hdot : Reads st ['.'] (st.push (.set CharClass.nonBreak)) := by
    refine .step hspaced fun rest => ?_
    change (dotClass st.flags).map _ = _
    rw [hst]
    rfl
  have hadds : st.Adds Node.dots.language
      { st with items := ⟨Node.dots, 1, true⟩ :: st.items } :=
    ⟨rfl, rfl, rfl, [_], rfl, by simpa using Node.proper_dots, List.prod_singleton⟩
  obtain ⟨st', hreads, hadds'⟩ := h { st with items := ⟨Node.dots, 1, true⟩ :: st.items } hst
  refine ⟨st', hdot.trans (.cons (s := []) hspaced (fun rest => ?_) hreads), hadds.trans hadds'⟩
  change readRepeat _ 1 none (c :: (s ++ rest)) = _
  unfold readRepeat
  split
  · rename_i heq
    exact absurd (List.cons.inj heq).1 hc
  · have hgreed : (true != st.flags.swapGreed) = true := by rw [hst]; rfl
    change (some { st with
      items := ⟨Node.repeated 1 none (true != st.flags.swapGreed) (.set CharClass.nonBreak), 1,
        true⟩ :: st.items }).map _ = _
    rw [hgreed]
    rfl

end Spells

/-- **The words of an expression** that is read from a piece of text. -/
theorem language_of_spells {L : Language Char} {node : Node} {groups : Nat} (h : Spells s L)
    (hread : readNode false s = some (node, groups)) : node.language = L := by
  obtain ⟨st, hreads, hadds⟩ := h (.initial false) rfl
  obtain ⟨rfl, -⟩ := node_of_reads hreads hread
  rw [ReadState.current_eq hadds.branches]
  exact hadds.language_sequence rfl

/-- The words of an expression that is read from two pieces of text with a bar between them. -/
theorem language_of_bar {L M : Language Char} {node : Node} {groups : Nat} (h : Spells s L)
    (h' : Spells t M) (hread : readNode false (s ++ '|' :: t) = some (node, groups)) :
    node.language = L + M := by
  obtain ⟨st, hreads, hadds⟩ := h (.initial false) rfl
  obtain ⟨st', hreads', hadds'⟩ :=
    h' { st with items := [], branches := sequence st.items.reverse :: st.branches } hadds.flags
  have hspaced : st.flags.spaced = false := by rw [hadds.flags]; rfl
  have hbar : Reads st ('|' :: ([] ++ t)) st' := .cons hspaced (fun rest => rfl) hreads'
  obtain ⟨rfl, -⟩ := node_of_reads (hreads.trans hbar) hread
  have hbranches : st'.branches = [sequence st.items.reverse] := by
    rw [hadds'.branches, hadds.branches]
    rfl
  have hcurrent : st'.current.node =
      Node.choice [(sequence st.items.reverse).node, (sequence st'.items.reverse).node] := by
    rw [ReadState.current, hbranches]
    rfl
  rw [hcurrent, Node.language_choice]
  · rw [List.map_cons, List.map_singleton, List.sum_cons, List.sum_singleton,
      hadds.language_sequence rfl, hadds'.language_sequence rfl]
  · intro n hn
    rcases List.mem_pair.1 hn with rfl | rfl
    · exact hadds.proper_sequence rfl
    · exact hadds'.proper_sequence rfl

end Pattern

end KeyTrace
