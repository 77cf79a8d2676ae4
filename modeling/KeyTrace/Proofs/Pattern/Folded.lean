import KeyTrace.Proofs.Pattern.Reading

/-!
# Texts without regard to case

An escaped text, read without regard to case, is a sequence of classes, one for the letter of each
character. There are no assertions and no groups in it, so that its words say all there is to say:
it leads from one place to another just if one of them stands between the two.

## Main definitions

* `Folding.words`: the texts that fold to the same letters as a given one.
* `Node.Plain`: expressions of texts and classes in a row.

## Main results

* `Node.match_of_mem_language`: a plain expression matches wherever one of its words stands.
* `Pattern.readNode_escape`: what is read from an escaped text.
* `Pattern.match_escape_iff`: where an escaped text is found without regard to case.
-/

namespace KeyTrace

/-- The texts that have, letter by letter, a character of the same group as a given text. -/
def Folding.words (key : List Char) : Language Char :=
  {w | List.Forall₂ (fun c d => d ∈ Folding.orbit c) key w}

theorem Folding.mem_words {key w : List Char} :
    w ∈ Folding.words key ↔ List.Forall₂ (fun c d => d ∈ Folding.orbit c) key w := Iff.rfl

theorem CharClass.mem_anyCase {c d : Char} :
    (CharClass.anyCase true c).mem d = true ↔ d ∈ Folding.orbit c := Runs.has_ofChars

theorem Folding.words_nil : Folding.words [] = 1 := by
  ext w
  rw [mem_words, List.forall₂_nil_left_iff]
  rfl

theorem Folding.words_cons (c : Char) (cs : List Char) :
    Folding.words (c :: cs) = (CharClass.anyCase true c).words * Folding.words cs := by
  ext w
  rw [mem_words, List.forall₂_cons_left_iff, Language.mem_mul]
  constructor
  · rintro ⟨d, w, hd, hw, rfl⟩
    exact ⟨[d], ⟨d, CharClass.mem_anyCase.2 hd, rfl⟩, w, hw, rfl⟩
  · rintro ⟨_, ⟨d, hd, rfl⟩, w, hw, rfl⟩
    exact ⟨d, w, CharClass.mem_anyCase.1 hd, hw, rfl⟩

namespace Node

/-! ### Plain expressions -/

/-- Texts and classes in a row, and nothing else. -/
def Plain : Node → Prop
  | empty => True
  | literal _ => True
  | set _ => True
  | cat a b => a.Plain ∧ b.Plain
  | _ => False

theorem sequential_plain : Sequential Plain where
  empty := trivial
  literal _ := trivial
  cat _ _ := Iff.rfl

theorem plain_ofClass (k : CharClass) : (ofClass k).Plain := by
  rw [ofClass]
  split
  · trivial
  · trivial

/-- **A plain expression matches wherever one of its words stands**, and notes nothing. -/
theorem match_of_mem_language {n : Node} (hn : n.Plain) {text w : List Char} {pos : Nat}
    (hw : w ∈ n.language) (hstart : w <+: text.drop pos) (s : Slots) :
    n.Match text (pos, s) (pos + w.length, s) := by
  induction n generalizing w pos with
  | empty =>
    obtain rfl : w = [] := hw
    rfl
  | literal cs =>
    obtain rfl : w = cs := hw
    exact ⟨hstart, rfl⟩
  | set k =>
    obtain ⟨c, hc, rfl⟩ := hw
    obtain ⟨rest, hrest⟩ := hstart
    refine ⟨⟨c, ?_, hc⟩, rfl⟩
    have hhead : (text.drop pos)[0]? = some c := by rw [← hrest]; rfl
    simpa using hhead
  | cat a b iha ihb =>
    obtain ⟨u, hu, v, hv, rfl⟩ := hw
    obtain ⟨rest, hrest⟩ := hstart
    have hu' : u <+: text.drop pos := ⟨v ++ rest, by simpa using hrest⟩
    have hv' : v <+: text.drop (pos + u.length) := by
      refine ⟨rest, ?_⟩
      rw [← List.drop_drop, ← hrest, List.append_assoc, List.drop_left]
    refine ⟨(pos + u.length, s), iha hn.1 hu hu', ?_⟩
    have hright := ihb hn.2 hv hv'
    simpa [Nat.add_assoc] using hright
  | _ => exact absurd hn id

end Node

namespace Pattern

/-! ### Escaped texts -/

theorem characterNode_anyCase {flags : Flags} (h : flags = .initial true) (c : Char) :
    characterNode flags c = Node.ofClass (CharClass.anyCase true c) := by
  rw [h]
  rfl

/-- Reading the characters of a text without regard to case adds their classes. -/
theorem ReadState.adds_spell_anyCase {st : ReadState} (h : st.flags = .initial true)
    (cs : List Char) : st.Adds (Folding.words cs) (st.spell cs) := by
  induction cs generalizing st with
  | nil => exact ⟨rfl, rfl, rfl, [], rfl, nofun, Folding.words_nil.symm⟩
  | cons c cs ih =>
    have hproper : Runs.Proper (CharClass.anyCase true c) := Runs.proper_ofChars _
    have hlanguage := Node.language_ofClass hproper
    have hnode : (Node.ofClass (CharClass.anyCase true c)).Proper := by
      rw [Node.ofClass]
      split
      · trivial
      · exact hproper
    have hpush := st.adds_push (Node.ofClass (CharClass.anyCase true c)) hnode
    rw [hlanguage, ← characterNode_anyCase h] at hpush
    rw [Folding.words_cons]
    exact hpush.trans (ih h)

/-- Items without parts of their own make a sequence that is not nested. -/
theorem depth_sequence {items : List Item} (h : ∀ a ∈ items, a.depth = 0) :
    (sequence items).depth ≤ 1 := by
  have hzero : (items.map Item.depth).foldl max 0 = 0 := by
    induction items with
    | nil => rfl
    | cons a rest ih =>
      rw [List.map_cons, List.foldl_cons, h a (List.mem_cons_self ..)]
      exact ih fun b hb => h b (List.mem_cons_of_mem a hb)
  unfold sequence
  split
  · rw [h _ (List.mem_singleton_self _)]
    omega
  · dsimp only
    rw [hzero]
    split
    · omega
    · omega

theorem ReadState.current_spell (ignoreCase : Bool) (key : List Char) :
    ((ReadState.initial ignoreCase).spell key).current =
      sequence (key.map fun c => ⟨characterNode (.initial ignoreCase) c, 0, true⟩) := by
  rw [ReadState.spell_eq, ReadState.current_eq rfl]
  simp [ReadState.initial]

/-- What is read from an escaped text are its characters. -/
theorem readNode_escape_eq (ignoreCase : Bool) (key : List Char) :
    readNode ignoreCase (escape key) =
      some (((ReadState.initial ignoreCase).spell key).current.node, 0) := by
  have hreads : Reads (.initial ignoreCase) (escape key)
      ((ReadState.initial ignoreCase).spell key) := reads_escape rfl key
  have hdepth : ((ReadState.initial ignoreCase).spell key).current.depth ≤ 1 := by
    rw [ReadState.current_spell]
    refine depth_sequence fun a ha => ?_
    obtain ⟨c, -, rfl⟩ := List.mem_map.1 ha
    rfl
  have hlimit : ((ReadState.initial ignoreCase).spell key).current.depth ≤ depthLimit :=
    hdepth.trans (by decide)
  have hgroups : ((ReadState.initial ignoreCase).spell key).groups = [] := by
    rw [ReadState.spell_eq]
    rfl
  have hcount : ((ReadState.initial ignoreCase).spell key).count = 0 := by
    rw [ReadState.spell_eq]
    rfl
  rw [readNode, readFrom_of_reads hreads, Option.bind_some, hgroups, hcount]
  simp [hlimit]

/-- **What is read from an escaped text** without regard to case: a plain expression whose words
are those that fold to the same letters. -/
theorem readNode_escape (key : List Char) : ∃ node, readNode true (escape key) = some (node, 0) ∧
    node.Plain ∧ node.language = Folding.words key := by
  have hadds : ReadState.Adds (.initial true) (Folding.words key)
      ((ReadState.initial true).spell key) := ReadState.adds_spell_anyCase rfl key
  refine ⟨_, readNode_escape_eq true key, ?_, ?_⟩
  · rw [ReadState.current_spell]
    refine sequential_sequence Node.sequential_plain fun a ha => ?_
    obtain ⟨c, -, rfl⟩ := List.mem_map.1 ha
    rw [characterNode_anyCase rfl]
    exact Node.plain_ofClass _
  · rw [ReadState.current_eq hadds.branches]
    exact hadds.language_sequence rfl

/-- **Where an escaped text is found** without regard to case: where a text stands that folds to the
same letters. -/
theorem match_escape_iff {key text : List Char} {node : Node} {groups start stop : Nat} {s : Slots}
    (h : readNode true (escape key) = some (node, groups)) :
    (∃ s', node.Match text (start, s) (stop, s')) ↔
      ∃ w ∈ Folding.words key, w <+: text.drop start ∧ stop = start + w.length := by
  obtain ⟨node', hread, hplain, hlanguage⟩ := readNode_escape key
  obtain ⟨rfl, -⟩ := Prod.mk.inj (Option.some.inj (hread.symm.trans h))
  rw [← hlanguage]
  constructor
  · rintro ⟨s', hmatch⟩
    obtain ⟨w, hw, hstart, hstop⟩ := Node.exists_word_of_match hmatch
    exact ⟨w, hw, hstart, hstop⟩
  · rintro ⟨w, hw, hstart, rfl⟩
    exact ⟨s, Node.match_of_mem_language hplain hw hstart s⟩

end Pattern

end KeyTrace
