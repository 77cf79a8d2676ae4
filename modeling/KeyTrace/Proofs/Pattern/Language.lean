import KeyTrace.Proofs.Pattern.Meaning
import KeyTrace.Proofs.Text.Runs

/-!
# The words of an expression

What an expression matches, apart from where: the set of texts that may stand between the two places
of a match. Assertions and groups leave no trace in them, so that the words are a language, with
those of sequences and alternatives put together as languages are. Simplifying sequences and choices
keeps the words: neighbouring texts, classes of single characters and common beginnings only change
how they are written.

## Main definitions

* `CharClass.words`, `Node.language`: the words of a class and of an expression.
* `Node.Proper`: all classes in an expression are proper.

## Main results

* `Node.exists_word_of_match`: a match leads over a word.
* `Node.language_sequence`, `Node.language_choice`: the words of simplified sequences and choices.
-/

namespace KeyTrace

/-- The texts of one character of a class. -/
def CharClass.words (k : CharClass) : Language Char := {w | ∃ c, k.mem c = true ∧ w = [c]}

theorem CharClass.mem_words {k : CharClass} {w : List Char} :
    w ∈ k.words ↔ ∃ c, k.mem c = true ∧ w = [c] := Iff.rfl

namespace Node

/-- The texts that an expression may take. -/
def language : Node → Language Char
  | empty => 1
  | literal cs => {cs}
  | set k => k.words
  | look _ => 1
  | group _ b => b.language
  | cat a b => a.language * b.language
  | alt a b => a.language + b.language
  | rep lo hi _ b => {w | ∃ n, lo ≤ n ∧ (∀ h, hi = some h → n ≤ max lo h) ∧ w ∈ b.language ^ n}

/-- Two texts that follow each other. -/
theorem append_prefix_drop {text u v : List Char} {pos : Nat} (hu : u <+: text.drop pos)
    (hv : v <+: text.drop (pos + u.length)) : u ++ v <+: text.drop pos := by
  obtain ⟨s, hs⟩ := hu
  rw [← List.drop_drop, ← hs, List.drop_left] at hv
  rw [← hs]
  exact (List.prefix_append_right_inj u).2 hv

theorem exists_word_of_times {text : List Char} {b : Node}
    (ih : ∀ {x y : Nat × Slots}, b.Match text x y →
      ∃ w ∈ b.language, w <+: text.drop x.1 ∧ y.1 = x.1 + w.length) {n : Nat}
    {x y : Nat × Slots} (h : Times (b.Match text) n x y) :
    ∃ w ∈ b.language ^ n, w <+: text.drop x.1 ∧ y.1 = x.1 + w.length := by
  induction n generalizing x with
  | zero =>
    obtain rfl := h
    rw [pow_zero]
    exact ⟨[], Language.nil_mem_one, List.nil_prefix, rfl⟩
  | succ n ihn =>
    obtain ⟨z, hz, hrest⟩ := h
    obtain ⟨u, hu, hup, hzu⟩ := ih hz
    obtain ⟨v, hv, hvp, hyv⟩ := ihn hrest
    rw [hzu] at hvp hyv
    rw [pow_succ']
    exact ⟨u ++ v, Language.append_mem_mul hu hv, append_prefix_drop hup hvp,
      by rw [hyv, List.length_append, Nat.add_assoc]⟩

/-- **A match leads over a word** of the expression. -/
theorem exists_word_of_match {text : List Char} {n : Node} {x y : Nat × Slots}
    (h : n.Match text x y) : ∃ w ∈ n.language, w <+: text.drop x.1 ∧ y.1 = x.1 + w.length := by
  induction n generalizing x y with
  | empty =>
    obtain rfl := h
    exact ⟨[], Language.nil_mem_one, List.nil_prefix, rfl⟩
  | literal cs =>
    obtain ⟨hcs, rfl⟩ := h
    exact ⟨cs, rfl, hcs, rfl⟩
  | set k =>
    obtain ⟨⟨c, hc, hk⟩, rfl⟩ := h
    obtain ⟨hlt, rfl⟩ := List.getElem?_eq_some_iff.1 hc
    refine ⟨[text[x.1]], ⟨_, hk, rfl⟩, ?_, rfl⟩
    rw [List.drop_eq_getElem_cons hlt]
    exact ⟨text.drop (x.1 + 1), rfl⟩
  | look l =>
    obtain ⟨-, rfl⟩ := h
    exact ⟨[], Language.nil_mem_one, List.nil_prefix, rfl⟩
  | group i b ih =>
    obtain ⟨z, hz, rfl⟩ := h
    obtain ⟨w, hw, hword⟩ := ih hz
    exact ⟨w, hw, hword⟩
  | cat a b iha ihb =>
    obtain ⟨z, ha, hb⟩ := h
    obtain ⟨u, hu, hup, hzu⟩ := iha ha
    obtain ⟨v, hv, hvp, hyv⟩ := ihb hb
    rw [hzu] at hvp hyv
    exact ⟨u ++ v, Language.append_mem_mul hu hv, append_prefix_drop hup hvp,
      by rw [hyv, List.length_append, Nat.add_assoc]⟩
  | alt a b iha ihb =>
    rcases h with h | h
    · obtain ⟨w, hw, hword⟩ := iha h
      exact ⟨w, Or.inl hw, hword⟩
    · obtain ⟨w, hw, hword⟩ := ihb h
      exact ⟨w, Or.inr hw, hword⟩
  | rep lo hi greedy b ih =>
    obtain ⟨n, hlo, hhi, hn⟩ := h
    obtain ⟨w, hw, hword⟩ := exists_word_of_times ih hn
    exact ⟨w, ⟨n, hlo, hhi, hw⟩, hword⟩

/-! ### Sequences -/

theorem singleton_mul_singleton (u v : List Char) :
    ({u} : Language Char) * {v} = {u ++ v} := by
  rw [Language.mul_def]
  exact Set.image2_singleton

theorem prod_members (n : Node) : (n.members.map language).prod = n.language := by
  induction n with
  | cat a b iha ihb => rw [members, List.map_append, List.prod_append, iha, ihb, language]
  | empty => rfl
  | _ => exact List.prod_singleton

theorem prod_mergeTexts (nodes : List Node) :
    ((mergeTexts nodes).map language).prod = (nodes.map language).prod := by
  induction nodes with
  | nil => rfl
  | cons n rest ih =>
    rw [List.map_cons, List.prod_cons, ← ih]
    cases n with
    | literal cs =>
      rw [mergeTexts]
      cases mergeTexts rest with
      | nil => rfl
      | cons m more =>
        cases m with
        | literal ds =>
          rw [List.map_cons, List.prod_cons, List.map_cons, List.prod_cons, ← mul_assoc]
          simp only [language, singleton_mul_singleton]
        | _ => rfl
    | _ => rfl

theorem language_cats (nodes : List Node) :
    (cats nodes).language = (nodes.map language).prod := by
  induction nodes with
  | nil => rfl
  | cons n rest ih =>
    cases rest with
    | nil => exact List.prod_singleton.symm
    | cons m more =>
      have hcats : cats (n :: m :: more) = cat n (cats (m :: more)) := rfl
      rw [hcats, language, ih]
      exact List.prod_cons.symm

/-- **The words of a simplified sequence** are those of its members, put together. -/
theorem language_sequence (nodes : List Node) :
    (sequence nodes).language = (nodes.map language).prod := by
  rw [sequence, language_cats, prod_mergeTexts]
  induction nodes with
  | nil => rfl
  | cons n rest ih =>
    rw [List.flatMap_cons, List.map_append, List.prod_append, prod_members, ih, List.map_cons,
      List.prod_cons]

/-! ### Choices -/

/-- All classes in an expression are proper. -/
def Proper : Node → Prop
  | set k => Runs.Proper k
  | group _ b => b.Proper
  | cat a b => a.Proper ∧ b.Proper
  | alt a b => a.Proper ∧ b.Proper
  | rep _ _ _ b => b.Proper
  | _ => True

theorem language_ofClass {k : CharClass} (h : Runs.Proper k) : (ofClass k).language = k.words := by
  rw [ofClass]
  split
  · rename_i c hc
    ext w
    rw [CharClass.mem_words]
    have hmem : ∀ d, k.mem d = true ↔ d = c := fun d => Runs.has_of_single? h hc
    simp only [hmem, exists_eq_left]
    rfl
  · rfl

theorem sum_branches (n : Node) : (n.branches.map language).sum = n.language := by
  induction n with
  | alt a b iha ihb => rw [branches, List.map_append, List.sum_append, iha, ihb, language]
  | _ => exact List.sum_singleton

theorem language_fail : fail.language = 0 := by
  ext w
  simp [fail, language, CharClass.mem_words]

theorem language_alts (nodes : List Node) : (alts nodes).language = (nodes.map language).sum := by
  induction nodes with
  | nil => exact language_fail
  | cons n rest ih =>
    cases rest with
    | nil => exact List.sum_singleton.symm
    | cons m more =>
      have halts : alts (n :: m :: more) = alt n (alts (m :: more)) := rfl
      rw [halts, language, ih]
      exact List.sum_cons.symm

theorem sum_flatMap_branches (nodes : List Node) :
    ((nodes.flatMap branches).map language).sum = (nodes.map language).sum := by
  induction nodes with
  | nil => rfl
  | cons n rest ih =>
    rw [List.flatMap_cons, List.map_append, List.sum_append, sum_branches, ih, List.map_cons,
      List.sum_cons]

theorem proper_of_mem_branches {n b : Node} (h : n.Proper) (hb : b ∈ n.branches) : b.Proper := by
  induction n with
  | alt a c iha ihc =>
    rcases List.mem_append.1 hb with hb | hb
    · exact iha h.1 hb
    · exact ihc h.2 hb
  | _ =>
    obtain rfl := List.mem_singleton.1 hb
    exact h

/-- A property that a sequence has just if its members have it, and that every text has. -/
structure Sequential (P : Node → Prop) : Prop where
  empty : P empty
  literal : ∀ cs, P (literal cs)
  cat : ∀ a b, P (cat a b) ↔ P a ∧ P b

namespace Sequential

variable {P : Node → Prop} (hP : Sequential P)

include hP

theorem of_mem_members {n m : Node} (h : P n) (hm : m ∈ n.members) : P m := by
  induction n with
  | empty => cases hm
  | cat a b iha ihb =>
    obtain ⟨ha, hb⟩ := (hP.cat a b).1 h
    rcases List.mem_append.1 hm with hm | hm
    · exact iha ha hm
    · exact ihb hb hm
  | _ =>
    obtain rfl := List.mem_singleton.1 hm
    exact h

theorem of_mem_mergeTexts {nodes : List Node} (h : ∀ n ∈ nodes, P n) {m : Node}
    (hm : m ∈ mergeTexts nodes) : P m := by
  induction nodes generalizing m with
  | nil => cases hm
  | cons n rest ih =>
    have hn := h n (List.mem_cons_self ..)
    have hrest : ∀ m ∈ mergeTexts rest, P m :=
      fun m => ih fun n hn => h n (List.mem_cons_of_mem _ hn)
    cases n with
    | literal cs =>
      rw [mergeTexts] at hm
      split at hm
      · rename_i ds more hmerge
        rcases List.mem_cons.1 hm with rfl | hm
        · exact hP.literal _
        · exact hrest m (hmerge ▸ List.mem_cons_of_mem _ hm)
      · rcases List.mem_cons.1 hm with rfl | hm
        · exact hP.literal cs
        · exact hrest m hm
    | _ =>
      rcases List.mem_cons.1 hm with rfl | hm
      · exact hn
      · exact hrest m hm

theorem cats {nodes : List Node} (h : ∀ n ∈ nodes, P n) : P (cats nodes) := by
  induction nodes with
  | nil => exact hP.empty
  | cons n rest ih =>
    have hn := h n (List.mem_cons_self ..)
    cases rest with
    | nil => exact hn
    | cons m more =>
      exact (hP.cat n _).2 ⟨hn, ih fun n hn => h n (List.mem_cons_of_mem _ hn)⟩

/-- A simplified sequence has what its members have. -/
theorem sequence {nodes : List Node} (h : ∀ n ∈ nodes, P n) : P (sequence nodes) := by
  refine hP.cats fun m => hP.of_mem_mergeTexts fun n hn => ?_
  obtain ⟨n', hn', hmem⟩ := List.mem_flatMap.1 hn
  exact hP.of_mem_members (h n' hn') hmem

end Sequential

theorem sequential_proper : Sequential Proper where
  empty := trivial
  literal _ := trivial
  cat _ _ := Iff.rfl

theorem forall₂_of_mapM {α β : Type} {f : α → Option β} {l : List α} {bs : List β}
    (h : l.mapM f = some bs) : List.Forall₂ (fun a b => f a = some b) l bs := by
  induction l generalizing bs with
  | nil =>
    obtain rfl := Option.some.inj h
    exact .nil
  | cons a l ih =>
    rw [List.mapM_cons] at h
    obtain ⟨b, hb, h⟩ := Option.bind_eq_some_iff.1 h
    obtain ⟨bs', hbs', h⟩ := Option.bind_eq_some_iff.1 h
    obtain rfl := Option.some.inj h
    exact .cons hb (ih hbs')

/-- A choice between single characters. -/
theorem eq_map_of_mapM_char? {nodes : List Node} {cs : List Char}
    (h : nodes.mapM char? = some cs) : nodes = cs.map fun c => literal [c] := by
  have heq : ∀ (n : Node) c, n.char? = some c → n = literal [c] := by
    intro n c hc
    unfold char? at hc
    split at hc
    · rw [Option.some.inj hc]
    · cases hc
  have hall := (forall₂_of_mapM h).imp heq
  rwa [← List.forall₂_map_right_iff, List.forall₂_eq_eq_eq] at hall

/-- A choice between classes. -/
theorem eq_map_of_mapM_class? {nodes : List Node} {ks : List CharClass}
    (h : nodes.mapM class? = some ks) : nodes = ks.map set := by
  have heq : ∀ (n : Node) k, n.class? = some k → n = set k := by
    intro n k hk
    unfold class? at hk
    split at hk
    · rw [Option.some.inj hk]
    · cases hk
  have hall := (forall₂_of_mapM h).imp heq
  rwa [← List.forall₂_map_right_iff, List.forall₂_eq_eq_eq] at hall

/-- A choice between sequences. -/
theorem map_eq_of_mapM_sequence? {nodes : List Node} {lists : List (List Node)}
    (h : nodes.mapM sequence? = some lists) : nodes.map members = lists := by
  have heq : ∀ (n : Node) l, n.sequence? = some l → n.members = l := by
    intro n l hl
    unfold sequence? at hl
    split at hl
    · rw [← Option.some.inj hl]
    · cases hl
  have hall := (forall₂_of_mapM h).imp heq
  rwa [← List.forall₂_map_left_iff, List.forall₂_eq_eq_eq] at hall

theorem mem_sum_map {nodes : List Node} {w : List Char} :
    w ∈ (nodes.map language).sum ↔ ∃ n ∈ nodes, w ∈ n.language := by
  induction nodes with
  | nil => simp
  | cons n rest ih => rw [List.map_cons, List.sum_cons, Language.mem_add, ih]; simp

theorem words_ofChars (cs : List Char) :
    CharClass.words (Runs.ofChars cs) = ((cs.map fun c => literal [c]).map language).sum := by
  ext w
  have hmem : ∀ c, CharClass.mem (Runs.ofChars cs) c = true ↔ c ∈ cs := fun c => Runs.has_ofChars
  rw [CharClass.mem_words, mem_sum_map]
  simp only [hmem, List.mem_map, exists_exists_and_eq_and]
  rfl

theorem words_unions {ks : List CharClass} (h : ∀ k ∈ ks, Runs.Proper k) :
    CharClass.words (Runs.unions ks) = ((ks.map set).map language).sum := by
  ext w
  have hmem : ∀ c, CharClass.mem (Runs.unions ks) c = true ↔ ∃ k ∈ ks, k.mem c = true :=
    fun c => Runs.has_unions fun k hk => (h k hk).sorted
  rw [CharClass.mem_words, mem_sum_map]
  simp only [hmem, List.mem_map, exists_exists_and_eq_and, language, CharClass.mem_words]
  constructor
  · rintro ⟨c, ⟨k, hk, hc⟩, hw⟩
    exact ⟨k, hk, c, hc, hw⟩
  · rintro ⟨k, hk, c, hc, hw⟩
    exact ⟨c, ⟨k, hk, hc⟩, hw⟩

theorem sharedPrefix_prefix (l m : List Node) :
    sharedPrefix l m <+: l ∧ sharedPrefix l m <+: m := by
  induction l generalizing m with
  | nil => exact ⟨List.nil_prefix, List.nil_prefix⟩
  | cons a l ih =>
    cases m with
    | nil => exact ⟨List.nil_prefix, List.nil_prefix⟩
    | cons b m =>
      rw [sharedPrefix]
      split
      · rename_i hab
        subst hab
        exact ⟨(List.prefix_cons_inj a).2 (ih m).1, (List.prefix_cons_inj a).2 (ih m).2⟩
      · exact ⟨List.nil_prefix, List.nil_prefix⟩

theorem foldl_sharedPrefix (l : List Node) (lists : List (List Node)) :
    lists.foldl sharedPrefix l <+: l ∧ ∀ m ∈ lists, lists.foldl sharedPrefix l <+: m := by
  induction lists generalizing l with
  | nil => exact ⟨List.prefix_rfl, nofun⟩
  | cons m lists ih =>
    obtain ⟨hl, hrest⟩ := ih (sharedPrefix l m)
    obtain ⟨hleft, hright⟩ := sharedPrefix_prefix l m
    refine ⟨hl.trans hleft, fun k hk => ?_⟩
    rcases List.mem_cons.1 hk with rfl | hk
    · exact hl.trans hright
    · exact hrest k hk

/-- What some lists begin with is the beginning of each. -/
theorem sharedPrefixes_prefix {lists : List (List Node)} {l : List Node} (h : l ∈ lists) :
    sharedPrefixes lists <+: l := by
  cases lists with
  | nil => cases h
  | cons m lists =>
    obtain ⟨hm, hrest⟩ := foldl_sharedPrefix m lists
    rcases List.mem_cons.1 h with rfl | h
    · exact hm
    · exact hrest l h

/-- Taking out a common beginning keeps the words. -/
theorem sum_drop_prefix {front : List Node} {lists : List (List Node)}
    (h : ∀ l ∈ lists, front <+: l) :
    (front.map language).prod *
        (lists.map fun l => ((l.drop front.length).map language).prod).sum =
      (lists.map fun l => (l.map language).prod).sum := by
  rw [← List.sum_map_mul_left]
  refine congrArg List.sum (List.map_congr_left fun l hl => ?_)
  obtain ⟨rest, rfl⟩ := h l hl
  rw [List.drop_left, List.map_append, List.prod_append]

theorem language_choiceFrom (fuel : Nat) {nodes : List Node} (h : ∀ n ∈ nodes, n.Proper) :
    (choiceFrom fuel nodes).language = (nodes.map language).sum := by
  induction fuel generalizing nodes with
  | zero => exact language_alts nodes
  | succ fuel ih =>
    have hproper : ∀ b ∈ nodes.flatMap branches, b.Proper := by
      intro b hb
      obtain ⟨n, hn, hb⟩ := List.mem_flatMap.1 hb
      exact proper_of_mem_branches (h n hn) hb
    rw [← sum_flatMap_branches, choiceFrom]
    generalize nodes.flatMap branches = bs at hproper
    split
    · exact language_fail
    · exact List.sum_singleton.symm
    · split
      · rename_i cs hcs
        rw [language_ofClass (Runs.proper_ofChars _), words_ofChars, ← eq_map_of_mapM_char? hcs]
      · rename_i ks _ hks
        have hbs := eq_map_of_mapM_class? hks
        have hclasses : ∀ k ∈ ks, Runs.Proper k := by
          intro k hk
          exact hproper (set k) (hbs ▸ List.mem_map_of_mem hk)
        rw [language_ofClass (Runs.proper_unions hclasses), words_unions hclasses, ← hbs]
      · rename_i lists _ _ hlists
        have hmembers := map_eq_of_mapM_sequence? hlists
        split
        · exact language_alts _
        · -- What is left of each sequence is proper again, and a common beginning distributes.
          have hrest : ∀ n ∈ lists.map fun l => sequence (l.drop (sharedPrefixes lists).length),
              n.Proper := by
            intro n hn
            obtain ⟨l, hl, rfl⟩ := List.mem_map.1 hn
            obtain ⟨b, hb, rfl⟩ := List.mem_map.1 (hmembers ▸ hl)
            exact sequential_proper.sequence fun m hm =>
              sequential_proper.of_mem_members (hproper b hb) (List.mem_of_mem_drop hm)
          rw [language_sequence, List.map_append, List.prod_append, List.map_singleton,
            List.prod_singleton, ih hrest, List.map_map]
          have hdrop : language ∘ (fun l : List Node =>
              sequence (l.drop (sharedPrefixes lists).length)) =
              fun l : List Node => ((l.drop (sharedPrefixes lists).length).map language).prod :=
            funext fun l => language_sequence _
          have hwhole : (fun l : List Node => (l.map language).prod) ∘ members = language :=
            funext fun b => prod_members b
          rw [hdrop, sum_drop_prefix fun l => sharedPrefixes_prefix, ← hmembers, List.map_map,
            hwhole]
      · exact language_alts _

/-- **The words of a simplified choice** are those of its alternatives. -/
theorem language_choice {nodes : List Node} (h : ∀ n ∈ nodes, n.Proper) :
    (choice nodes).language = (nodes.map language).sum :=
  language_choiceFrom _ h

end Node

end KeyTrace
