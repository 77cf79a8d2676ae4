import KeyTrace.Proofs.Rule.Builtin
import KeyTrace.Proofs.Scan.Reference

/-!
# No line with the key is left out

Only the lines that an index has for a key are tried, in the files that the lookup has for it. A
line that holds the key between characters which are in no token has all tokens of the key, and so
its probe; it is among them wherever the key is one of those that are searched for. In the other
direction, the lookup lists nothing besides the files that have a line for the key, and each of
them at its place only.

## Main definitions

* `Token.Delimited`: a key stands in a line with no word character next to it.
* `FileIndex.Built`: the indexes that get built.

## Main results

* `FileIndex.mem_linesFor_whole`: a line that has the tokens of a key is one of its lines.
* `Lookup.exists_positions_candidates`: what a lookup lists for a key.
* `FileIndex.candidacy`: no line that holds a key is left out, nor is a file listed without one.
-/

namespace KeyTrace

/-- A key stands in a line, and next to it there is the edge of the line or a character that is no
word character of ASCII. -/
def Token.Delimited (key line : List Char) : Prop :=
  ∃ before after, line = before ++ (key ++ after) ∧
    (∀ c ∈ before.getLast?, Word.isAsciiWord c = false) ∧
    ∀ c ∈ after.head?, Word.isAsciiWord c = false

/-- With a space on either side of the line, there is a character next to the key in any case. -/
theorem Token.Delimited.apart {key line : List Char} (h : Delimited key line) :
    Apart key (' ' :: line ++ [' ']) := by
  obtain ⟨before, after, rfl, hbefore, hafter⟩ := h
  obtain ⟨a, c, hc, hword⟩ : ∃ a c, ' ' :: before = a ++ [c] ∧ Word.isAsciiWord c = false := by
    rcases List.eq_nil_or_concat' before with rfl | ⟨a, c, rfl⟩
    · exact ⟨[], ' ', rfl, rfl⟩
    · exact ⟨' ' :: a, c, rfl, hbefore c (by simp)⟩
  obtain ⟨d, b, hd, hword'⟩ : ∃ d b, after ++ [' '] = d :: b ∧ Word.isAsciiWord d = false := by
    cases after with
    | nil => exact ⟨' ', [], rfl, rfl⟩
    | cons d b => exact ⟨d, b ++ [' '], rfl, hafter d rfl⟩
  refine ⟨a, c, d, b, ?_, hword, hword'⟩
  calc ' ' :: (before ++ (key ++ after)) ++ [' ']
      = (' ' :: before) ++ (key ++ (after ++ [' '])) := by simp
    _ = a ++ c :: (key ++ d :: b) := by rw [hc, hd, List.append_assoc, List.singleton_append]

theorem Token.Delimited.tokens_subset {key line : List Char} (h : Delimited key line) :
    tokens key ⊆ tokens line := by
  have hsubset := h.apart.tokens_subset
  rwa [tokens_padded] at hsubset

/-- The elements that pass a test, by their positions. -/
theorem exists_positions {α : Type} (p : α → Bool) (s : List α) :
    ∃ ids : List Nat, ids.Pairwise (· < ·) ∧
      (∀ n, n ∈ ids ↔ ∃ a, s[n]? = some a ∧ p a = true) ∧
      s.filter p = ids.filterMap fun n => s[n]? := by
  refine ⟨(s.zipIdx.filter fun q => p q.1).map Prod.snd, ?_, fun n => ?_, ?_⟩
  · have hsnd : s.zipIdx.map Prod.snd = List.range' 0 s.length := List.zipIdx_map_snd 0 s
    have hsublist := (List.filter_sublist (p := fun q => p q.1) (l := s.zipIdx)).map Prod.snd
    rw [hsnd] at hsublist
    exact List.Pairwise.sublist hsublist List.pairwise_lt_range'
  · simp only [List.mem_map, List.mem_filter, List.mem_zipIdx_iff_getElem?, Prod.exists,
      exists_eq_right]
  · have hget : ∀ q ∈ s.zipIdx.filter fun q => p q.1, s[q.2]? = some q.1 :=
      fun q hq => List.mem_zipIdx_iff_getElem?.1 (List.mem_filter.1 hq).1
    calc s.filter p
        = (s.zipIdx.filter fun q => p q.1).map Prod.fst := by
          conv_lhs => rw [← List.zipIdx_map_fst 0 s, List.filter_map]
          rfl
      _ = (s.zipIdx.filter fun q => p q.1).filterMap fun q => s[q.2]? := by
          rw [List.filterMap_congr hget, ← List.filterMap_eq_map]
          rfl
      _ = ((s.zipIdx.filter fun q => p q.1).map Prod.snd).filterMap fun n => s[n]? := by
          rw [List.filterMap_map]
          rfl

namespace FileIndex

variable {rules : RuleSet} {keys : List String} {key : String} {f : SourceFile}
  {lines : List String}

/-- A line that has the probe of a key is one of its lines. -/
theorem mem_linesFor_whole (hf : rules.covers f.extension = true) (hkey : key ∈ keys) {i : Nat}
    {line : String} (hi : lines[i]? = some line)
    (hmentions : rules.mentions f.extension key line = true) :
    i ∈ (whole rules (Candidates.ofKeys keys) f lines).linesFor key := by
  rw [whole, if_pos hf, linesFor_eq rules f hkey, List.mem_filterMap]
  exact ⟨(line, i), List.mem_zipIdx_iff_getElem?.2 hi, if_pos hmentions⟩

theorem isApplicable_whole (hf : rules.covers f.extension = true) (candidates : Candidates) :
    (whole rules candidates f lines).isApplicable = true := by
  rw [whole, if_pos hf, isApplicable, ofLines, rules.isEmpty_idsFor, hf]
  rfl

theorem containsKey_of_mem_linesFor {x : FileIndex} {i : Nat} (h : i ∈ x.linesFor key) :
    x.containsKey key = true := by
  rw [linesFor] at h
  rw [containsKey]
  cases hlookup : x.hits.lookup key with
  | none => simp [hlookup] at h
  | some is => rfl

/-- The lookup has the files with a line for a key. -/
theorem mem_candidates {x : FileIndex} {indexes : List FileIndex} (hx : x ∈ indexes)
    (happlicable : x.isApplicable = true) {i : Nat} (hi : i ∈ x.linesFor key) :
    x ∈ (Lookup.ofIndexes indexes).candidates key :=
  List.mem_filter.2 ⟨List.mem_filter.2 ⟨hx, happlicable⟩, containsKey_of_mem_linesFor hi⟩

/-- The indexes that get built: empty ones of files that no rule covers, which are not read, and
those over the first lines of files. -/
inductive Built : FileIndex → Prop
  | unread {rules : RuleSet} {f : SourceFile} (h : rules.idsFor f.extension = []) :
      Built (FileIndex.unread f)
  | read {rules : RuleSet} {f : SourceFile} (h : rules.idsFor f.extension ≠ [])
      (candidates : Candidates) (lines : List String) (handled : Nat) :
      Built (ofLines f rules candidates lines handled)

/-- A key that is noted in an index has a line there. -/
theorem Built.ne_nil {x : FileIndex} (h : Built x) : ∀ p ∈ x.hits, p.2 ≠ [] := by
  cases h with
  | unread => exact nofun
  | read h candidates lines handled =>
    intro p hp
    obtain ⟨c, -, hc⟩ := List.mem_filterMap.1 hp
    split at hc
    · cases hc
    · rename_i hne
      obtain rfl := Option.some.inj hc
      exact hne

theorem Built.containsKey_iff {x : FileIndex} (h : Built x) :
    x.containsKey key = true ↔ x.linesFor key ≠ [] := by
  constructor
  · intro hcontains
    obtain ⟨is, his⟩ := Option.isSome_iff_exists.1 hcontains
    obtain ⟨l₁, l₂, hhits, -⟩ := List.lookup_eq_some_iff.1 his
    rw [linesFor, his]
    exact h.ne_nil (key, is) (by simp [hhits])
  · intro hne
    obtain ⟨i, hi⟩ := List.exists_mem_of_ne_nil _ hne
    exact containsKey_of_mem_linesFor hi

end FileIndex

/-- **What a lookup lists for a key**: the indexes that some rule covers and that have a line for
the key, in their order, and each of them at its place only. -/
theorem Lookup.exists_positions_candidates {indexes : List FileIndex}
    (h : ∀ x ∈ indexes, x.Built) (key : String) :
    ∃ ids : List Nat, ids.Pairwise (· < ·) ∧
      (∀ n, n ∈ ids ↔ ∃ x, indexes[n]? = some x ∧ x.isApplicable = true ∧ x.linesFor key ≠ []) ∧
      (ofIndexes indexes).candidates key = ids.filterMap fun n => indexes[n]? := by
  obtain ⟨ids, hpairwise, hmem, hfilter⟩ :=
    exists_positions (fun x : FileIndex => x.containsKey key && x.isApplicable) indexes
  refine ⟨ids, hpairwise, fun n => ?_, ?_⟩
  · rw [hmem]
    refine exists_congr fun x => and_congr_right fun hx => ?_
    rw [Bool.and_eq_true, (h x (List.mem_of_getElem? hx)).containsKey_iff, and_comm]
  · rw [← hfilter, candidates, ofIndexes, List.filter_filter]

/-- **No line that holds a key is left out, nor is a file listed without one.** For any keys that
are searched for and any file that some rule covers, a line that holds one of the keys with no word
character next to it is one of the lines for this key, and the lookup over whatever indexes lists
the file, if the key has a word character at all. What a lookup lists for a key is the files that
have a line for it, in their order and each once. -/
theorem FileIndex.candidacy (rules : RuleSet) (keys : List String) (f : SourceFile)
    (lines : List String) (hf : rules.covers f.extension = true) :
    (∀ key ∈ keys, (∃ c ∈ key.toList, Word.isAsciiWord c = true) →
      ∀ i line, lines[i]? = some line → Token.Delimited key.toList line.toList →
        i ∈ (whole rules (Candidates.ofKeys keys) f lines).linesFor key ∧
          ∀ indexes, whole rules (Candidates.ofKeys keys) f lines ∈ indexes →
            whole rules (Candidates.ofKeys keys) f lines ∈
              (Lookup.ofIndexes indexes).candidates key) ∧
    ∀ indexes : List FileIndex, (∀ x ∈ indexes, x.Built) → ∀ key, ∃ ids : List Nat,
      ids.Pairwise (· < ·) ∧
      (∀ n, n ∈ ids ↔ ∃ x, indexes[n]? = some x ∧ x.isApplicable = true ∧ x.linesFor key ≠ []) ∧
      (Lookup.ofIndexes indexes).candidates key = ids.filterMap fun n => indexes[n]? := by
  constructor
  · rintro key hkey ⟨c, hc, hword⟩ i line hi hdelimited
    have hmentions : rules.mentions f.extension key line = true :=
      RuleSet.mentions_of_tokens_subset hc hword hdelimited.tokens_subset
    have hline := mem_linesFor_whole hf hkey hi hmentions
    exact ⟨hline, fun indexes hx => mem_candidates hx (isApplicable_whole hf _) hline⟩
  · exact fun indexes h key => Lookup.exists_positions_candidates h key

/-- A key with a dot, in brackets. -/
theorem FileIndex.candidacy_in_brackets :
    let x := whole (RuleSet.ofRules [⟨[".t"], true, none, none⟩]) (Candidates.ofKeys ["a.bc"])
      (SourceFile.ofPath "f.t") ["é", "(a.bc)"]
    1 ∈ x.linesFor "a.bc" ∧ x ∈ (Lookup.ofIndexes [x]).candidates "a.bc" := by
  have hcovers : (RuleSet.ofRules [⟨[".t"], true, none, none⟩]).covers
      (SourceFile.ofPath "f.t").extension = true := by decide +kernel
  have hdelimited : Token.Delimited "a.bc".toList "(a.bc)".toList :=
    ⟨['('], [')'], rfl, by simp; rfl, by simp; rfl⟩
  obtain ⟨hsound, -⟩ := candidacy _ ["a.bc"] (SourceFile.ofPath "f.t") ["é", "(a.bc)"] hcovers
  obtain ⟨hline, hlookup⟩ := hsound "a.bc" (List.mem_singleton_self _) ⟨'a', by decide, rfl⟩ 1
    "(a.bc)" rfl hdelimited
  exact ⟨hline, hlookup _ (List.mem_singleton_self _)⟩

end KeyTrace
