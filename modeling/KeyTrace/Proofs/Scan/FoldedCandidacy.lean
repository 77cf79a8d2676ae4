import KeyTrace.Proofs.Pattern.Folded
import KeyTrace.Proofs.Scan.Candidacy
import KeyTrace.Proofs.Text.Folding

/-!
# Lines that are left out where case is ignored

A rule that ignores case has its key searched for with the letters of Unicode, and the lines for it
are looked up by tokens in lower case. Where a key is found with no word character next to it, its
line is one of its lines as long as the two notions of a letter agree. They differ on the long s
and the sign for kelvin: these are letters of the key for a pattern, and end a token.

## Main definitions

* `Pattern.FoundApart`: an expression is found in a line with no word character next to it.

## Main results

* `FileIndex.mem_linesFor_of_foundApart`: a line is not left out if the strays in the key and in
  the text that was found stand at the same places.
* `FileIndex.kelvin_left_out`: otherwise it can be.
-/

namespace KeyTrace

/-- An expression is found in a text between two positions, and next to it there is the edge of the
text or a character that is no word character of Unicode. -/
structure Pattern.FoundApart (node : Node) (text : List Char) (start stop : Nat) : Prop where
  found : ∃ s', node.Match text (start, []) (stop, s')
  before : ∀ c, Node.before? text start = some c → Word.isWord c = false
  after : ∀ c, text[stop]? = some c → Word.isWord c = false

/-- The word characters of ASCII are among those of Unicode. -/
theorem Word.isAsciiWord_of_not_isWord {c : Char} (h : isWord c = false) :
    isAsciiWord c = false := by
  have hcodes : ∀ n < 0x80, isAsciiWord (Char.ofNat n) = true → runs.hasCode n = true := by
    decide +kernel
  by_contra hword
  rw [Bool.not_eq_false] at hword
  have hhas := hcodes c.toNat (toNat_of_isAsciiWord hword) (by rwa [Char.ofNat_toNat])
  rw [isWord, Runs.has, hhas] at h
  cases h

/-- Texts that fold to the same letters are alike, if their strays stand at the same places. -/
theorem Folding.alike_of_words {key w : List Char} (hw : w ∈ Folding.words key)
    (hstrays : List.Forall₂ (fun c d => c ∈ strays ↔ d ∈ strays) key w) :
    List.Forall₂ Word.Alike key w := by
  rw [mem_words] at hw
  induction hw with
  | nil => exact .nil
  | cons hd _ ih =>
    obtain ⟨hstray, hrest⟩ := List.forall₂_cons.1 hstrays
    exact .cons (alike_of_mem_orbit hd hstray) (ih hrest)

namespace RuleSet

variable {rules : RuleSet} {extension key line : String}

theorem covers_of_ignoresCase (h : rules.ignoresCase extension = true) :
    rules.covers extension = true := by
  rw [ignoresCase, List.any_eq_true] at h
  obtain ⟨r, hr, hcase⟩ := h
  rw [covers, List.any_eq_true]
  exact ⟨r, hr, (Bool.and_eq_true_iff.1 hcase).1⟩

/-- Where case is ignored, a line has the probe of a key if it has its tokens up to case. -/
theorem mentions_of_alike (hcase : rules.ignoresCase extension = true)
    (hword : ∃ c ∈ key.toList, Word.isAsciiWord c = true) {w : List Char}
    (halike : List.Forall₂ Word.Alike key.toList w)
    (htokens : Token.tokens w ⊆ Token.tokens line.toList) :
    rules.mentions extension key line = true := by
  obtain ⟨c, hc, hc'⟩ := hword
  obtain ⟨p, hp⟩ := Token.exists_probe hc hc'
  obtain ⟨q, hq, hlower⟩ := Token.exists_token_of_alike halike (Token.probe_mem hp)
  simp only [mentions, hp, List.any_eq_true]
  exact ⟨q, htokens hq, by simp [hcase, hlower]⟩

end RuleSet

/-- The text that is found apart stands in the line with no ASCII word character next to it. -/
theorem Pattern.FoundApart.exists_delimited {key line : List Char} {node : Node}
    {groups start stop : Nat} (hread : readNode true (escape key) = some (node, groups))
    (hne : key ≠ []) (h : FoundApart node line start stop) :
    ∃ w ∈ Folding.words key, w = (line.drop start).take (stop - start) ∧
      Token.Delimited w line := by
  obtain ⟨w, hw, ⟨rest, hrest⟩, hstop⟩ := (match_escape_iff hread).1 h.found
  have hafter : rest = line.drop stop := by
    rw [hstop, ← List.drop_drop, ← hrest, List.drop_left]
  refine ⟨w, hw, ?_, line.take start, rest, ?_, ?_, ?_⟩
  · rw [hstop, Nat.add_sub_cancel_left, ← hrest, List.take_left]
  · rw [hrest, List.take_append_drop]
  · intro c hc
    have hpos : start ≠ 0 := by
      rintro rfl
      cases hc
    have hlt : start ≤ line.length := by
      by_contra hgt
      have hdrop : line.drop start = [] := List.drop_eq_nil_of_le (by omega)
      rw [hdrop, List.append_eq_nil_iff] at hrest
      rw [hrest.1, Folding.mem_words, List.forall₂_nil_right_iff] at hw
      exact hne hw
    rw [List.getLast?_take, if_neg hpos, List.getElem?_eq_getElem (by omega), Option.some_or] at hc
    refine Word.isAsciiWord_of_not_isWord (h.before c ?_)
    rw [Node.before?, if_neg hpos, List.getElem?_eq_getElem (by omega)]
    exact hc
  · intro c hc
    rw [hafter, List.head?_drop] at hc
    exact Word.isAsciiWord_of_not_isWord (h.after c hc)

namespace FileIndex

variable {rules : RuleSet} {keys : List String} {key : String} {f : SourceFile}
  {lines : List String}

/-- **No line is left out where case is ignored**, if the strays stand at the same places. The key
is searched for as a rule that ignores case does, and is found with no word character next to it;
the long s and the sign for kelvin must stand at the same places in the key and in what is found. -/
theorem mem_linesFor_of_foundApart (hcase : rules.ignoresCase f.extension = true)
    (hkey : key ∈ keys) (hword : ∃ c ∈ key.toList, Word.isAsciiWord c = true) {node : Node}
    {groups : Nat}
    (hread : Pattern.readNode true (Pattern.escape key.toList) = some (node, groups)) {i : Nat}
    {line : String} (hi : lines[i]? = some line) {start stop : Nat}
    (hfound : Pattern.FoundApart node line.toList start stop)
    (hstrays : List.Forall₂ (fun c d => c ∈ Folding.strays ↔ d ∈ Folding.strays) key.toList
      ((line.toList.drop start).take (stop - start))) :
    i ∈ (whole rules (Candidates.ofKeys keys) f lines).linesFor key := by
  have hne : key.toList ≠ [] := by
    obtain ⟨c, hc, -⟩ := hword
    exact List.ne_nil_of_mem hc
  obtain ⟨w, hw, heq, hdelimited⟩ := hfound.exists_delimited hread hne
  rw [← heq] at hstrays
  have halike := Folding.alike_of_words hw hstrays
  exact mem_linesFor_whole (RuleSet.covers_of_ignoresCase hcase) hkey hi
    (RuleSet.mentions_of_alike hcase hword halike hdelimited.tokens_subset)

/-- A key in another case, in brackets. -/
theorem mem_linesFor_in_brackets :
    0 ∈ (whole (RuleSet.ofRules [⟨[".t"], false, none, none⟩]) (Candidates.ofKeys ["Key"])
      (SourceFile.ofPath "f.t") ["(kEY)"]).linesFor "Key" := by
  have hcase : (RuleSet.ofRules [⟨[".t"], false, none, none⟩]).ignoresCase
      (SourceFile.ofPath "f.t").extension = true := by decide +kernel
  have hword : "kEY".toList ∈ Folding.words "Key".toList :=
    .cons (by decide +kernel) (.cons (by decide +kernel) (.cons (by decide +kernel) .nil))
  obtain ⟨node, hread, -, -⟩ := Pattern.readNode_escape "Key".toList
  have hfound : Pattern.FoundApart node "(kEY)".toList 1 4 := by
    refine ⟨(Pattern.match_escape_iff hread).2 ⟨_, hword, ⟨[')'], rfl⟩, rfl⟩, ?_, ?_⟩
    · rintro c hc
      obtain rfl := Option.some.inj hc
      decide +kernel
    · rintro c hc
      obtain rfl := Option.some.inj hc
      decide +kernel
  have hstrays : List.Forall₂ (fun c d => c ∈ Folding.strays ↔ d ∈ Folding.strays) "Key".toList
      (("(kEY)".toList.drop 1).take (4 - 1)) :=
    .cons (by decide +kernel) (.cons (by decide +kernel) (.cons (by decide +kernel) .nil))
  exact mem_linesFor_of_foundApart hcase (List.mem_singleton_self _) ⟨'K', by decide, rfl⟩ hread rfl
    hfound hstrays

/-- **A line can be left out where case is ignored.** The key is found in the whole line, which
begins with the sign for kelvin, but the line has no token of the key. -/
theorem kelvin_left_out :
    (RuleSet.ofRules [⟨[".vb"], false, none, none⟩]).ignoresCase
      (SourceFile.ofPath "a.vb").extension = true ∧
    (∃ node, Pattern.readNode true (Pattern.escape "Kiwi".toList) = some (node, 0) ∧
      Pattern.FoundApart node "\u212aiwi".toList 0 4) ∧
    0 ∉ (whole (RuleSet.ofRules [⟨[".vb"], false, none, none⟩]) (Candidates.ofKeys ["Kiwi"])
      (SourceFile.ofPath "a.vb") ["\u212aiwi"]).linesFor "Kiwi" := by
  refine ⟨by decide +kernel, ?_, by decide +kernel⟩
  obtain ⟨node, hread, -, -⟩ := Pattern.readNode_escape "Kiwi".toList
  have hword : "\u212aiwi".toList ∈ Folding.words "Kiwi".toList :=
    .cons (by decide +kernel) (.cons (by decide +kernel) (.cons (by decide +kernel)
      (.cons (by decide +kernel) .nil)))
  exact ⟨node, hread, (Pattern.match_escape_iff hread).2 ⟨_, hword, ⟨[], rfl⟩, rfl⟩, nofun, nofun⟩

end FileIndex

end KeyTrace
