import KeyTrace.Proofs.Pattern.Numbering
import KeyTrace.Proofs.Pattern.Size
import KeyTrace.Proofs.Rule.Slicing

/-!
# Comments in lines

A comment token counts from its first occurrence in a line on. A template looks at the line only
once: if its leftmost match starts at the token or after it, nothing else in the line is tried, and
if the match starts before it, the token has no effect at all.

What is shown of a match are its groups, and these may lie behind the token all the same.

## Main definitions

* `FirstAt`: where a text first occurs in another one.
* `Span.BeforeComment`: spans that start before a comment.
* `LineMatcher.padded`: the line that a template is matched against.
* `Segments.matchedSpans`: where the matched segments of a line lie.

## Main results

* `LineMatcher.commentStart_eq_some_iff`: where a comment starts.
* `LineMatcher.apply_with_comment`: what a comment token does to a template.
* `LineMatcher.exists_group_of_commented`: what is shown behind a comment token is a group that took
  part in a match that begins before it.
-/

namespace KeyTrace

/-- A text occurs in another one at this position first. -/
def FirstAt (needle text : List Char) (pos : Nat) : Prop :=
  IsLeast {i | needle <+: text.drop i} pos

theorem firstAt_of_indexOf? {needle text : List Char} {pos : Nat}
    (h : indexOf? needle text = some pos) : FirstAt needle text pos := by
  induction text generalizing pos with
  | nil =>
    rw [indexOf?] at h
    split at h
    · rename_i hneedle
      obtain rfl := Option.some.inj h
      obtain rfl := List.isEmpty_iff.1 hneedle
      exact ⟨List.nil_prefix, fun _ _ => Nat.zero_le _⟩
    · cases h
  | cons c rest ih =>
    rw [indexOf?] at h
    split at h
    · rename_i hstart
      obtain rfl := Option.some.inj h
      exact ⟨List.isPrefixOf_iff_prefix.1 hstart, fun _ _ => Nat.zero_le _⟩
    · rename_i hstart
      obtain ⟨j, hj, rfl⟩ := Option.map_eq_some_iff.1 h
      obtain ⟨hmem, hleast⟩ := ih hj
      refine ⟨hmem, fun i hi => ?_⟩
      cases i with
      | zero => exact absurd (List.isPrefixOf_iff_prefix.2 hi) hstart
      | succ i => exact Nat.succ_le_succ (hleast hi)

theorem not_prefix_of_indexOf? {needle text : List Char} (h : indexOf? needle text = none)
    (i : Nat) : ¬ needle <+: text.drop i := by
  induction text generalizing i with
  | nil =>
    rw [indexOf?] at h
    split at h
    · cases h
    · rename_i hneedle
      rw [List.drop_nil, List.prefix_nil]
      exact fun heq => hneedle (List.isEmpty_iff.2 heq)
  | cons c rest ih =>
    rw [indexOf?] at h
    split at h
    · cases h
    · rename_i hstart
      cases i with
      | zero => exact fun hi => hstart (List.isPrefixOf_iff_prefix.2 hi)
      | succ i => exact ih (Option.map_eq_none_iff.1 h) i

/-- **Searching for a text** finds where it first occurs. -/
theorem indexOf?_eq_some_iff {needle text : List Char} {pos : Nat} :
    indexOf? needle text = some pos ↔ FirstAt needle text pos := by
  constructor
  · exact firstAt_of_indexOf?
  · intro h
    cases hfound : indexOf? needle text with
    | none => exact absurd h.1 (not_prefix_of_indexOf? hfound pos)
    | some i => rw [(firstAt_of_indexOf? hfound).unique h]

/-- A text that occurs at a position first occurs there or before. -/
theorem exists_firstAt {needle text : List Char} {i : Nat} (h : needle <+: text.drop i) :
    ∃ c, FirstAt needle text c ∧ c ≤ i :=
  have hleast : IsLeast {i | needle <+: text.drop i} _ := isLeast_csInf ⟨i, h⟩
  ⟨_, hleast, hleast.2 h⟩

/-- A span starts before the first occurrence of a comment token, if there is any. -/
def Span.BeforeComment (comment : Option String) (line : List Char) (s : Span) : Prop :=
  ∀ token c, comment = some token → FirstAt token.toList line c → s.start < c

namespace Segments

/-- Where the matched segments lie, the first segment being at position `cursor`. -/
def matchedSpansFrom (cursor : Nat) : Segments → List Span
  | [] => []
  | [_] => []
  | plain :: hit :: rest =>
    ⟨cursor + plain.length, cursor + plain.length + hit.length⟩ ::
      matchedSpansFrom (cursor + plain.length + hit.length) rest

/-- Where the matched segments lie in the line. -/
def matchedSpans (s : Segments) : List Span := matchedSpansFrom 0 s

theorem length_slice {line : List Char} {start stop : Nat} (h : stop ≤ line.length) :
    (slice line start stop).length = stop - start := by
  rw [slice, String.length_ofList, List.length_take, List.length_drop]
  omega

theorem matchedSpansFrom_cutFrom {line : List Char} {cursor : Nat} {spans : List Span}
    (hchain : Chain cursor spans) (hstop : ∀ s ∈ spans, s.stop ≤ line.length) :
    matchedSpansFrom cursor (cutFrom line cursor spans) = spans := by
  induction spans generalizing cursor with
  | nil => rfl
  | cons s rest ih =>
    obtain ⟨hcursor, hle, hrest⟩ := hchain
    have hs := hstop s (List.mem_cons_self ..)
    have hmore := ih hrest fun t ht => hstop t (List.mem_cons_of_mem s ht)
    rw [cutFrom, matchedSpansFrom, length_slice (hle.trans hs), length_slice hs,
      Nat.add_sub_cancel' hcursor, Nat.add_sub_cancel' hle, hmore]

/-- **The matched segments** of a line lie where it was cut. -/
theorem matchedSpans_cut {line : List Char} {spans : List Span} (h : Fits line spans) :
    (cut line spans).matchedSpans = spans :=
  matchedSpansFrom_cutFrom h.chain h.stop_le

end Segments

namespace LineMatcher

/-- The line with a space at each end, which a template is matched against. -/
def padded (line : List Char) : List Char := ' ' :: line ++ [' ']

variable {m : LineMatcher} {line : List Char}

/-- **A comment starts** where the token first occurs. -/
theorem commentStart_eq_some_iff {c : Nat} : m.commentStart line = some c ↔
    ∃ token, m.commentToken = some token ∧ FirstAt token.toList line c := by
  simp only [commentStart, Option.bind_eq_some_iff, indexOf?_eq_some_iff]

/-- A span counts for a key as plain text if it starts before the comment. -/
theorem beforeComment_iff {s : Span} :
    ((m.commentStart line).all fun c => s.start < c) = true ↔
      s.BeforeComment m.commentToken line := by
  rw [Option.all_eq_true]
  constructor
  · intro h token c htoken hfirst
    exact of_decide_eq_true (h c (commentStart_eq_some_iff.2 ⟨token, htoken, hfirst⟩))
  · intro h c hc
    obtain ⟨token, htoken, hfirst⟩ := commentStart_eq_some_iff.1 hc
    exact decide_eq_true (h token c htoken hfirst)

/-! ### Compiled rules -/

/-- A rule with a template compiles just if the template does once it is filled in. -/
theorem compile_template_iff {r : Rule} {template container key : String} {limit : Nat}
    (hr : r.pattern = some template) : compile r container key limit = .ok m ↔
      ∃ p, Pattern.compile (!r.caseSensitive) limit
          (Template.expand template container key).toList = .ok p ∧
        m = ⟨.template p, r.commentToken⟩ := by
  rw [compile, hr]
  dsimp only
  cases Pattern.compile (!r.caseSensitive) limit
    (Template.expand template container key).toList with
  | error e =>
    constructor
    · intro h
      cases h
    · rintro ⟨p, hp, -⟩
      cases hp
  | ok p =>
    constructor
    · intro h
      exact ⟨p, rfl, (Except.ok.inj h).symm⟩
    · rintro ⟨p', hp', rfl⟩
      rw [Except.ok.inj hp']

/-- A rule without a template compiles just if the key and the container do as plain text. -/
theorem compile_literal_iff {r : Rule} {container key : String} {limit : Nat}
    (hr : r.pattern = none) : compile r container key limit = .ok m ↔
      ∃ k, Pattern.compile (!r.caseSensitive) limit (Pattern.escape key.toList) = .ok k ∧
        (container = "" ∧ m = ⟨.literal k none, r.commentToken⟩ ∨
          container ≠ "" ∧ ∃ c,
            Pattern.compile (!r.caseSensitive) limit (Pattern.escape container.toList) = .ok c ∧
              m = ⟨.literal k (some c), r.commentToken⟩) := by
  rw [compile, hr]
  dsimp only
  cases Pattern.compile (!r.caseSensitive) limit (Pattern.escape key.toList) with
  | error e =>
    constructor
    · intro h
      cases h
    · rintro ⟨k, hk, -⟩
      cases hk
  | ok k =>
    simp only [Except.ok.injEq, exists_eq_left']
    by_cases hempty : container = ""
    · have hyes : container.isEmpty = true := by simpa using hempty
      rw [if_pos hyes]
      constructor
      · intro h
        exact Or.inl ⟨hempty, (Except.ok.inj h).symm⟩
      · rintro (⟨-, rfl⟩ | ⟨hne, -⟩)
        · rfl
        · exact absurd hempty hne
    · have hnot : ¬ container.isEmpty = true := by simpa using hempty
      rw [if_neg hnot]
      cases Pattern.compile (!r.caseSensitive) limit (Pattern.escape container.toList) with
      | error e =>
        constructor
        · intro h
          cases h
        · rintro (⟨hyes, -⟩ | ⟨-, c, hc, -⟩)
          · exact absurd hyes hempty
          · cases hc
      | ok c =>
        constructor
        · intro h
          exact Or.inr ⟨hempty, c, rfl, (Except.ok.inj h).symm⟩
        · rintro (⟨hyes, -⟩ | ⟨-, c', hc, rfl⟩)
          · exact absurd hyes hempty
          · rw [Except.ok.inj hc]

/-- What a rule without a template is compiled to: the key as plain text, and the container's name
as well unless it is empty. -/
theorem exists_of_compile_literal {r : Rule} {container key : String} {limit : Nat}
    (hr : r.pattern = none) (h : compile r container key limit = .ok m) :
    ∃ k other, m = ⟨.literal k other, r.commentToken⟩ ∧
      Pattern.compile (!r.caseSensitive) limit (Pattern.escape key.toList) = .ok k ∧
      (container = "" → other = none) ∧
      (container ≠ "" → ∃ c, other = some c ∧
        Pattern.compile (!r.caseSensitive) limit (Pattern.escape container.toList) = .ok c) := by
  obtain ⟨k, hk, ⟨hempty, rfl⟩ | ⟨hne, c, hc, rfl⟩⟩ := (compile_literal_iff hr).1 h
  · exact ⟨k, none, rfl, hk, fun _ => rfl, fun hne => absurd hempty hne⟩
  · exact ⟨k, some c, rfl, hk, fun hempty => absurd hempty hne, fun _ => ⟨c, rfl, hc⟩⟩

/-! ### Templates -/

/-- The spans of the line that are shown of a match: its outermost groups or, if it has none, the
match as a whole. -/
def shown (line : List Char) (whole : Span) (groups : List Span) : List Span :=
  (match outermost 0 groups with
    | [] => [whole]
    | kept => kept).map fun s : Span => ⟨toLine line s.start, toLine line s.stop⟩

theorem mem_of_mem_outermost {cursor : Nat} {groups : List Span} {s : Span}
    (h : s ∈ outermost cursor groups) : s ∈ groups := by
  induction groups generalizing cursor with
  | nil => cases h
  | cons g rest ih =>
    rw [outermost] at h
    split at h
    · rcases List.mem_cons.1 h with rfl | h
      · exact List.mem_cons_self ..
      · exact List.mem_cons_of_mem g (ih h)
    · exact List.mem_cons_of_mem g (ih h)

/-- What is shown of a match is the match or one of its groups, from its start to its end. -/
theorem exists_of_mem_shown {whole s : Span} {groups : List Span}
    (h : s ∈ shown line whole groups) :
    s = ⟨toLine line whole.start, toLine line whole.stop⟩ ∨
      ∃ g ∈ groups, s = ⟨toLine line g.start, toLine line g.stop⟩ := by
  rw [shown] at h
  obtain ⟨t, ht, rfl⟩ := List.mem_map.1 h
  split at ht
  · obtain rfl := List.mem_singleton.1 ht
    exact Or.inl rfl
  · exact Or.inr ⟨t, mem_of_mem_outermost ht, rfl⟩

/-- What is shown of a match can be cut out of the line. -/
theorem fits_shown {node : Node} {text : List Char} {whole : Span} {slots : Slots} {groups : Nat}
    (h : (Node.group 0 node).Match text (whole.start, []) (whole.stop, slots)) :
    Segments.Fits line (shown line whole
      ((List.range groups).filterMap fun i => slots.group? (i + 1))) := by
  obtain ⟨s, hs, hnotes⟩ := Node.notes_of_match h
  rw [List.append_nil] at hs
  subst hs
  have hgroups : ∀ g ∈ (List.range groups).filterMap fun i => slots.group? (i + 1),
      g.start ≤ g.stop := by
    intro g hg
    obtain ⟨i, -, hi⟩ := List.mem_filterMap.1 hg
    exact hnotes.start_le_stop hi
  obtain ⟨w, -, -, hstop⟩ := Node.exists_word_of_match h
  have hwhole : whole.start ≤ whole.stop := Nat.le.intro hstop.symm
  refine ⟨chain_kept line hwhole hgroups, fun s hs => ?_⟩
  obtain ⟨t, -, rfl⟩ := List.mem_map.1 hs
  exact Nat.min_le_right ..

/-- A template looks at its leftmost match only. -/
theorem applyTemplate_eq (m : LineMatcher) (p : Pattern) (line : List Char) :
    m.applyTemplate p line = (p.find? (padded line)).bind fun found =>
      if (m.commentStart line).any fun c => c ≤ toLine line found.1.start then none
      else some (Segments.cut line (shown line found.1 found.2)) := by
  rw [applyTemplate, padded]
  cases p.find? (' ' :: line ++ [' ']) with
  | none => rfl
  | some found => rfl

/-- A comment token that starts at a position of the line or before it. -/
theorem commented_iff {pos : Nat} :
    ((m.commentStart line).any fun c => c ≤ toLine line pos) = true ↔
      ∃ token c, m.commentToken = some token ∧ FirstAt token.toList line c ∧ c ≤ pos - 1 := by
  rw [Option.any_eq_true]
  constructor
  · rintro ⟨c, hc, hle⟩
    obtain ⟨token, htoken, hfirst⟩ := commentStart_eq_some_iff.1 hc
    exact ⟨token, c, htoken, hfirst, (of_decide_eq_true hle).trans (Nat.min_le_left ..)⟩
  · rintro ⟨token, c, htoken, hfirst, hle⟩
    have hc : m.commentStart line = some c := commentStart_eq_some_iff.2 ⟨token, htoken, hfirst⟩
    exact ⟨c, hc, decide_eq_true (Nat.le_min.2 ⟨hle, commentStart_le hc⟩)⟩

/-- A comment token only decides whether what the match shows is returned. -/
theorem applyTemplate_of_ne_none {p : Pattern} (h : m.applyTemplate p line ≠ none)
    (sought : Sought) :
    m.applyTemplate p line = (LineMatcher.mk sought none).applyTemplate p line := by
  rw [applyTemplate_eq] at h ⊢
  rw [applyTemplate_eq]
  cases hfind : p.find? (padded line) with
  | none => rfl
  | some found =>
    rw [hfind, Option.bind_some] at h
    rw [Option.bind_some, Option.bind_some]
    split at h
    · exact absurd rfl h
    · rename_i hnot
      rw [if_neg hnot]
      rfl

section Template

variable {p : Pattern} {node : Node} (hp : p.program = .ofNode node) (hn : node.Numbered)

include hp hn

/-- **A template fails** just if it has no match or the comment starts where the leftmost one does
or before it. -/
theorem applyTemplate_eq_none_iff : m.applyTemplate p line = none ↔
    (∀ i, ¬ node.Begins (padded line) i) ∨
      ∃ i token c, IsLeast {i | node.Begins (padded line) i} i ∧ m.commentToken = some token ∧
        FirstAt token.toList line c ∧ c ≤ i - 1 := by
  rw [applyTemplate_eq]
  cases hfind : p.find? (padded line) with
  | none => exact iff_of_true rfl (Or.inl ((Pattern.find?_eq_none_iff hp hn).1 hfind))
  | some found =>
    obtain ⟨whole, groups⟩ := found
    obtain ⟨hleast, -⟩ := Pattern.isLeast_of_find? hp hn hfind
    have hbegins : ¬ ∀ i, ¬ node.Begins (padded line) i := fun hnone => hnone _ hleast.1
    rw [Option.bind_some, or_iff_right hbegins]
    constructor
    · intro hnone
      split at hnone
      · rename_i hcommented
        obtain ⟨token, c, htoken, hfirst, hle⟩ := commented_iff.1 hcommented
        exact ⟨whole.start, token, c, hleast, htoken, hfirst, hle⟩
      · cases hnone
    · rintro ⟨i, token, c, hi, htoken, hfirst, hle⟩
      obtain rfl := hi.unique hleast
      exact if_pos (commented_iff.2 ⟨token, c, htoken, hfirst, hle⟩)

/-- **A template that succeeds** shows its leftmost match, and the comment does not start where that
begins or before it. -/
theorem exists_of_applyTemplate {segments : Segments}
    (h : m.applyTemplate p line = some segments) :
    ∃ whole slots, IsLeast {i | node.Begins (padded line) i} whole.start ∧
      (Program.ofNode node).search (padded line).toArray 0 = some slots ∧
      slots.group? 0 = some whole ∧
      (Node.group 0 node).Match (padded line) (whole.start, []) (whole.stop, slots) ∧
      (∀ token c, m.commentToken = some token → FirstAt token.toList line c →
        whole.start - 1 < c) ∧
      segments = Segments.cut line (shown line whole
        ((List.range p.groups).filterMap fun i => slots.group? (i + 1))) := by
  rw [applyTemplate_eq] at h
  obtain ⟨⟨whole, groups⟩, hfind, h⟩ := Option.bind_eq_some_iff.1 h
  obtain ⟨hleast, slots, hsearch, hwhole, hmatch, rfl⟩ := Pattern.isLeast_of_find? hp hn hfind
  split at h
  · cases h
  · rename_i hcommented
    refine ⟨whole, slots, hleast, hsearch, hwhole, hmatch, fun token c htoken hfirst => ?_,
      (Option.some.inj h).symm⟩
    by_contra hle
    exact hcommented (commented_iff.2 ⟨token, c, htoken, hfirst, Nat.not_lt.1 hle⟩)

end Template

/-- **What a comment token does to a template.** Whatever the template, the container, the key and
the limit are, the rule with the token compiles if the rule without it does. On each line it fails
just if that rule fails or the token first occurs where its leftmost match begins or before, where a
match that begins in the space before the line counts as one at its start; otherwise both have the
same outcome. So a line in which the token comes before every match never matches, whatever follows
the token. -/
theorem apply_with_comment {extensions : List String} {caseSensitive : Bool}
    {template container key : String} {limit : Nat}
    (hm : compile ⟨extensions, caseSensitive, some template, none⟩ container key limit = .ok m)
    (token : String) : ∃ m' node groups,
      compile ⟨extensions, caseSensitive, some template, some token⟩ container key limit = .ok m' ∧
      Pattern.readNode (!caseSensitive) (Template.expand template container key).toList =
        some (node, groups) ∧
      ∀ line : String,
        (m.apply line = none ↔ ∀ i, ¬ node.Begins (padded line.toList) i) ∧
        (m'.apply line = none ↔ m.apply line = none ∨
          ∃ i c, IsLeast {i | node.Begins (padded line.toList) i} i ∧
            FirstAt token.toList line.toList c ∧ c ≤ i - 1) ∧
        (m'.apply line ≠ none → m'.apply line = m.apply line) ∧
        ∀ before after, line.toList = before ++ token.toList ++ after →
          (∀ i, node.Begins (padded line.toList) i → before.length ≤ i - 1) →
            m'.apply line = none := by
  obtain ⟨p, hp, rfl⟩ := (compile_template_iff rfl).1 hm
  obtain ⟨node, hread, hnode⟩ := Pattern.exists_of_compile hp
  have hn := Pattern.hereditary_of_readNode Node.hereditary_numbered hread
  refine ⟨⟨.template p, some token⟩, node, p.groups, (compile_template_iff rfl).2 ⟨p, hp, rfl⟩,
    hread, fun line => ?_⟩
  have hplain : (LineMatcher.mk (.template p) none).apply line = none ↔
      ∀ i, ¬ node.Begins (padded line.toList) i := by
    refine (applyTemplate_eq_none_iff hnode hn).trans (or_iff_left ?_)
    rintro ⟨i, token, c, -, htoken, -⟩
    cases htoken
  have hcommented : (LineMatcher.mk (.template p) (some token)).apply line = none ↔
      (LineMatcher.mk (.template p) none).apply line = none ∨
        ∃ i c, IsLeast {i | node.Begins (padded line.toList) i} i ∧
          FirstAt token.toList line.toList c ∧ c ≤ i - 1 := by
    rw [hplain]
    refine (applyTemplate_eq_none_iff hnode hn).trans (or_congr_right ?_)
    constructor
    · rintro ⟨i, token', c, hi, htoken, hc⟩
      obtain rfl := Option.some.inj htoken
      exact ⟨i, c, hi, hc⟩
    · rintro ⟨i, c, hi, hc⟩
      exact ⟨i, token, c, hi, rfl, hc⟩
  refine ⟨hplain, hcommented, fun hsome => applyTemplate_of_ne_none hsome _,
    fun before after hline hbefore => ?_⟩
  rw [hcommented]
  by_cases hbegins : ∃ i, node.Begins (padded line.toList) i
  · obtain ⟨i, hi⟩ : ∃ i, IsLeast {i | node.Begins (padded line.toList) i} i :=
      ⟨_, isLeast_csInf hbegins⟩
    have hoccurs : token.toList <+: line.toList.drop before.length := by
      rw [hline, List.append_assoc, List.drop_left]
      exact List.prefix_append ..
    obtain ⟨c, hc, hle⟩ := exists_firstAt hoccurs
    exact Or.inr ⟨i, c, hi, hc, hle.trans (hbefore i hi.1)⟩
  · exact Or.inl (hplain.2 (not_exists.1 hbegins))

/-- A rule for names with a dot between them, with a comment token or without. -/
def dottedRule (token : Option String) : Rule := ⟨[".cs"], true, some "$File\\.$Key", token⟩

theorem apply_dottedRule :
    ((compile (dottedRule none) "R" "K" defaultLimit).toOption.bind fun m => m.apply "// R.K") =
      some ["// ", "R.K", ""] := by
  decide +kernel

theorem apply_with_comment_dotted : ∃ m m',
    compile (dottedRule none) "R" "K" defaultLimit = .ok m ∧
    compile (dottedRule (some "//")) "R" "K" defaultLimit = .ok m' ∧
    m.apply "// R.K" = some ["// ", "R.K", ""] ∧ m'.apply "// R.K" = none := by
  have heval := apply_dottedRule
  cases hm : compile (dottedRule none) "R" "K" defaultLimit with
  | error e =>
    rw [hm] at heval
    cases heval
  | ok m =>
    rw [hm] at heval
    obtain ⟨m', node, groups, hm', -, hline⟩ := apply_with_comment hm "//"
    obtain ⟨-, -, -, hcommented⟩ := hline "// R.K"
    exact ⟨m, m', rfl, hm', heval, hcommented [] " R.K".toList rfl fun i _ => Nat.zero_le _⟩

/-! ### What is shown behind a comment token -/

/-- Occurrences of a key as plain text count before the comment only. -/
theorem exists_of_applyLiteral {key : Pattern} {container : Option Pattern} {segments : Segments}
    (h : m.applyLiteral key container line = some segments) :
    ∃ s ∈ key.findAll line, s.BeforeComment m.commentToken line ∧
      segments = Segments.cut line [s] := by
  rw [applyLiteral] at h
  split at h
  · cases h
  · rename_i first rest hspans
    have hmem := fun others => chosen_mem (byteOffsets line) others first rest
    rw [← hspans] at hmem
    obtain ⟨hfound, hcounts⟩ := List.mem_filter.1 (hmem _)
    exact ⟨_, hfound, beforeComment_iff.1 hcounts, (Option.some.inj h).symm⟩

/-- **What is shown behind a comment token** is a group of a match that begins before it. Whatever
the rule, the container and the key are, a matched segment that starts where the comment token first
occurs or later is, from its start to its end, a group of the template which took part in the match
that the search returns; that match is the leftmost one, and it begins before the token. There is
none for a key as plain text, and none if no group took part. -/
theorem exists_group_of_commented {r : Rule} {token container key line : String}
    {limit c : Nat} {segments : Segments} {x : Span} (hr : r.commentToken = some token)
    (hm : compile r container key limit = .ok m) (h : m.apply line = some segments)
    (hc : FirstAt token.toList line.toList c) (hx : x ∈ segments.matchedSpans)
    (hle : c ≤ x.start) :
    ∃ template node groups slots whole g s, r.pattern = some template ∧
      Pattern.readNode (!r.caseSensitive) (Template.expand template container key).toList =
        some (node, groups) ∧
      (Program.ofNode node).search (padded line.toList).toArray 0 = some slots ∧
      slots.group? 0 = some whole ∧
      IsLeast {i | node.Begins (padded line.toList) i} whole.start ∧ whole.start - 1 < c ∧
      1 ≤ g ∧ g ≤ groups ∧ slots.group? g = some s ∧
      x = ⟨toLine line.toList s.start, toLine line.toList s.stop⟩ := by
  have hspans : ∀ spans, Segments.Fits line.toList spans →
      segments = Segments.cut line.toList spans → x ∈ spans := by
    rintro spans hfits rfl
    rwa [Segments.matchedSpans_cut hfits] at hx
  cases ht : r.pattern with
  | none =>
    obtain ⟨k, other, rfl, hk, -, -⟩ := exists_of_compile_literal ht hm
    obtain ⟨node, -, hnode⟩ := Pattern.exists_of_compile hk
    obtain ⟨s, hs, hbefore, hsegments⟩ := exists_of_applyLiteral h
    have hwithin := Pattern.within_of_findAll hnode hs
    obtain rfl := List.mem_singleton.1 (hspans _ (.singleton hwithin) hsegments)
    exact absurd (hbefore token c hr hc) (Nat.not_lt.2 hle)
  | some template =>
    obtain ⟨p, hp, rfl⟩ := (compile_template_iff ht).1 hm
    obtain ⟨node, hread, hnode⟩ := Pattern.exists_of_compile hp
    have hn := Pattern.hereditary_of_readNode Node.hereditary_numbered hread
    obtain ⟨whole, slots, hleast, hsearch, hwhole, hmatch, hbefore, hsegments⟩ :=
      exists_of_applyTemplate hnode hn h
    have hlt := hbefore token c hr hc
    rcases exists_of_mem_shown (hspans _ (fits_shown hmatch) hsegments) with rfl | ⟨s, hs, hspan⟩
    · -- The match as a whole begins before the token.
      have hstart : whole.start - 1 < toLine line.toList whole.start := hlt.trans_le hle
      exact absurd (Nat.min_le_left ..) (Nat.not_le.2 hstart)
    · obtain ⟨i, hi, hgroup⟩ := List.mem_filterMap.1 hs
      rw [List.mem_range] at hi
      exact ⟨template, node, p.groups, slots, whole, i + 1, s, rfl, hread, hsearch, hwhole, hleast,
        hlt, Nat.le_add_left 1 i, hi, hgroup, hspan⟩

/-- The built-in rule for a type and a key in quotes. -/
def typeofRule : Rule :=
  ⟨[".cs"], true, some "typeof\\($File\\).+\"($Key)\"|\"($Key)\".+typeof\\($File\\)",
    some "//"⟩

/-- What is read from the template of this rule. -/
def typeofNode (typed key : List Char) : Node :=
  let quote := Node.literal ['"']
  .alt (.cat (.literal typed) (.cat .dots (.cat quote (.cat (.group 1 (.literal key)) quote))))
    (.cat quote (.cat (.group 2 (.literal key)) (.cat quote (.cat .dots (.literal typed)))))

theorem size_typeofNode_le (typed key : List Char) :
    (typeofNode typed key).size ≤ 2 * stateBytes * Utf8.width (typed ++ key) + 5000 := by
  have hforward := CharClass.bytes_nonBreak_le .forward
  have hbackward := CharClass.bytes_nonBreak_le .backward
  have hquote : '"'.utf8Size = 1 := rfl
  simp [Node.size, typeofNode, Node.dots, Node.bytes, Node.bytesIn, Node.lead, Node.fromStart,
    Node.toEnd, Node.zeroWidth, Node.textChoiceBytes?, Node.branches, Node.within, Node.text?,
    stateBytes, branchBytes, rangeBytes, Utf8.length_encode, hquote]
  omega

/-- The template of this rule compiled for the type `R` and the key `K`. -/
def typeofPattern : Pattern := ⟨Program.ofNode (typeofNode "typeof(R)".toList ['K']), 2⟩

theorem compile_typeofRule :
    compile typeofRule "R" "K" defaultLimit = .ok ⟨.template typeofPattern, some "//"⟩ := by
  have hread : Pattern.readNode false (Template.expand
      "typeof\\($File\\).+\"($Key)\"|\"($Key)\".+typeof\\($File\\)" "R" "K").toList =
      some (typeofNode "typeof(R)".toList ['K'], 2) := by
    decide +kernel
  have hsize : (typeofNode "typeof(R)".toList ['K']).size ≤ defaultLimit :=
    (size_typeofNode_le _ _).trans (by decide +kernel)
  exact (compile_template_iff rfl).2 ⟨_, Pattern.compile_of_size_le hread hsize, rfl⟩

theorem load_typeofRule :
    (RuleDecl.builtin[2]?.bind fun d => (Rule.load d).toOption) = some typeofRule := by
  decide +kernel

theorem find?_typeofPattern :
    typeofPattern.find? (padded "typeof(R)//\"K\"".toList) = some (⟨1, 15⟩, [⟨13, 14⟩]) := by
  rw [Pattern.find?, Program.search_eq_runList]
  decide +kernel

theorem apply_typeofPattern :
    (LineMatcher.mk (.template typeofPattern) (some "//")).apply "typeof(R)//\"K\"" =
      some ["typeof(R)//\"", "K", "\""] := by
  rw [apply]
  dsimp only
  rw [applyTemplate_eq, find?_typeofPattern]
  decide +kernel

theorem firstAt_typeof : FirstAt "//".toList "typeof(R)//\"K\"".toList 9 :=
  firstAt_of_indexOf? (by decide +kernel)

/-- The key behind the token of a comment that begins between a type and the key. -/
theorem exists_group_of_typeof : ∃ template node groups slots whole g s,
    typeofRule.pattern = some template ∧
    Pattern.readNode (!typeofRule.caseSensitive) (Template.expand template "R" "K").toList =
      some (node, groups) ∧
    (Program.ofNode node).search (padded "typeof(R)//\"K\"".toList).toArray 0 = some slots ∧
    slots.group? 0 = some whole ∧
    IsLeast {i | node.Begins (padded "typeof(R)//\"K\"".toList) i} whole.start ∧
    whole.start - 1 < 9 ∧ 1 ≤ g ∧ g ≤ groups ∧ slots.group? g = some s ∧
    (⟨12, 13⟩ : Span) = ⟨toLine "typeof(R)//\"K\"".toList s.start,
      toLine "typeof(R)//\"K\"".toList s.stop⟩ :=
  exists_group_of_commented rfl compile_typeofRule apply_typeofPattern firstAt_typeof
    (by decide) (by decide)

/-- Not all that a built-in rule shows lies before the comment token. -/
theorem shown_behind_comment :
    (RuleDecl.builtin[2]?.bind fun d => (Rule.load d).toOption) = some typeofRule ∧
    ∃ m segments c x, compile typeofRule "R" "K" defaultLimit = .ok m ∧
      typeofRule.commentToken = some "//" ∧
      m.apply "typeof(R)//\"K\"" = some segments ∧
      FirstAt "//".toList "typeof(R)//\"K\"".toList c ∧ x ∈ segments.matchedSpans ∧
      c ≤ x.start :=
  ⟨load_typeofRule, _, _, 9, ⟨12, 13⟩, compile_typeofRule, rfl, apply_typeofPattern,
    firstAt_typeof, by decide, by decide⟩

end LineMatcher

end KeyTrace
