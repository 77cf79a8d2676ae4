import KeyTrace.Proofs.Pattern.Nesting
import KeyTrace.Proofs.Rule.Comment

/-!
# What a template highlights

Of the groups that took part in a match the outermost ones are meant to be highlighted. A group is
kept if it does not start before the end of what was kept so far, the groups being taken in the
order of their numbers. This looks at spans only, and not at how the groups lie in the template.

For most matches it comes to the same. An inner group lies within the outer one, which has the
lesser number, and groups side by side mostly match in the order of their numbers. There are two
exceptions. An inner group that is empty and lies at the end of the outer one is kept. A group that
matches before one with a lesser number, as alternatives in a repetition can do, is lost.

## Main definitions

* `Slots.Took`, `Slots.Outermost`: groups that took part in a match.
* `Slots.Plain`: matches without the two exceptions.
* `LineMatcher.Highlights`: which groups are highlighted.

## Main results

* `LineMatcher.exists_outermost`: what is kept of some spans that do not overlap in part.
* `LineMatcher.highlights_of_template`: what a compiled template highlights.
* `LineMatcher.highlights_astray`: the two exceptions.
-/

namespace KeyTrace

namespace Slots

/-- A group other than the whole match took part in a match, with this span. -/
def Took (slots : Slots) (g : Nat) (x : Span) : Prop := 1 ≤ g ∧ slots.group? g = some x

/-- A group took part in a match, and no group around it did. -/
def Outermost (slots : Slots) (node : Node) (g : Nat) (x : Span) : Prop :=
  slots.Took g x ∧ ∀ q y, node.Encloses q g → ¬slots.Took q y

/-- No inner group is empty and at the end of the outer one, and groups side by side matched in the
order of their numbers. -/
structure Plain (slots : Slots) (node : Node) : Prop where
  inner : ∀ g x q y, node.Encloses q g → slots.Took q y → slots.Took g x → x.start = x.stop →
    x.stop ≠ y.stop
  ascending : ∀ g x q y, q < g → ¬node.Encloses q g → slots.Took q y → slots.Took g x →
    y.stop ≤ x.start

/-- The groups up to a number that took part, with their numbers. -/
def numbered (slots : Slots) (groups : Nat) : List (Nat × Span) :=
  (List.range' 1 groups).filterMap fun g => (slots.group? g).map fun x => (g, x)

theorem mem_numbered {slots : Slots} {groups g : Nat} {x : Span} :
    (g, x) ∈ slots.numbered groups ↔ g ≤ groups ∧ slots.Took g x := by
  have hmem : (g, x) ∈ slots.numbered groups ↔
      g ∈ List.range' 1 groups ∧ slots.group? g = some x := by
    simp [numbered, List.mem_filterMap]
  rw [hmem, List.mem_range'_1, Took]
  constructor
  · rintro ⟨⟨hle, hlt⟩, hx⟩
    exact ⟨by omega, hle, hx⟩
  · rintro ⟨hle, hpos, hx⟩
    exact ⟨⟨hpos, by omega⟩, hx⟩

theorem pairwise_numbered (slots : Slots) (groups : Nat) :
    (slots.numbered groups).Pairwise fun a b => a.1 < b.1 := by
  have hrange : (List.range' 1 groups).Pairwise (· < ·) := List.pairwise_lt_range'
  refine List.pairwise_filterMap.2 (hrange.imp fun hlt b hb b' hb' => ?_)
  obtain ⟨_, -, rfl⟩ := Option.map_eq_some_iff.1 hb
  obtain ⟨_, -, rfl⟩ := Option.map_eq_some_iff.1 hb'
  exact hlt

theorem map_numbered (slots : Slots) (groups : Nat) :
    (slots.numbered groups).map Prod.snd =
      (List.range groups).filterMap fun i => slots.group? (i + 1) := by
  rw [numbered, List.map_filterMap, List.range'_eq_map_range, List.filterMap_map]
  refine List.filterMap_congr fun i _ => ?_
  rw [Function.comp_apply, Nat.add_comm 1 i]
  cases slots.group? (i + 1) <;> rfl

end Slots

theorem Segments.matched_cut (line : List Char) (spans : List Span) :
    (cut line spans).matched = spans.map fun s => slice line s.start s.stop := by
  rw [cut]
  generalize 0 = cursor
  induction spans generalizing cursor with
  | nil => rfl
  | cons s rest ih =>
    rw [cutFrom, matched, ih]
    rfl

namespace LineMatcher

/-- The text of a span of the padded line, as far as it lies in the line. -/
def textOf (line : List Char) (x : Span) : String :=
  Segments.slice line (toLine line x.start) (toLine line x.stop)

/-- The padding is cut off from a text of the padded line. -/
theorem textOf_eq (line : List Char) (x : Span) : textOf line x =
    Segments.slice (padded line) (max x.start 1) (min x.stop (line.length + 1)) := by
  have hdrop : (padded line).drop (max x.start 1) = (line ++ [' ']).drop (x.start - 1) := by
    obtain ⟨k, hk⟩ : ∃ k, max x.start 1 = k + 1 := ⟨max x.start 1 - 1, by omega⟩
    rw [hk, padded, List.cons_append, List.drop_succ_cons]
    congr 1
    omega
  rw [textOf, Segments.slice, Segments.slice, hdrop, toLine, toLine]
  rcases Nat.lt_or_ge line.length (x.start - 1) with hlt | hle
  · have hnone : min (x.stop - 1) line.length - min (x.start - 1) line.length = 0 := by
      omega
    have hnone' : min x.stop (line.length + 1) - max x.start 1 = 0 := by
      omega
    rw [hnone, hnone', List.take_zero, List.take_zero]
  · have hcount : min x.stop (line.length + 1) - max x.start 1 =
        min (x.stop - 1) line.length - min (x.start - 1) line.length := by
      omega
    rw [hcount, Nat.min_eq_left hle, List.drop_append_of_le_length hle,
      List.take_append_of_le_length]
    rw [List.length_drop]
    omega

/-- A span in the padding has no text. -/
theorem textOf_of_padding {line : List Char} {x : Span}
    (h : x.stop ≤ 1 ∨ line.length < x.start) : textOf line x = "" := by
  have hnone : min x.stop (line.length + 1) - max x.start 1 = 0 := by
    omega
  rw [textOf_eq, Segments.slice, hnone, List.take_zero]

/-- What is shown of a match, as texts. -/
theorem matched_shown (line : List Char) (whole : Span) {groups : List Span}
    {kept : List (Nat × Span)} (h : outermost 0 groups = kept.map Prod.snd) :
    (Segments.cut line (shown line whole groups)).matched =
      (if kept = [] then [whole] else kept.map Prod.snd).map (textOf line) := by
  rw [Segments.matched_cut, shown, h, List.map_map]
  cases kept with
  | nil => rfl
  | cons g rest => rfl

/-! ### What is kept -/

/-- **What is kept of some spans.** The spans are numbered, and one of a greater number ends no
later than one of a lesser number or begins behind it. Then a span is kept just if all spans of
lesser numbers end before it. -/
theorem exists_outermost (cursor : Nat) {gs : List (Nat × Span)}
    (hgs : gs.Pairwise fun a b => a.1 < b.1 ∧ (b.2.stop ≤ a.2.stop ∨ a.2.stop ≤ b.2.start))
    (hspan : ∀ g ∈ gs, g.2.start ≤ g.2.stop)
    (hcursor : ∀ g ∈ gs, g.2.stop ≤ cursor ∨ cursor ≤ g.2.start) :
    ∃ kept : List (Nat × Span), outermost cursor (gs.map Prod.snd) = kept.map Prod.snd ∧
      kept.Sublist gs ∧
      ∀ g ∈ gs, g ∈ kept ↔
        cursor ≤ g.2.start ∧ ∀ q ∈ gs, q.1 < g.1 → q.2.stop ≤ g.2.start := by
  induction gs generalizing cursor with
  | nil => exact ⟨[], rfl, List.Sublist.slnil, nofun⟩
  | cons g rest ih =>
    obtain ⟨hg, hrest⟩ := List.pairwise_cons.1 hgs
    have hspan' : ∀ b ∈ rest, b.2.start ≤ b.2.stop :=
      fun b hb => hspan b (List.mem_cons_of_mem g hb)
    have hself : ∀ q ∈ g :: rest, q.1 < g.1 → q.2.stop ≤ g.2.start := by
      intro q hq hlt
      rcases List.mem_cons.1 hq with rfl | hq
      · exact absurd hlt (Nat.lt_irrefl _)
      · exact absurd hlt (Nat.lt_asymm (hg q hq).1)
    have hne : ∀ b ∈ rest, b ≠ g := by
      rintro b hb rfl
      exact Nat.lt_irrefl _ (hg b hb).1
    rw [List.map_cons, outermost]
    split
    · rename_i hle
      obtain ⟨kept, hkept, hsub, hmem⟩ := ih _ hrest hspan' fun b hb => (hg b hb).2
      refine ⟨g :: kept, by rw [hkept]; rfl, hsub.cons_cons g, fun b hb => ?_⟩
      rcases List.mem_cons.1 hb with rfl | hb
      · exact iff_of_true (List.mem_cons_self ..) ⟨hle, hself⟩
      · rw [List.mem_cons, or_iff_right (hne b hb), hmem b hb, List.forall_mem_cons]
        have hlt := (hg b hb).1
        have hstop := hspan g (List.mem_cons_self ..)
        constructor
        · rintro ⟨hbehind, hall⟩
          exact ⟨by omega, fun _ => hbehind, hall⟩
        · rintro ⟨-, hbehind, hall⟩
          exact ⟨hbehind hlt, hall⟩
    · rename_i hlt
      -- What was kept last ends no earlier than this span does.
      have hstop := (hcursor g (List.mem_cons_self ..)).resolve_right hlt
      obtain ⟨kept, hkept, hsub, hmem⟩ := ih _ hrest hspan'
        fun b hb => hcursor b (List.mem_cons_of_mem g hb)
      refine ⟨kept, hkept, hsub.cons g, fun b hb => ?_⟩
      rcases List.mem_cons.1 hb with rfl | hb
      · exact iff_of_false (fun hb => hne b (hsub.subset hb) rfl) fun hle => hlt hle.1
      · rw [hmem b hb, List.forall_mem_cons]
        constructor
        · rintro ⟨hle, hall⟩
          exact ⟨hle, fun _ => hstop.trans hle, hall⟩
        · rintro ⟨hle, -, hall⟩
          exact ⟨hle, hall⟩

/-- The groups that are highlighted, with their numbers, of those that took part in a match. -/
structure Highlights (node : Node) (slots : Slots) (kept : List (Nat × Span)) : Prop where
  /-- They follow each other by their numbers and in the line. -/
  ordered : kept.Pairwise fun a b => a.1 < b.1 ∧ a.2.stop ≤ b.2.start
  /-- A group is highlighted just if all groups of lesser numbers end before it. -/
  mem_iff : ∀ g x, (g, x) ∈ kept ↔
    slots.Took g x ∧ ∀ q y, slots.Took q y → q < g → y.stop ≤ x.start
  /-- An outermost group is left out only if one of a lesser number lies behind it. -/
  lost : ∀ g x, slots.Outermost node g x → (g, x) ∉ kept →
    ∃ q y, q < g ∧ slots.Took q y ∧ x.stop ≤ y.start ∧ x.start < y.stop
  /-- An inner group is highlighted only if it is empty and lies at the end of all outer ones. -/
  inner : ∀ g x q y, (g, x) ∈ kept → node.Encloses q g → slots.Took q y →
    x.start = x.stop ∧ x.stop = y.stop

namespace Highlights

variable {node : Node} {slots : Slots} {kept : List (Nat × Span)}

/-- No group is highlighted just if none took part: that of the least number always is. -/
theorem eq_nil_iff (h : Highlights node slots kept) : kept = [] ↔ ∀ g x, ¬slots.Took g x := by
  constructor
  · rintro rfl g x hx
    have hsome : ∃ g x, slots.Took g x := ⟨g, x, hx⟩
    classical
    obtain ⟨x, hx⟩ := Nat.find_spec hsome
    have hmem : (Nat.find hsome, x) ∈ ([] : List (Nat × Span)) :=
      (h.mem_iff _ x).2 ⟨hx, fun q y hy hlt => absurd ⟨y, hy⟩ (Nat.find_min hsome hlt)⟩
    cases hmem
  · intro hnone
    rw [List.eq_nil_iff_forall_not_mem]
    exact fun g hg => hnone g.1 g.2 ((h.mem_iff g.1 g.2).1 hg).1

/-- **The outermost groups are highlighted**, and no others, if the match is without the two
exceptions. -/
theorem mem_iff_outermost (h : Highlights node slots kept) (hplain : slots.Plain node) (g : Nat)
    (x : Span) : (g, x) ∈ kept ↔ slots.Outermost node g x := by
  constructor
  · intro hg
    have hx := ((h.mem_iff g x).1 hg).1
    refine ⟨hx, fun q y henc hy => ?_⟩
    obtain ⟨hempty, hend⟩ := h.inner g x q y hg henc hy
    exact hplain.inner g x q y henc hy hx hempty hend
  · intro hout
    by_contra hg
    obtain ⟨q, y, hlt, hy, hle, hoverlap⟩ := h.lost g x hout hg
    have hbefore := hplain.ascending g x q y hlt (fun henc => hout.2 q y henc hy) hy hout.1
    omega

end Highlights

section Groups

variable {node : Node} {slots : Slots} {groups i j : Nat}
  (hnumbers : node.numbers.Sublist (List.range' 1 groups))
  (h : Laid (Node.group 0 node).Encloses (Node.group 0 node).numbers i j slots)

include hnumbers in
/-- The numbers ascend also with the match as a whole, which is group 0. -/
theorem pairwise_numbers : (Node.group 0 node).numbers.Pairwise (· < ·) := by
  have hrange : (List.range' 1 groups).Pairwise (· < ·) := List.pairwise_lt_range'
  refine List.pairwise_cons.2 ⟨fun g hg => ?_, hrange.sublist hnumbers⟩
  exact (List.mem_range'_1.1 (hnumbers.subset hg)).1

include hnumbers h

theorem mem_numbered_iff {g : Nat} {x : Span} :
    (g, x) ∈ slots.numbered groups ↔ slots.Took g x := by
  rw [Slots.mem_numbered, and_iff_right_iff_imp]
  rintro ⟨hpos, hx⟩
  rcases List.mem_cons.1 (h.mem g x hx) with rfl | hg
  · cases hpos
  · have hlt := (List.mem_range'_1.1 (hnumbers.subset hg)).2
    omega

omit hnumbers in
/-- An inner group that does not begin before the end of an outer one is empty and lies there. -/
theorem empty_of_encloses {q g : Nat} {y x : Span} (henc : node.Encloses q g)
    (hy : slots.Took q y) (hx : slots.Took g x) (hle : y.stop ≤ x.start) :
    x.start = x.stop ∧ x.stop = y.stop := by
  obtain ⟨y', hy', hstop⟩ := h.nested q g x (Or.inr henc) hx.2
  obtain rfl := Option.some.inj (hy.2.symm.trans hy')
  have hspan := h.notes.start_le_stop hx.2
  omega

/-- A group of a lesser number that does not end before an outermost one lies behind it. -/
theorem behind_of_outermost {q g : Nat} {y x : Span} (hqg : q < g) (hy : slots.Took q y)
    (hx : slots.Outermost node g x) (hlt : x.start < y.stop) : x.stop ≤ y.start := by
  have hside : ¬(Node.group 0 node).Encloses q g := by
    rintro (⟨rfl, -⟩ | henc)
    · exact absurd hy.1 (by decide)
    · exact hx.2 q y henc hy
  have hside' : ¬(Node.group 0 node).Encloses g q :=
    fun henc => absurd (henc.lt (pairwise_numbers hnumbers)) (Nat.lt_asymm hqg)
  have hapart := h.apart q g y x (Nat.ne_of_lt hqg) hside hside' hy.2 hx.1.2
  exact hapart.resolve_left (Nat.not_le.2 hlt)

/-- **What is highlighted of a match**, the groups of which are laid out as those of an
expression. -/
theorem exists_highlights : ∃ kept, Highlights node slots kept ∧
    outermost 0 ((List.range groups).filterMap fun i => slots.group? (i + 1)) =
      kept.map Prod.snd := by
  have hlt : ∀ o n, (Node.group 0 node).Encloses o n → o < n :=
    fun _ _ henc => henc.lt (pairwise_numbers hnumbers)
  have hnum : ∀ {a : Nat × Span}, a ∈ slots.numbered groups ↔ slots.Took a.1 a.2 :=
    mem_numbered_iff hnumbers h
  have hpairs : (slots.numbered groups).Pairwise fun a b =>
      a.1 < b.1 ∧ (b.2.stop ≤ a.2.stop ∨ a.2.stop ≤ b.2.start) := by
    refine (slots.pairwise_numbered groups).imp_of_mem fun {a b} ha hb hab => ⟨hab, ?_⟩
    exact h.stop_le_or hlt hab (hnum.1 ha).2 (hnum.1 hb).2
  obtain ⟨kept, hkept, hsub, hlaw⟩ := exists_outermost 0 hpairs
    (fun g hg => h.notes.start_le_stop (hnum.1 hg).2) fun g _ => Or.inr (Nat.zero_le _)
  have hmem : ∀ g x, (g, x) ∈ kept ↔
      slots.Took g x ∧ ∀ q y, slots.Took q y → q < g → y.stop ≤ x.start := by
    intro g x
    constructor
    · intro hg
      have hg' := hsub.subset hg
      exact ⟨hnum.1 hg', fun q y hy => ((hlaw (g, x) hg').1 hg).2 (q, y) (hnum.2 hy)⟩
    · rintro ⟨hx, hall⟩
      exact (hlaw (g, x) (hnum.2 hx)).2 ⟨Nat.zero_le _, fun q hq => hall q.1 q.2 (hnum.1 hq)⟩
  refine ⟨kept, ⟨?_, hmem, fun g x hx hg => ?_, fun g x q y hg henc hy => ?_⟩, ?_⟩
  · refine (hpairs.sublist hsub).imp_of_mem fun {a b} ha hb hab => ⟨hab.1, ?_⟩
    exact ((hlaw b (hsub.subset hb)).1 hb).2 a (hsub.subset ha) hab.1
  · have hno : ¬∀ q y, slots.Took q y → q < g → y.stop ≤ x.start :=
      fun hall => hg ((hmem g x).2 ⟨hx.1, hall⟩)
    push Not at hno
    obtain ⟨q, y, hy, hqg, hoverlap⟩ := hno
    exact ⟨q, y, hqg, hy, behind_of_outermost hnumbers h hqg hy hx hoverlap, hoverlap⟩
  · obtain ⟨hx, hall⟩ := (hmem g x).1 hg
    exact empty_of_encloses h henc hy hx (hall q y hy (hlt _ _ (Or.inr henc)))
  · rw [← hkept, slots.map_numbered]

end Groups

/-- **What a template highlights.** Whatever the template, the container, the key and the limit are,
on each line in which the compiled rule succeeds it shows the first match in the padded line. The
matched segments are the texts of the groups that are highlighted, in the order of the line, and of
the whole match if no group took part. What lies in the padding has no text.

The groups that are highlighted are the outermost ones that took part, unless an inner group is
empty and lies at the end of an outer one, or a group lies before one with a lesser number that it
is not in. In general they are those before which all groups with lesser numbers end. -/
theorem highlights_of_template {r : Rule} {template container key line : String} {limit : Nat}
    {m : LineMatcher} {segments : Segments} (hr : r.pattern = some template)
    (hm : compile r container key limit = .ok m) (h : m.apply line = some segments) :
    ∃ node groups slots whole kept,
      Pattern.readNode (!r.caseSensitive) (Template.expand template container key).toList =
        some (node, groups) ∧
      (Program.ofNode node).search (padded line.toList).toArray 0 = some slots ∧
      slots.group? 0 = some whole ∧
      Highlights node slots kept ∧
      segments.matched =
        (if kept = [] then [whole] else kept.map Prod.snd).map (textOf line.toList) ∧
      (kept = [] ↔ ∀ g x, ¬slots.Took g x) ∧
      (slots.Plain node → ∀ g x, (g, x) ∈ kept ↔ slots.Outermost node g x) ∧
      ∀ x : Span, x.stop ≤ 1 ∨ line.toList.length < x.start → textOf line.toList x = "" := by
  obtain ⟨p, hp, rfl⟩ := (compile_template_iff hr).1 hm
  obtain ⟨node, hread, hnode⟩ := Pattern.exists_of_compile hp
  rw [apply] at h
  dsimp only at h
  rw [applyTemplate_eq] at h
  obtain ⟨⟨whole, spans⟩, hfind, hshown⟩ := Option.bind_eq_some_iff.1 h
  rw [Pattern.find?, hnode] at hfind
  obtain ⟨slots, hsearch, hspans⟩ := Option.bind_eq_some_iff.1 hfind
  obtain ⟨whole', hwhole, heq⟩ := Option.map_eq_some_iff.1 hspans
  cases heq
  obtain ⟨start, -, y, hmatch, rfl⟩ := Program.match_of_search hsearch
  have hnumbers := Pattern.numbers_of_readNode hread
  have hnodup : (Node.group 0 node).numbers.Nodup :=
    (pairwise_numbers hnumbers).imp fun hlt => Nat.ne_of_lt hlt
  obtain ⟨s, hs, hlaid⟩ := Node.laid_of_match hnodup hmatch
  rw [List.append_nil] at hs
  obtain ⟨kept, hkept, houtermost⟩ := exists_highlights hnumbers (hs ▸ hlaid)
  refine ⟨node, p.groups, y.2, whole, kept, hread, hsearch, hwhole, hkept, ?_, hkept.eq_nil_iff,
    hkept.mem_iff_outermost, fun x => textOf_of_padding⟩
  split at hshown
  · cases hshown
  · rw [← Option.some.inj hshown]
    exact matched_shown line.toList whole houtermost

/-- The key that a built-in rule shows. -/
theorem highlights_of_typeof : ∃ node slots whole kept,
    (Program.ofNode node).search (padded "typeof(R)//\"K\"".toList).toArray 0 = some slots ∧
    slots.group? 0 = some whole ∧ Highlights node slots kept ∧
    ["K"] = (if kept = [] then [whole] else kept.map Prod.snd).map
      (textOf "typeof(R)//\"K\"".toList) := by
  obtain ⟨node, groups, slots, whole, kept, -, hsearch, hwhole, hkept, hmatched, -⟩ :=
    highlights_of_template rfl compile_typeofRule apply_typeofPattern
  exact ⟨node, slots, whole, kept, hsearch, hwhole, hkept, hmatched⟩

/-! ### The two exceptions -/

/-- A rule with a template and no comment token. -/
def templateRule (template : String) : Rule := ⟨[".t"], true, some template, none⟩

/-- Such a rule after compiling, for an expression with two groups. -/
def twoGroups (node : Node) : LineMatcher := ⟨.template ⟨Program.ofNode node, 2⟩, none⟩

theorem compile_templateRule {template container key : String} {limit : Nat} {node : Node}
    (hread : Pattern.readNode false (Template.expand template container key).toList =
      some (node, 2)) (hsize : node.size ≤ limit) :
    compile (templateRule template) container key limit = .ok (twoGroups node) :=
  (compile_template_iff rfl).2 ⟨_, Pattern.compile_of_size_le hread hsize, rfl⟩

/-- Two groups as alternatives in a repetition, which may match in any order. -/
def anyOrder (container key : List Char) : Node :=
  .rep 1 none true (.alt (.group 1 (.literal container)) (.group 2 (.literal key)))

/-- A group with an empty one at its end. -/
def emptyEnd (key : List Char) : Node := .group 1 (.cat (.literal key) (.group 2 .empty))

/-- Groups side by side are both outermost. -/
theorem not_encloses_anyOrder (container key : List Char) (q g : Nat) :
    ¬(anyOrder container key).Encloses q g := by
  simp [anyOrder, Node.Encloses, Node.numbers]

theorem encloses_emptyEnd (key : List Char) : (emptyEnd key).Encloses 1 2 :=
  Or.inl ⟨rfl, by simp [Node.numbers]⟩

/-- **Not just the outermost groups are highlighted.** A key that is found before a container is
lost, as its group has the greater number, though neither group is in the other. The empty group
at the end of another one adds a segment of its own. -/
theorem highlights_astray :
    (∃ m node slots, compile (templateRule "(?:($File)|($Key))+") "R" "K" defaultLimit = .ok m ∧
      Pattern.readNode false (Template.expand "(?:($File)|($Key))+" "R" "K").toList =
        some (node, 2) ∧
      (Program.ofNode node).search (padded "KR".toList).toArray 0 = some slots ∧
      slots.Outermost node 1 ⟨2, 3⟩ ∧ slots.Outermost node 2 ⟨1, 2⟩ ∧
      textOf "KR".toList ⟨2, 3⟩ = "R" ∧ textOf "KR".toList ⟨1, 2⟩ = "K" ∧
      m.apply "KR" = some ["K", "R", ""]) ∧
    ∃ m node slots, compile (templateRule "($Key())") "R" "K" defaultLimit = .ok m ∧
      Pattern.readNode false (Template.expand "($Key())" "R" "K").toList = some (node, 2) ∧
      (Program.ofNode node).search (padded "K".toList).toArray 0 = some slots ∧
      slots.Outermost node 1 ⟨1, 2⟩ ∧ slots.Took 2 ⟨2, 2⟩ ∧ node.Encloses 1 2 ∧
      m.apply "K" = some ["", "K", "", "", ""] := by
  constructor
  · have hread : Pattern.readNode false (Template.expand "(?:($File)|($Key))+" "R" "K").toList =
        some (anyOrder ['R'] ['K'], 2) := by
      decide +kernel
    have hsearch : (Program.ofNode (anyOrder ['R'] ['K'])).search (padded "KR".toList).toArray 0 =
        some [(1, 3), (3, 3), (2, 2), (5, 2), (4, 1), (0, 1)] := by
      rw [Program.search_eq_runList]
      decide +kernel
    have happly : (twoGroups (anyOrder ['R'] ['K'])).apply "KR" = some ["K", "R", ""] := by
      decide +kernel
    exact ⟨_, _, _, compile_templateRule hread (by decide +kernel), hread, hsearch,
      ⟨⟨by decide, rfl⟩, fun q _ henc => absurd henc (not_encloses_anyOrder _ _ q 1)⟩,
      ⟨⟨by decide, rfl⟩, fun q _ henc => absurd henc (not_encloses_anyOrder _ _ q 2)⟩,
      rfl, rfl, happly⟩
  · have hread : Pattern.readNode false (Template.expand "($Key())" "R" "K").toList =
        some (emptyEnd ['K'], 2) := by
      decide +kernel
    have hsearch : (Program.ofNode (emptyEnd ['K'])).search (padded "K".toList).toArray 0 =
        some [(1, 2), (3, 2), (5, 2), (4, 2), (2, 1), (0, 1)] := by
      rw [Program.search_eq_runList]
      decide +kernel
    have happly : (twoGroups (emptyEnd ['K'])).apply "K" = some ["", "K", "", "", ""] := by
      decide +kernel
    have houter : ∀ q, ¬(emptyEnd ['K']).Encloses q 1 := by
      simp [emptyEnd, Node.Encloses, Node.numbers]
    exact ⟨_, _, _, compile_templateRule hread (by decide +kernel), hread, hsearch,
      ⟨⟨by decide, rfl⟩, fun q _ henc => absurd henc (houter q)⟩, ⟨by decide, rfl⟩,
      encloses_emptyEnd _, happly⟩

end LineMatcher

end KeyTrace
