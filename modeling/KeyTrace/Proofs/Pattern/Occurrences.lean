import KeyTrace.Proofs.Pattern.Folded
import KeyTrace.Proofs.Pattern.Numbering

/-!
# Where a plain text occurs

A text that was escaped is found just where it stands, in one of the spellings that are taken for
it: itself or, without regard to case, all texts that fold to the same letters. All spellings are as
long as the text, so that the matches that a search finds from left to right are the leftmost
occurrences that do not overlap.

## Main definitions

* `Folding.spellings`, `Stands`: a text occurs at a position, in one of its spellings.
* `Leftmost`: the leftmost spans of a length that do not overlap.

## Main results

* `Pattern.begins_escape_iff`: an escaped text is found just where it occurs.
* `Pattern.leftmost_findAll`: all its matches are the leftmost occurrences that do not overlap.
* `Pattern.find?_escape_eq_none_iff`, `Pattern.isLeast_of_find?_escape`: its first match.
-/

namespace KeyTrace

/-- The texts that are taken for a given one: itself or, without regard to case, all that fold to
the same letters. -/
def Folding.spellings (ignoreCase : Bool) (key : List Char) : Language Char :=
  if ignoreCase then words key else {key}

theorem Folding.length_of_mem_spellings {ignoreCase : Bool} {key w : List Char}
    (h : w ∈ spellings ignoreCase key) : w.length = key.length := by
  cases ignoreCase with
  | true => exact (mem_words.1 h).length_eq.symm
  | false => exact congrArg List.length h

/-- A text occurs in another one at a position, in one of its spellings. -/
def Stands (ignoreCase : Bool) (key text : List Char) (pos : Nat) : Prop :=
  ∃ w ∈ Folding.spellings ignoreCase key, w <+: text.drop pos

theorem stands_false_iff {key text : List Char} {pos : Nat} :
    Stands false key text pos ↔ key <+: text.drop pos :=
  exists_eq_left

/-! ### Leftmost spans -/

/-- The leftmost spans of a length, from a position on, that begin where a property holds and do
not overlap. -/
inductive Leftmost (P : Nat → Prop) (length : Nat) : Nat → List Span → Prop
  | done {pos : Nat} (h : ∀ i, pos ≤ i → ¬ P i) : Leftmost P length pos []
  | next {pos start : Nat} {rest : List Span} (h : IsLeast {i | pos ≤ i ∧ P i} start)
      (hrest : Leftmost P length (start + length) rest) :
      Leftmost P length pos (⟨start, start + length⟩ :: rest)

namespace Leftmost

variable {P : Nat → Prop} {length pos : Nat} {spans : List Span} {s : Span}

theorem of_mem (h : Leftmost P length pos spans) (hs : s ∈ spans) :
    pos ≤ s.start ∧ P s.start ∧ s.stop = s.start + length := by
  induction h with
  | done => cases hs
  | next h _ ih =>
    rcases List.mem_cons.1 hs with rfl | hs
    · exact ⟨h.1.1, h.1.2, rfl⟩
    · obtain ⟨hpos, hs⟩ := ih hs
      exact ⟨h.1.1.trans ((Nat.le_add_right _ _).trans hpos), hs⟩

/-- Later spans start later. -/
theorem pairwise (h : Leftmost P length pos spans) (hlength : 0 < length) :
    spans.Pairwise fun s t => s.start < t.start := by
  induction h with
  | done => exact .nil
  | next _ hrest ih =>
    refine .cons (fun t ht => ?_) ih
    have hpos := (hrest.of_mem ht).1
    dsimp only
    omega

/-- The first span starts where the property holds first. -/
theorem isLeast_head {rest : List Span} (h : Leftmost P length pos (s :: rest)) :
    IsLeast {i | pos ≤ i ∧ P i} s.start := by
  cases h with
  | next h _ => exact h

theorem eq_nil_iff (h : Leftmost P length pos spans) : spans = [] ↔ ∀ i, pos ≤ i → ¬ P i := by
  cases h with
  | done h => exact iff_of_true rfl h
  | next h _ => exact iff_of_false (List.cons_ne_nil _ _) fun hnone => hnone _ h.1.1 h.1.2

theorem congr {Q : Nat → Prop} (h : Leftmost P length pos spans) (hPQ : ∀ i, P i ↔ Q i) :
    Leftmost Q length pos spans := by
  obtain rfl : P = Q := funext fun i => propext (hPQ i)
  exact h

end Leftmost

/-! ### Plain expressions -/

namespace Node

theorem Plain.numbered {n : Node} (h : n.Plain) : n.Numbered := by
  induction n with
  | cat a b iha ihb => exact ⟨iha h.1, ihb h.2⟩
  | group => exact absurd h id
  | alt => exact absurd h id
  | rep => exact absurd h id
  | _ => trivial

end Node

namespace Program

variable {node : Node} {text : List Char} {length : Nat}

/-- Matches of one and the same length, which are not empty, are found one after the other. -/
theorem leftmost_searchFrom (hn : node.Numbered) (hlength : 0 < length)
    (hwords : ∀ w ∈ node.language, w.length = length) {fuel origin : Nat} {last : Option Nat}
    (hfuel : text.length < origin + fuel) :
    Leftmost (node.Begins text) length origin
      (((ofNode node).searchFrom text.toArray fuel origin last).filterMap fun slots =>
        slots.group? 0) := by
  induction fuel generalizing origin last with
  | zero =>
    refine .done fun i hi hbegins => ?_
    have hle := hbegins.1
    omega
  | succ fuel ih =>
    rw [searchFrom]
    split
    · rename_i hnone
      exact .done (search_eq_none_iff.1 hnone)
    · rename_i slots hsome
      obtain ⟨start, y, hleast, hy, rfl⟩ := isLeast_of_search hsome
      obtain ⟨w, hw, -, hstop⟩ := Node.exists_word_of_match hy
      rw [hwords w hw] at hstop
      have hwhole : y.2.group? 0 = some ⟨start, start + length⟩ := by
        rw [← hstop]
        exact Node.whole_of_match hn hy
      have hne : ¬ start = start + length := by omega
      simp only [hwhole, hne, decide_false, Bool.false_and, Bool.false_eq_true, if_false,
        List.filterMap_cons]
      have horigin := hleast.1.1
      exact .next hleast (ih (by omega))

end Program

namespace Pattern

/-! ### Escaped texts -/

variable {ignoreCase : Bool} {key text : List Char} {node : Node} {groups : Nat}

/-- Texts of one character each make up the whole text. -/
theorem mergeTexts_literal (c : Char) (cs : List Char) :
    Node.mergeTexts ((c :: cs).map fun c => .literal [c]) = [.literal (c :: cs)] := by
  induction cs generalizing c with
  | nil => rfl
  | cons d cs ih =>
    rw [List.map_cons, Node.mergeTexts, ih d]
    rfl

/-- **What is read from an escaped text** when case is minded: the text. -/
theorem readNode_escape_literal (hkey : key ≠ []) :
    readNode false (escape key) = some (.literal key, 0) := by
  have hnodes : (key.map fun c => (⟨characterNode (.initial false) c, 0, true⟩ : Item)) =
      key.map fun c => ⟨.literal [c], 0, true⟩ :=
    List.map_congr_left fun c _ => by rw [characterNode_eq rfl]
  rw [readNode_escape_eq, ReadState.current_spell, hnodes]
  obtain ⟨c, cs, rfl⟩ := List.exists_cons_of_ne_nil hkey
  cases cs with
  | nil => rfl
  | cons d cs =>
    have hfilter : (((c :: d :: cs).map fun c => (⟨.literal [c], 0, true⟩ : Item)).filter
        Item.isPart).map Item.node = (c :: d :: cs).map fun c => .literal [c] := by
      rw [List.filter_eq_self.2 (by simp), List.map_map]
      rfl
    have hmembers : ((c :: d :: cs).map fun c => Node.literal [c]).flatMap Node.members =
        (c :: d :: cs).map fun c => .literal [c] := by
      rw [List.flatMap_map]
      exact List.flatMap_pure_eq_map ..
    change some (Node.sequence _, 0) = _
    rw [hfilter, Node.sequence, hmembers, mergeTexts_literal]
    rfl

/-- The words of an escaped text are its spellings. -/
theorem plain_of_escape (hkey : key ≠ [])
    (h : readNode ignoreCase (escape key) = some (node, groups)) :
    node.Plain ∧ node.language = Folding.spellings ignoreCase key ∧ groups = 0 := by
  cases ignoreCase with
  | true =>
    obtain ⟨node', hread, hplain, hlanguage⟩ := readNode_escape key
    obtain ⟨rfl, rfl⟩ := Prod.mk.inj (Option.some.inj (hread.symm.trans h))
    exact ⟨hplain, hlanguage, rfl⟩
  | false =>
    obtain ⟨rfl, rfl⟩ :=
      Prod.mk.inj (Option.some.inj ((readNode_escape_literal hkey).symm.trans h))
    exact ⟨trivial, rfl, rfl⟩

/-- **An escaped text is found just where it occurs.** -/
theorem begins_escape_iff (hkey : key ≠ [])
    (h : readNode ignoreCase (escape key) = some (node, groups)) {pos : Nat} :
    node.Begins text pos ↔ Stands ignoreCase key text pos := by
  obtain ⟨hplain, hlanguage, -⟩ := plain_of_escape hkey h
  rw [Stands, ← hlanguage]
  constructor
  · rintro ⟨-, y, hy⟩
    obtain ⟨w, hw, hstart, -⟩ := Node.exists_word_of_match hy
    exact ⟨w, hw, hstart⟩
  · rintro ⟨w, hw, hstart⟩
    refine ⟨?_, _, Node.match_of_mem_language hplain hw hstart []⟩
    -- No spelling is empty, so that it stands before the end.
    have hpos := List.length_pos_of_ne_nil hkey
    have hle := hstart.length_le
    rw [hlanguage] at hw
    rw [Folding.length_of_mem_spellings hw, List.length_drop] at hle
    omega

variable {p : Pattern} {limit : Nat}

/-- **All matches of an escaped text** are the leftmost occurrences that do not overlap. -/
theorem leftmost_findAll (hkey : key ≠ [])
    (h : compile ignoreCase limit (escape key) = .ok p) (text : List Char) :
    Leftmost (Stands ignoreCase key text) key.length 0 (p.findAll text) := by
  obtain ⟨node, hread, hp⟩ := exists_of_compile h
  obtain ⟨hplain, hlanguage, -⟩ := plain_of_escape hkey hread
  rw [findAll, hp, Program.searchAll, List.size_toArray]
  refine Leftmost.congr (Program.leftmost_searchFrom hplain.numbered
    (List.length_pos_of_ne_nil hkey) (fun w hw => ?_) (by omega)) fun i =>
      begins_escape_iff hkey hread
  rw [hlanguage] at hw
  exact Folding.length_of_mem_spellings hw

/-- An escaped text is not found just if it does not occur. -/
theorem find?_escape_eq_none_iff (hkey : key ≠ [])
    (h : compile ignoreCase limit (escape key) = .ok p) :
    p.find? text = none ↔ ∀ i, ¬ Stands ignoreCase key text i := by
  obtain ⟨node, hread, hp⟩ := exists_of_compile h
  obtain ⟨hplain, -⟩ := plain_of_escape hkey hread
  rw [find?_eq_none_iff hp hplain.numbered]
  simp only [begins_escape_iff hkey hread]

/-- **The first match of an escaped text** is its leftmost occurrence, without any groups. -/
theorem isLeast_of_find?_escape (hkey : key ≠ [])
    (h : compile ignoreCase limit (escape key) = .ok p) {whole : Span} {spans : List Span}
    (hfind : p.find? text = some (whole, spans)) :
    IsLeast {i | Stands ignoreCase key text i} whole.start ∧
      whole.stop = whole.start + key.length ∧ spans = [] := by
  obtain ⟨node, hread, hp⟩ := exists_of_compile h
  obtain ⟨hplain, hlanguage, hgroups⟩ := plain_of_escape hkey hread
  obtain ⟨hleast, slots, -, -, hmatch, hspans⟩ := isLeast_of_find? hp hplain.numbered hfind
  simp only [begins_escape_iff hkey hread] at hleast
  obtain ⟨w, hw, -, hstop⟩ := Node.exists_word_of_match hmatch
  change w ∈ node.language at hw
  rw [hlanguage] at hw
  rw [Folding.length_of_mem_spellings hw] at hstop
  rw [hgroups] at hspans
  exact ⟨hleast, hstop, hspans⟩

end Pattern

end KeyTrace
