import KeyTrace.Text.Lines
import Mathlib

/-!
# Lines and what ends them

Some marks are cut into lines by three kinds of terminators. Marks may be characters or bytes: what
a cut is needs only the two marks that terminators are made of. There is one cut, which for a text
is what splitting yields; each line is free of those two marks, the lines with their terminators
behind them are the text again, and which terminators there are does not matter for the lines.

## Main definitions

* `Lines.Ending`, `Lines.endings`: terminators, and those found in a text.
* `Lines.Cut`: marks that are cut into lines.
* `Lines.interleave`, `Lines.unified`, `Lines.isOpen`: lines with their terminators, a text with
  line feeds for its terminators, and a text that goes on after its last terminator.

## Main results

* `Lines.cut_split`: splitting cuts a text into its lines.
* `Lines.Cut.split_eq`: there is no other cut.
* `Lines.Cut.plain`, `Lines.Cut.interleave_eq`, `Lines.Cut.length_eq`, `Lines.Cut.unified`: what
  holds of a cut.
-/

namespace KeyTrace

namespace Lines

/-- What ends a line: a carriage return and a line feed, a line feed, or a carriage return that no
line feed follows. -/
inductive Ending where
  | pair
  | feed
  | lone
deriving Repr, DecidableEq

/-- The marks of a terminator. -/
def Ending.marks {α : Type} (cr lf : α) : Ending → List α
  | pair => [cr, lf]
  | feed => [lf]
  | lone => [cr]

/-- The text of a terminator. -/
abbrev Ending.text (e : Ending) : List Char := e.marks '\r' '\n'

/-- The terminators found in a text, in order. -/
def endings : List Char → List Ending
  | [] => []
  | '\r' :: '\n' :: rest => .pair :: endings rest
  | '\r' :: rest => .lone :: endings rest
  | '\n' :: rest => .feed :: endings rest
  | _ :: rest => endings rest

/-- Lines with a terminator behind each as long as there are any. -/
def interleave : List (List Char) → List Ending → List Char
  | [], _ => []
  | l :: ls, [] => l ++ interleave ls []
  | l :: ls, e :: es => l ++ (e.text ++ interleave ls es)

/-- The text with a line feed in place of each terminator. -/
def unified : List Char → List Char
  | [] => []
  | '\r' :: '\n' :: rest => '\n' :: unified rest
  | '\r' :: rest => '\n' :: unified rest
  | c :: rest => c :: unified rest

/-- Whether the text goes on after its last terminator. -/
def isOpen (s : List Char) : Bool := s.getLast?.any fun c => c != '\r' && c != '\n'

/-! ### Cuts -/

section Cut

variable {α : Type} (cr lf : α)

/-- Puts something in front of the first line, which begins with it if there is none yet. -/
def pushTo {α : Type} (c : α) : List (List α) → List (List α)
  | [] => [[c]]
  | l :: ls => (c :: l) :: ls

/-- Nothing ends a line there. -/
def Plain (l : List α) : Prop := cr ∉ l ∧ lf ∉ l

/-- Marks are cut into lines, each with its terminator but for the last one, which has something in
it if it has none. -/
inductive Cut : List α → List (List α) → List Ending → Prop where
  | nil : Cut [] [] []
  | last {l : List α} (hne : l ≠ []) (hl : Plain cr lf l) : Cut l [l] []
  | ended {l rest : List α} {ls : List (List α)} {es : List Ending} (e : Ending)
    (hl : Plain cr lf l) (he : e = .lone → rest.head? ≠ some lf) (h : Cut rest ls es) :
    Cut (l ++ (e.marks cr lf ++ rest)) (l :: ls) (e :: es)

variable {cr lf} {c : α} {l s : List α} {ls : List (List α)} {es : List Ending}

theorem Plain.nil : Plain cr lf [] := ⟨List.not_mem_nil, List.not_mem_nil⟩

theorem plain_cons : Plain cr lf (c :: l) ↔ (c ≠ cr ∧ c ≠ lf) ∧ Plain cr lf l := by
  simp only [Plain, List.mem_cons, not_or, ne_comm (a := c)]
  tauto

theorem head?_ne (h : ∀ t, s = c :: t → False) : s.head? ≠ some c := by
  intro hhead
  obtain ⟨t, ht⟩ := List.head?_eq_some_iff.1 hhead
  exact h t ht

/-- A mark that ends no line goes to the first line. -/
theorem Cut.cons (h : Cut cr lf s ls es) (hcr : c ≠ cr) (hlf : c ≠ lf) :
    Cut cr lf (c :: s) (pushTo c ls) es := by
  cases h with
  | nil => exact .last (List.cons_ne_nil c []) (plain_cons.2 ⟨⟨hcr, hlf⟩, .nil⟩)
  | last hne hl => exact .last (List.cons_ne_nil c s) (plain_cons.2 ⟨⟨hcr, hlf⟩, hl⟩)
  | ended e hl he h => exact .ended e (plain_cons.2 ⟨⟨hcr, hlf⟩, hl⟩) he h

/-- No line has a mark of a terminator in it. -/
theorem Cut.plain (h : Cut cr lf s ls es) : ∀ l ∈ ls, Plain cr lf l := by
  induction h with
  | nil => nofun
  | last hne hl => exact fun l hl' => List.mem_singleton.1 hl' ▸ hl
  | ended e hl _ _ ih => exact List.forall_mem_cons.2 ⟨hl, ih⟩

end Cut

variable {text : List Char} {ls : List (List Char)} {es : List Ending}

theorem endings_lone {rest : List Char} (h : rest.head? ≠ some '\n') :
    endings ('\r' :: rest) = .lone :: endings rest := by
  rw [endings]
  rintro t rfl
  exact h rfl

theorem endings_of_plain {c : Char} (hcr : c ≠ '\r') (hlf : c ≠ '\n') (rest : List Char) :
    endings (c :: rest) = endings rest := by
  rw [endings]
  all_goals simp_all

theorem push_eq (c : Char) (ls : List (List Char)) : push c ls = pushTo c ls := by
  cases ls <;> rfl

/-- **Splitting cuts a text into its lines.** -/
theorem cut_split (text : List Char) : Cut '\r' '\n' text (split text) (endings text) := by
  fun_induction split text with
  | case1 => exact .nil
  | case2 rest ih => exact .ended .pair .nil nofun ih
  | case3 c rest hpair hbreak ih =>
    rw [Bool.or_eq_true, beq_iff_eq, beq_iff_eq] at hbreak
    rcases hbreak with rfl | rfl
    · have hhead : rest.head? ≠ some '\n' := head?_ne fun t => hpair t rfl
      rw [endings_lone hhead]
      exact .ended .lone .nil (fun _ => hhead) ih
    · exact .ended .feed .nil nofun ih
  | case4 c rest hpair hbreak ih =>
    rw [Bool.or_eq_true, beq_iff_eq, beq_iff_eq, not_or] at hbreak
    rw [endings_of_plain hbreak.1 hbreak.2]
    rw [push_eq]
    exact ih.cons hbreak.1 hbreak.2

/-- The lines with their terminators are the text. -/
theorem Cut.interleave_eq (h : Cut '\r' '\n' text ls es) : interleave ls es = text := by
  induction h with
  | nil => rfl
  | last => exact List.append_nil _
  | ended e _ _ _ ih => rw [interleave, ih]

theorem isOpen_ended (l : List Char) (e : Ending) (rest : List Char) :
    isOpen (l ++ (e.text ++ rest)) = isOpen rest := by
  rw [isOpen, isOpen, List.getLast?_append, List.getLast?_append]
  cases rest.getLast? <;> cases e <;> rfl

/-- There is one line for each terminator, and one more if the text goes on after the last. -/
theorem Cut.length_eq (h : Cut '\r' '\n' text ls es) :
    ls.length = es.length + if isOpen text then 1 else 0 := by
  induction h with
  | nil => rfl
  | @last l hne hl =>
    have hopen : isOpen l = true := by
      have hlast := List.getLast_mem hne
      have hcr : l.getLast hne ≠ '\r' := fun h => hl.1 (h ▸ hlast)
      have hlf : l.getLast hne ≠ '\n' := fun h => hl.2 (h ▸ hlast)
      simp [isOpen, List.getLast?_eq_some_getLast hne, hcr, hlf]
    simp [hopen]
  | ended e _ _ _ ih =>
    rw [isOpen_ended, List.length_cons, List.length_cons, ih]
    omega

/-! ### Cuts are unique -/

theorem split_plain {l : List Char} (hne : l ≠ []) (hl : Plain '\r' '\n' l) : split l = [l] := by
  induction l with
  | nil => exact absurd rfl hne
  | cons c l ih =>
    obtain ⟨⟨hcr, hlf⟩, hl⟩ := plain_cons.1 hl
    rw [split, if_neg (by simp [hcr, hlf])]
    · cases l with
      | nil => rfl
      | cons d l => rw [ih (List.cons_ne_nil d l) hl, push]
    · exact fun _ h => absurd h hcr

theorem split_ended {l : List Char} (hl : Plain '\r' '\n' l) (e : Ending) {rest : List Char}
    (he : e = .lone → rest.head? ≠ some '\n') :
    split (l ++ (e.text ++ rest)) = l :: split rest := by
  induction l with
  | nil =>
    cases e with
    | pair => rfl
    | feed => rfl
    | lone =>
      show split ('\r' :: rest) = _
      rw [split]
      · rfl
      · rintro t - rfl
        exact he rfl rfl
  | cons c l ih =>
    obtain ⟨⟨hcr, hlf⟩, hl⟩ := plain_cons.1 hl
    rw [List.cons_append, split, if_neg (by simp [hcr, hlf]), ih hl, push]
    exact fun _ h => absurd h hcr

/-- **There is no other cut** than that of splitting. -/
theorem Cut.split_eq (h : Cut '\r' '\n' text ls es) : split text = ls := by
  induction h with
  | nil => rfl
  | last hne hl => exact split_plain hne hl
  | ended e hl he _ ih => rw [split_ended hl e he, ih]

/-! ### Terminators do not matter -/

theorem unified_lone {rest : List Char} (h : rest.head? ≠ some '\n') :
    unified ('\r' :: rest) = '\n' :: unified rest := by
  rw [unified]
  rintro t rfl
  exact h rfl

theorem unified_append {l : List Char} (hl : Plain '\r' '\n' l) (s : List Char) :
    unified (l ++ s) = l ++ unified s := by
  induction l with
  | nil => rfl
  | cons c l ih =>
    obtain ⟨⟨hcr, hlf⟩, hl⟩ := plain_cons.1 hl
    rw [List.cons_append, unified, ih hl, List.cons_append]
    · exact fun _ h => absurd h hcr
    · exact hcr

theorem unified_marks (e : Ending) {rest : List Char} (he : e = .lone → rest.head? ≠ some '\n') :
    unified (e.text ++ rest) = '\n' :: unified rest := by
  cases e with
  | pair => rfl
  | feed => rfl
  | lone => exact unified_lone (he rfl)

/-- The lines stay when each terminator gives way to a line feed. -/
theorem Cut.unified (h : Cut '\r' '\n' text ls es) :
    Cut '\r' '\n' (unified text) ls (es.map fun _ => .feed) := by
  induction h with
  | nil => exact .nil
  | @last l hne hl =>
    have hl' := unified_append hl []
    rw [List.append_nil, Lines.unified, List.append_nil] at hl'
    rw [hl']
    exact .last hne hl
  | ended e hl he _ ih =>
    rw [unified_append hl, unified_marks e he]
    exact .ended .feed hl nofun ih

end Lines

end KeyTrace
