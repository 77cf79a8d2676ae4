import KeyTrace.Pattern
import KeyTrace.Proofs.Pattern.Language
import KeyTrace.Proofs.Pattern.Layout

/-!
# What a search finds

A search tries threads that all stem from some start, so what it finds is a match of the expression
from there. The marks only keep threads from being tried again; they have no part in this. A start
is never past the end of the text and a match leads over a part of it, so that the spans of a match
lie in the text.

## Main definitions

* `Span.Within`: spans that lie in a text.

## Main results

* `Program.match_of_search`: what a search finds is a match.
* `Pattern.exists_of_compile`: a compiled pattern is the program of the expression that was read.
* `Pattern.match_of_find?`, `Pattern.within_of_find?`, `Pattern.within_of_findAll`: matches and
  spans that a pattern finds.
-/

namespace KeyTrace

/-- A span lies in a text of the given length. -/
structure Span.Within (x : Span) (length : Nat) : Prop where
  start_le_stop : x.start ≤ x.stop
  stop_le : x.stop ≤ length

/-- A match that starts in a text ends in it. -/
theorem Node.le_length_of_match {text : List Char} {n : Node} {x y : Nat × Slots}
    (h : n.Match text x y) (hx : x.1 ≤ text.length) : y.1 ≤ text.length := by
  obtain ⟨w, -, hprefix, hy⟩ := exists_word_of_match h
  have hlength := hprefix.length_le
  rw [List.length_drop] at hlength
  omega

namespace Program

variable {p : Program} {text : List Char}

/-- Whatever a thread leads to can be reached from the first instruction at some position of the
text. -/
def Descends (p : Program) (text : List Char) (t : Thread) : Prop :=
  ∃ start ≤ text.length,
    ∀ n final, p.Reaches text n t final → ∃ n', p.Reaches text n' ⟨0, start, []⟩ final

theorem Descends.start {pos : Nat} (h : pos ≤ text.length) : p.Descends text ⟨0, pos, []⟩ :=
  ⟨pos, h, fun n _ h => ⟨n, h⟩⟩

theorem Descends.step {t t' : Thread} {threads : List Thread} (h : p.Descends text t)
    (ha : p.advance text.toArray t = .goOn threads) (ht : t' ∈ threads) : p.Descends text t' := by
  obtain ⟨start, hle, hstart⟩ := h
  exact ⟨start, hle, fun n final hr => hstart (n + 1) final (.step ha ht hr)⟩

theorem advance_eq_matched {t : Thread} (h : p.advance text.toArray t = .matched) :
    p[t.pc]? = some .accept := by
  cases hp : p[t.pc]? with
  | none => simp [advance, hp] at h
  | some i =>
    cases i with
    | accept => rfl
    | set k next =>
      simp only [advance, hp] at h
      repeat' split at h
      all_goals cases h
    | look l next =>
      simp only [advance, hp] at h
      repeat' split at h
      all_goals cases h
    | _ => simp [advance, hp] at h

theorem reaches_of_run {origin fuel start : Nat} {threads : List Thread} {seen : Marks}
    {final : Slots} (hd : ∀ t ∈ threads, p.Descends text t)
    (h : p.run text.toArray origin fuel threads start seen = some final) :
    ∃ n, ∃ start ≤ text.length, p.Reaches text n ⟨0, start, []⟩ final := by
  induction fuel generalizing threads start seen with
  | zero => cases h
  | succ fuel ih =>
    cases threads with
    | nil =>
      rw [run] at h
      split at h
      · cases h
      · rename_i hsize
        rw [List.size_toArray, Nat.not_lt] at hsize
        refine ih (fun t ht => ?_) h
        obtain rfl := List.mem_singleton.1 ht
        exact .start hsize
    | cons t rest =>
      have hrest : ∀ t' ∈ rest, p.Descends text t' :=
        fun t' ht' => hd t' (List.mem_cons_of_mem _ ht')
      have ht := hd t (List.mem_cons_self ..)
      simp only [run] at h
      split at h
      · exact ih hrest h
      · split at h
        · rename_i ha
          obtain rfl := Option.some.inj h
          obtain ⟨start, hle, hstart⟩ := ht
          obtain ⟨n, hn⟩ := hstart 0 t.slots (.accept (advance_eq_matched ha))
          exact ⟨n, start, hle, hn⟩
        · rename_i next ha
          refine ih (fun t' ht' => ?_) h
          rcases List.mem_append.1 ht' with ht' | ht'
          · exact ht.step ha ht'
          · exact hrest t' ht'

/-- **What a search finds is a match.** -/
theorem match_of_search {node : Node} {origin : Nat} {final : Slots}
    (h : (ofNode node).search text.toArray origin = some final) :
    ∃ start ≤ text.length, ∃ y, (Node.group 0 node).Match text (start, []) y ∧ final = y.2 := by
  obtain ⟨n, start, hle, hr⟩ := reaches_of_run (List.forall_mem_nil _) h
  obtain ⟨y, hy, rfl⟩ := match_of_reaches hr
  exact ⟨start, hle, y, hy, rfl⟩

theorem within_of_search {node : Node} {origin g : Nat} {final : Slots} {x : Span}
    (h : (ofNode node).search text.toArray origin = some final) (hx : final.group? g = some x) :
    x.Within text.length := by
  obtain ⟨start, hle, y, hy, rfl⟩ := match_of_search h
  obtain ⟨s, hs, hnotes⟩ := Node.notes_of_match hy
  rw [hs, List.append_nil] at hx
  exact ⟨hnotes.start_le_stop hx, (hnotes.stop_le hx).trans (Node.le_length_of_match hy hle)⟩

/-- Each of the matches that do not overlap was found by a search. -/
theorem exists_search_of_mem_searchFrom {fuel origin : Nat} {last : Option Nat} {final : Slots}
    (h : final ∈ p.searchFrom text.toArray fuel origin last) :
    ∃ origin', p.search text.toArray origin' = some final := by
  induction fuel generalizing origin last with
  | zero => cases h
  | succ fuel ih =>
    rw [searchFrom] at h
    split at h
    · cases h
    · rename_i slots hslots
      split at h
      · cases h
      · split at h
        · split at h
          · cases h
          · rename_i slots' hslots'
            split at h
            · cases h
            · rcases List.mem_cons.1 h with rfl | h
              · exact ⟨_, hslots'⟩
              · exact ih h
        · rcases List.mem_cons.1 h with rfl | h
          · exact ⟨_, hslots⟩
          · exact ih h

end Program

namespace Pattern

variable {p : Pattern} {node : Node} {text : List Char}

/-- A compiled pattern is the program of the expression that was read. -/
theorem exists_of_compile {ignoreCase : Bool} {limit : Nat} {source : List Char}
    (h : compile ignoreCase limit source = .ok p) :
    ∃ node, readNode ignoreCase source = some (node, p.groups) ∧ p.program = .ofNode node := by
  rw [compile] at h
  split at h
  · cases h
  · rename_i node groups hread
    split at h
    · cases h
    · obtain rfl := Except.ok.inj h
      exact ⟨node, hread, rfl⟩

theorem match_of_find? (hp : p.program = .ofNode node) (h : (p.find? text).isSome = true) :
    ∃ start y, (Node.group 0 node).Match text (start, []) y := by
  rw [find?, hp] at h
  cases hs : (Program.ofNode node).search text.toArray 0 with
  | none => simp [hs] at h
  | some final =>
    obtain ⟨start, -, y, hy, -⟩ := Program.match_of_search hs
    exact ⟨start, y, hy⟩

theorem within_of_find? (hp : p.program = .ofNode node) {whole : Span} {groups : List Span}
    (h : p.find? text = some (whole, groups)) :
    whole.Within text.length ∧ ∀ g ∈ groups, g.Within text.length := by
  rw [find?, hp, Option.bind_eq_some_iff] at h
  obtain ⟨final, hs, h⟩ := h
  obtain ⟨whole', hwhole, heq⟩ := Option.map_eq_some_iff.1 h
  obtain ⟨rfl, rfl⟩ := Prod.mk.inj heq
  refine ⟨Program.within_of_search hs hwhole, fun g hg => ?_⟩
  obtain ⟨i, -, hi⟩ := List.mem_filterMap.1 hg
  exact Program.within_of_search hs hi

theorem within_of_findAll (hp : p.program = .ofNode node) {x : Span}
    (hx : x ∈ p.findAll text) : x.Within text.length := by
  rw [findAll, hp] at hx
  obtain ⟨final, hfinal, hgroup⟩ := List.mem_filterMap.1 hx
  obtain ⟨origin, hs⟩ := Program.exists_search_of_mem_searchFrom hfinal
  exact Program.within_of_search hs hgroup

end Pattern

end KeyTrace
