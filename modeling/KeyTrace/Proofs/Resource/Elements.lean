import KeyTrace.Resource.Markup
import Mathlib

/-!
# Elements side by side

Elements are looked for in the bare text: what stands before an element does not matter to it, as
long as no bracket is left open there. So a text that is put together from pieces has the elements
of the pieces, and a comment is a piece like any other. A reader that knew about comments would pass
over it; here the elements that it shows count, and the names in it are keys.

## Main definitions

* `Markup.Closed`: texts in which each bracket that is opened is closed.
* `Markup.comment`: a comment with a given body.
* `Markup.ShowsElement`: texts that show the beginning of an entry's element.

## Main results

* `Markup.names_append`: the names in two texts side by side.
* `Markup.names_comment`: what a comment between two elements does to the names.
-/

namespace KeyTrace

namespace Markup

/-! ### Closed texts -/

/-- Each angle bracket that is opened in the text is followed by one that closes. -/
def Closed (s : List Char) : Prop := ∀ a b, s = a ++ '<' :: b → '>' ∈ b

theorem Closed.tail {c : Char} {s : List Char} (h : Closed (c :: s)) : Closed s :=
  fun a b hs => h (c :: a) b (by rw [hs, List.cons_append])

theorem Closed.mem {s : List Char} (h : Closed ('<' :: s)) : '>' ∈ s := h [] s rfl

/-- A text that ends with a closing bracket is closed. -/
theorem closed_of_last {s : List Char} (h : s.getLast? = some '>') : Closed s := by
  rintro a b rfl
  rw [List.getLast?_append, List.getLast?_cons, Option.some_or] at h
  cases hb : b.getLast? with
  | none => simp [hb] at h
  | some c =>
    obtain rfl : c = '>' := by simpa [hb] using h
    exact List.mem_of_getLast? hb

/-! ### Elements of texts side by side -/

theorem startsElement_iff {s : List Char} :
    startsElement s = true ↔ ∃ b, s = elementName ++ b ∧ endsWord b = true := by
  rw [startsElement, Bool.and_eq_true, List.isPrefixOf_iff_prefix]
  constructor
  · rintro ⟨⟨b, rfl⟩, hb⟩
    exact ⟨b, rfl, by rwa [List.drop_left] at hb⟩
  · rintro ⟨b, rfl, hb⟩
    exact ⟨List.prefix_append .., by rwa [List.drop_left]⟩

/-- What follows a closing bracket does not decide whether an element begins before it. -/
theorem startsElement_append {s : List Char} (h : '>' ∈ s) (t : List Char) :
    startsElement (s ++ t) = startsElement s := by
  rw [Bool.eq_iff_iff, startsElement_iff, startsElement_iff]
  constructor
  · rintro ⟨b, hb, hends⟩
    rcases List.append_eq_append_iff.1 hb with ⟨u, hu, -⟩ | ⟨u, rfl, rfl⟩
    · have hname : '>' ∈ elementName := by
        rw [hu]
        exact List.mem_append_left _ h
      exact absurd hname (by decide)
    · refine ⟨u, rfl, ?_⟩
      cases u with
      | nil => rfl
      | cons c u => exact hends
  · rintro ⟨u, rfl, hends⟩
    refine ⟨u ++ t, List.append_assoc .., ?_⟩
    cases u with
    | nil => exact absurd h (by simp [elementName])
    | cons c u => exact hends

/-- Reading goes on after a closed text as from the start, also if the text closes an element that
has been begun before. -/
theorem elementsFrom_append {s : List Char} (hs : Closed s) {inside : Option (List Char)}
    (h : inside.isSome = true → '>' ∈ s) (t : List Char) :
    elementsFrom inside (s ++ t) = elementsFrom inside s ++ elementsFrom none t := by
  induction s generalizing inside with
  | nil =>
    cases inside with
    | none => rfl
    | some acc => simp at h
  | cons c s ih =>
    cases inside with
    | none =>
      rw [List.cons_append, elementsFrom, elementsFrom]
      by_cases hc : c = '<'
      · subst hc
        rw [startsElement_append hs.mem]
        split
        · exact ih hs.tail fun _ => hs.mem
        · exact ih hs.tail (by simp)
      · simp only [beq_eq_false_iff_ne.2 hc, Bool.false_and, Bool.false_eq_true, if_false]
        exact ih hs.tail (by simp)
    | some acc =>
      rw [List.cons_append, elementsFrom, elementsFrom]
      by_cases hc : c = '>'
      · rw [if_pos (by simpa using hc), if_pos (by simpa using hc), ih hs.tail (by simp)]
        rfl
      · rw [if_neg (by simpa using hc), if_neg (by simpa using hc)]
        exact ih hs.tail fun _ => (List.mem_cons.1 (h rfl)).resolve_left (Ne.symm hc)

/-- **The names in two texts side by side**, of which the first one is closed. -/
theorem names_append {s : List Char} (hs : Closed s) (t : List Char) :
    names (s ++ t) = names s ++ names t := by
  rw [names, elements, elementsFrom_append hs (by simp), List.map_append, List.filterMap_append]
  rfl

/-- A text without the beginning of an element has none. -/
theorem elementsFrom_eq_nil {s : List Char}
    (h : ∀ a b, s = a ++ '<' :: b → startsElement b = false) : elementsFrom none s = [] := by
  induction s with
  | nil => rfl
  | cons c s ih =>
    have hrest := ih fun a b hs => h (c :: a) b (by rw [hs, List.cons_append])
    rw [elementsFrom]
    split
    · rename_i hc
      rw [Bool.and_eq_true, beq_iff_eq] at hc
      obtain ⟨rfl, hstarts⟩ := hc
      rw [h [] s rfl] at hstarts
      cases hstarts
    · exact hrest

/-! ### Comments -/

/-- A comment. -/
def comment (body : List Char) : List Char := ['<', '!', '-', '-'] ++ body ++ ['-', '-', '>']

/-- The text shows the beginning of an entry's element. -/
def ShowsElement (s : List Char) : Prop :=
  ∃ a b, s = a ++ '<' :: (elementName ++ b) ∧ endsWord b = true

theorem showsElement_iff {s : List Char} :
    ShowsElement s ↔ ∃ a b, s = a ++ '<' :: b ∧ startsElement b = true := by
  constructor
  · rintro ⟨a, b, rfl, hb⟩
    exact ⟨a, _, rfl, startsElement_iff.2 ⟨b, rfl, hb⟩⟩
  · rintro ⟨a, b, rfl, hstarts⟩
    obtain ⟨b, rfl, hb⟩ := startsElement_iff.1 hstarts
    exact ⟨a, b, rfl, hb⟩

instance (s : List Char) : Decidable (ShowsElement s) :=
  decidable_of_iff (∃ t ∈ s.tails, t.head? = some '<' ∧ startsElement t.tail = true) <| by
    rw [showsElement_iff]
    constructor
    · rintro ⟨t, ht, hhead, hstarts⟩
      obtain ⟨a, rfl⟩ := (List.mem_tails ..).1 ht
      obtain ⟨t, rfl⟩ := List.head?_eq_some_iff.1 hhead
      exact ⟨a, t, rfl, hstarts⟩
    · rintro ⟨a, b, rfl, hstarts⟩
      exact ⟨'<' :: b, (List.mem_tails ..).2 (List.suffix_append ..), rfl, hstarts⟩

theorem closed_comment (body : List Char) : Closed (comment body) :=
  closed_of_last (by rw [comment, List.getLast?_append]; rfl)

/-- The end of a comment does not make an element of what precedes it. -/
theorem startsElement_of_append_end {s : List Char}
    (h : startsElement (s ++ ['-', '-', '>']) = true) : startsElement s = true := by
  obtain ⟨b, hb, hends⟩ := startsElement_iff.1 h
  rcases List.append_eq_append_iff.1 hb with ⟨u, hu, hend⟩ | ⟨u, rfl, rfl⟩
  · cases u with
    | nil => exact startsElement_iff.2 ⟨[], by simp [hu], rfl⟩
    | cons c u =>
      obtain ⟨rfl, -⟩ := List.cons.inj hend
      have hname : '-' ∈ elementName := by simp [hu]
      exact absurd hname (by decide)
  · refine startsElement_iff.2 ⟨u, rfl, ?_⟩
    cases u with
    | nil => rfl
    | cons c u => exact hends

/-- There are no names in a comment that shows no element. -/
theorem names_comment_eq_nil {body : List Char} (h : ¬ShowsElement body) :
    names (comment body) = [] := by
  have hopen : elementsFrom none (comment body) = elementsFrom none (body ++ ['-', '-', '>']) := rfl
  have hnone : elementsFrom none (body ++ ['-', '-', '>']) = [] := by
    refine elementsFrom_eq_nil fun a b hab => ?_
    rcases List.append_eq_append_iff.1 hab with ⟨u, rfl, hu⟩ | ⟨u, rfl, hu⟩
    · -- The end of the comment opens no bracket.
      have hmem : '<' ∈ ['-', '-', '>'] := by rw [hu]; simp
      exact absurd hmem (by decide)
    · rcases u with _ | ⟨c, u⟩
      · have hmem : '<' ∈ ['-', '-', '>'] := by rw [← List.nil_append ['-', '-', '>'], ← hu]; simp
        exact absurd hmem (by decide)
      · obtain ⟨rfl, rfl⟩ := List.cons.inj hu
        by_contra hstarts
        have hbody : startsElement u = true := startsElement_of_append_end (by simpa using hstarts)
        exact h (showsElement_iff.2 ⟨a, u, rfl, hbody⟩)
  rw [names, elements, hopen, hnone]
  rfl

/-- **What a comment between two elements does to the names.** The names that it shows are added at
its place, as if there were no comment around them. So the names stay the same just if the comment
shows none, as one does in which no element begins. -/
theorem names_comment {before : List Char} (h : Closed before) (body after : List Char) :
    names (before ++ after) = names before ++ names after ∧
    names (before ++ comment body ++ after) =
      names before ++ names (comment body) ++ names after ∧
    (names (before ++ comment body ++ after) = names (before ++ after) ↔
      names (comment body) = []) ∧
    (¬ShowsElement body → names (before ++ comment body ++ after) = names (before ++ after)) := by
  have hwithout : names (before ++ after) = names before ++ names after := names_append h after
  have hwith : names (before ++ comment body ++ after) =
      names before ++ names (comment body) ++ names after := by
    rw [List.append_assoc, names_append h, names_append (closed_comment body), List.append_assoc]
  have hsame : names (before ++ comment body ++ after) = names (before ++ after) ↔
      names (comment body) = [] := by
    rw [hwith, hwithout, List.append_assoc, List.append_cancel_left_eq,
      List.append_left_eq_self]
  exact ⟨hwithout, hwith, hsame, fun hshows => hsame.2 (names_comment_eq_nil hshows)⟩

/-- A comment that names another kind of element changes nothing. -/
theorem names_comment_database :
    names ("<root>".toList ++ comment " no <database> ".toList ++
      "<data name=\"Hello\"></data></root>".toList) = ["Hello"] := by
  have hclosed : Closed "<root>".toList := closed_of_last rfl
  obtain ⟨-, -, -, hsame⟩ := names_comment hclosed " no <database> ".toList
    "<data name=\"Hello\"></data></root>".toList
  rw [hsame (by decide)]
  rfl

/-- **A sample in a comment is taken for an entry**, although the comment is well formed and stands
between two elements. -/
theorem names_sample_comment :
    Closed "<root>".toList ∧ ¬"--".toList <:+: " <data name=\"Name1\"/> ".toList ∧
      names ("<root>".toList ++ comment " <data name=\"Name1\"/> ".toList ++
        "</root>".toList) = ["Name1"] ∧
      names ("<root>".toList ++ "</root>".toList) = [] :=
  ⟨closed_of_last rfl, by decide, rfl, rfl⟩

end Markup

end KeyTrace
