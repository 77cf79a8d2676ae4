import KeyTrace.Text.Blank
import Mathlib.Data.List.Basic
import Mathlib.Data.List.TakeWhile

/-!
# Trimmed texts

Trimming stops at the first character from either end that is no blank. So a text in which such a
character stands is trimmed separately before and behind it, and it makes no difference whether
blanks at its ends are taken off beforehand.

## Main results

* `Blank.trim_eq_self`: what has no blanks at its ends is left as it is.
* `Blank.trimStart_append`, `Blank.trimEnd_append`, `Blank.trimEnd_append_right`: trimming a text
  in which something stands that is no blank.
* `Blank.trim_trimStart_append`, `Blank.trim_append_trimEnd`: blanks that are taken off beforehand.
-/

namespace KeyTrace

section DropWhile

variable {α : Type} {p : α → Bool} {s : List α} {a : α}

theorem head?_dropWhile (h : a ∈ (s.dropWhile p).head?) : p a = false := by
  have hhead := List.head?_dropWhile_not p s
  rw [Option.mem_def.1 h] at hhead
  exact hhead

/-- What is left behind a beginning ends as the text does. -/
theorem getLast?_of_dropWhile (h : a ∈ (s.dropWhile p).getLast?) : a ∈ s.getLast? := by
  have hne : s.dropWhile p ≠ [] := by
    intro hnil
    rw [hnil] at h
    cases h
  rw [← List.takeWhile_append_dropWhile (p := p) (l := s), List.getLast?_append_of_ne_nil _ hne]
  exact h

theorem dropWhile_eq_self (h : ∀ b ∈ s.head?, p b = false) : s.dropWhile p = s := by
  cases s with
  | nil => rfl
  | cons b rest => exact List.dropWhile_cons_of_neg (by simp [h b rfl])

end DropWhile

namespace Blank

variable {s t : List Char} {c : Char}

/-- A text without blanks at its ends is left as it is. -/
theorem trim_eq_self (hhead : ∀ c ∈ s.head?, isBlank c = false)
    (hlast : ∀ c ∈ s.getLast?, isBlank c = false) : trim s = s := by
  rw [trim, trimStart, dropWhile_eq_self hhead, trimEnd, dropWhile_eq_self, List.reverse_reverse]
  exact fun c hc => hlast c (by simpa using hc)

/-- A trimmed text does not end with a blank. -/
theorem getLast?_trim (s : List Char) : ∀ c ∈ (trim s).getLast?, isBlank c = false := by
  intro c hc
  rw [trim, trimEnd, List.getLast?_reverse] at hc
  exact head?_dropWhile hc

/-! ### Trimming one end -/

theorem trimStart_sublist (s : List Char) : (trimStart s).Sublist s := List.dropWhile_sublist _

theorem trimEnd_sublist (s : List Char) : (trimEnd s).Sublist s := by
  rw [trimEnd, ← List.reverse_sublist, List.reverse_reverse]
  exact List.dropWhile_sublist _

theorem trim_sublist (s : List Char) : (trim s).Sublist s :=
  (trimEnd_sublist _).trans (trimStart_sublist s)

@[simp] theorem trimStart_trimStart (s : List Char) : trimStart (trimStart s) = trimStart s :=
  dropWhile_eq_self fun _ => head?_dropWhile

/-- Leading blanks end before something that is no blank. -/
theorem trimStart_append (s : List Char) (h : isBlank c = false) (t : List Char) :
    trimStart (s ++ c :: t) = trimStart s ++ c :: t := by
  induction s with
  | nil => exact List.dropWhile_cons_of_neg (by simp [h])
  | cons b rest ih =>
    cases hb : isBlank b with
    | false => simp [trimStart, hb]
    | true => simpa [trimStart, hb] using ih

/-- Trailing blanks begin behind something that is no blank. -/
theorem trimEnd_append (s : List Char) (h : isBlank c = false) (t : List Char) :
    trimEnd (s ++ c :: t) = s ++ c :: trimEnd t := by
  have hreverse : (s ++ c :: t).reverse = t.reverse ++ c :: s.reverse := by simp
  rw [trimEnd, hreverse, ← trimStart, trimStart_append _ h, List.reverse_append]
  simp [trimEnd, trimStart]

/-- Blanks that are taken off at the start beforehand make no difference there. -/
theorem trimStart_append_left (s t : List Char) :
    trimStart (trimStart s ++ t) = trimStart (s ++ t) := by
  induction s with
  | nil => rfl
  | cons b rest ih =>
    cases hb : isBlank b with
    | false => simp [trimStart, hb]
    | true => simpa [trimStart, hb] using ih

theorem trimEnd_append_right (s t : List Char) : trimEnd (s ++ trimEnd t) = trimEnd (s ++ t) := by
  have h := trimStart_append_left t.reverse s.reverse
  rw [trimStart, trimStart, trimStart] at h
  simp [trimEnd, h]

/-! ### Trimming both ends -/

theorem trim_append (s : List Char) (h : isBlank c = false) (t : List Char) :
    trim (s ++ c :: t) = trimStart s ++ c :: trimEnd t := by
  rw [trim, trimStart_append s h, trimEnd_append _ h]

/-- The ends can be trimmed in either order. -/
theorem trim_eq (s : List Char) : trim s = trimStart (trimEnd s) := by
  by_cases h : ∃ c ∈ s, isBlank c = false
  · obtain ⟨c, hmem, hc⟩ := h
    obtain ⟨front, rest, rfl⟩ := List.append_of_mem hmem
    rw [trim_append front hc, trimEnd_append front hc, trimStart_append front hc]
  · have hall : ∀ c ∈ s, isBlank c = true := by simpa using h
    have hstart : trimStart s = [] := List.dropWhile_eq_nil_iff.2 hall
    have hend : trimEnd s = [] := by
      rw [trimEnd, List.dropWhile_eq_nil_iff.2 fun c hc => hall c (List.mem_reverse.1 hc)]
      rfl
    rw [trim, hstart, hend]
    rfl

theorem trim_trimStart_append (s t : List Char) : trim (trimStart s ++ t) = trim (s ++ t) := by
  rw [trim, trimStart_append_left, trim]

theorem trim_append_trimEnd (s t : List Char) : trim (s ++ trimEnd t) = trim (s ++ t) := by
  rw [trim_eq, trimEnd_append_right, ← trim_eq]

@[simp] theorem trim_trim (s : List Char) : trim (trim s) = trim s := by
  have hstart := trim_trimStart_append s []
  rw [List.append_nil, List.append_nil] at hstart
  calc trim (trimEnd (trimStart s)) = trim (trimStart s) := trim_append_trimEnd [] _
    _ = trim s := hstart

end Blank

end KeyTrace
