import KeyTrace.Text.Utf8
import Mathlib

/-!
# Positions and bytes

A position counts the characters before a place in a text, an offset counts the bytes. Every
position has an offset, and the order is the same; but a number of bytes that ends inside a
character, or goes past the end of the text, is the offset of no position, and the text cannot be
cut there.

## Main definitions

* `Utf8.offset`: the bytes before a position.
* `Utf8.position?`: the position that has so many bytes before it.

## Main results

* `Utf8.position?_eq_some_iff`: the offsets that have a position.
* `Utf8.offset_le_offset_iff`: offsets are in the order of the positions.
-/

namespace KeyTrace

namespace Utf8

/-- The number of bytes that stand before a position, or of all of them. -/
def offset (text : List Char) (pos : Nat) : Nat := width (text.take pos)

/-- The position that has so many bytes before it. There is none inside a character or past the
end of the text. -/
def position? : List Char → Nat → Option Nat
  | _, 0 => some 0
  | [], _ + 1 => none
  | c :: rest, n + 1 =>
    if n + 1 < c.utf8Size then none
    else (position? rest (n + 1 - c.utf8Size)).map fun pos => pos + 1

variable {text : List Char} {pos pos' : Nat}

@[simp] theorem offset_zero : offset text 0 = 0 := by
  simp [offset]

@[simp] theorem offset_cons_succ (c : Char) :
    offset (c :: text) (pos + 1) = c.utf8Size + offset text pos := by
  simp [offset]

theorem offset_of_length_le (h : text.length ≤ pos) : offset text pos = width text := by
  simp [offset, List.take_of_length_le h]

theorem offset_add_width_drop (text : List Char) (pos : Nat) :
    offset text pos + width (text.drop pos) = width text := by
  have happend := width_append (text.take pos) (text.drop pos)
  rw [List.take_append_drop] at happend
  exact happend.symm

theorem offset_le_width (text : List Char) (pos : Nat) : offset text pos ≤ width text := by
  have hsum := offset_add_width_drop text pos
  omega

theorem offset_append_of_le {more : List Char} (h : pos ≤ text.length) :
    offset (text ++ more) pos = offset text pos := by
  simp [offset, List.take_append_of_le_length h]

theorem width_le_offset_append {more : List Char} (h : text.length ≤ pos) :
    width text ≤ offset (text ++ more) pos := by
  simp [offset, List.take_append, List.take_of_length_le h]

/-! ### Order -/

theorem offset_mono (text : List Char) (h : pos ≤ pos') : offset text pos ≤ offset text pos' := by
  have hle := offset_le_width (text.take pos') pos
  simp only [offset, List.take_take, min_eq_left h] at hle
  exact hle

theorem offset_lt_offset (h : pos < pos') (hlt : pos < text.length) :
    offset text pos < offset text pos' := by
  induction text generalizing pos pos' with
  | nil => simp at hlt
  | cons c rest ih =>
    obtain ⟨q, rfl⟩ : ∃ q, pos' = q + 1 := ⟨pos' - 1, by omega⟩
    have hsize := c.utf8Size_pos
    cases pos with
    | zero =>
      rw [offset_zero, offset_cons_succ]
      omega
    | succ p =>
      have hrest : offset rest p < offset rest q := ih (by omega) (by simpa using hlt)
      rw [offset_cons_succ, offset_cons_succ]
      omega

/-- Offsets are in the order of the positions. -/
theorem offset_le_offset_iff (h : pos ≤ text.length) (pos' : Nat) :
    offset text pos ≤ offset text pos' ↔ pos ≤ pos' := by
  constructor
  · intro hle
    by_contra hlt
    have hoffset : offset text pos' < offset text pos :=
      offset_lt_offset (Nat.not_le.1 hlt) (by omega)
    omega
  · exact offset_mono text

theorem offset_lt_offset_iff (h : pos' ≤ text.length) (pos : Nat) :
    offset text pos < offset text pos' ↔ pos < pos' := by
  have hiff := offset_le_offset_iff h pos
  omega

/-! ### Offsets that have a position -/

theorem position?_offset (h : pos ≤ text.length) : position? text (offset text pos) = some pos := by
  induction text generalizing pos with
  | nil =>
    obtain rfl : pos = 0 := by simpa using h
    simp [position?]
  | cons c rest ih =>
    cases pos with
    | zero => simp [position?]
    | succ p =>
      have hsize := c.utf8Size_pos
      obtain ⟨n, hn⟩ : ∃ n, c.utf8Size + offset rest p = n + 1 :=
        ⟨c.utf8Size + offset rest p - 1, by omega⟩
      have hrest : n + 1 - c.utf8Size = offset rest p := by omega
      have hnot : ¬ n + 1 < c.utf8Size := by omega
      rw [offset_cons_succ, hn, position?, if_neg hnot, hrest, ih (by simpa using h)]
      rfl

/-- **The offsets that have a position** are those of the places in the text. -/
theorem position?_eq_some_iff {n : Nat} :
    position? text n = some pos ↔ pos ≤ text.length ∧ offset text pos = n := by
  constructor
  · intro h
    induction text generalizing n pos with
    | nil =>
      cases n with
      | zero =>
        obtain rfl : 0 = pos := by simpa [position?] using h
        simp
      | succ n => simp [position?] at h
    | cons c rest ih =>
      cases n with
      | zero =>
        obtain rfl : 0 = pos := by simpa [position?] using h
        simp
      | succ n =>
        rw [position?] at h
        split at h
        · cases h
        · rename_i hnot
          obtain ⟨p, hp, rfl⟩ := Option.map_eq_some_iff.1 h
          obtain ⟨hle, hoffset⟩ := ih hp
          rw [offset_cons_succ, hoffset, List.length_cons]
          omega
  · rintro ⟨hle, rfl⟩
    exact position?_offset hle

end Utf8

end KeyTrace
