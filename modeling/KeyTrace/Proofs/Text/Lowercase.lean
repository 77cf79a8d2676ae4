import KeyTrace.Proofs.Text.Runs
import KeyTrace.Text.Blank
import KeyTrace.Text.Lowercase

/-!
# Lower case is final

A text in lower case stays as it is when it is put in lower case. That is a fact about the table:
no shift leads to a character that another shift moves, so that what has been moved once is moved no
more. Nothing becomes a blank or a mark of ASCII on the way.

## Main definitions

* `Lowercase.changing`: the shifts of all characters that have another lower case.
* `Lowercase.IsLower`: characters that stay as they are.

## Main results

* `Lowercase.isLower_of_mem`: lower case consists of characters that stay as they are.
* `Lowercase.lowerChars_lowerChars`: lower case stays as it is.
* `Lowercase.eq_or_of_mem_lowerChar`: a character stays, or one that is no blank and no dot is put
  in its place.
-/

namespace KeyTrace

namespace CaseShift

/-- What a shift moves does not come to stand where another one moves it again: it comes to stand
before or behind what the other one moves, or in the gaps between. The tests are those on which the
kernel computes directly. -/
def avoids (s s' : CaseShift) : Bool :=
  Nat.blt (s.apply s.last) s'.first || (Nat.blt s'.last (s.apply s.first) ||
    (Nat.beq s'.stride 2 && ((Nat.beq s.stride 2 || Nat.beq s.first s.last) &&
      Nat.beq ((s.apply s.first + s'.first) % 2) 1)))

variable {s s' : CaseShift} {n : Nat}

theorem moves_iff : s.moves n = true ↔ s.first ≤ n ∧ n ≤ s.last ∧ (n - s.first) % s.stride = 0 := by
  simp [moves, and_assoc]

theorem apply_le_apply (s : CaseShift) {m n : Nat} (h : m ≤ n) : s.apply m ≤ s.apply n := by
  simp only [apply, Int.ofNat_eq_natCast]
  omega

theorem not_moves_apply (h : s.avoids s' = true) (hdelta : 0 ≤ Int.ofNat s.first + s.delta)
    (hn : s.moves n = true) : s'.moves (s.apply n) = false := by
  rw [moves_iff] at hn
  obtain ⟨hfirst, hlast, hstride⟩ := hn
  rw [Bool.eq_false_iff, ne_eq, moves_iff]
  rintro ⟨hfirst', hlast', hstride'⟩
  simp only [avoids, Bool.or_eq_true, Bool.and_eq_true, Nat.blt_eq, Nat.beq_eq] at h
  simp only [apply, Int.ofNat_eq_natCast] at *
  rcases h with h | h | ⟨htwo, h, hodd⟩
  · omega
  · omega
  · rw [htwo] at hstride'
    rcases h with h | h
    · rw [h] at hstride
      omega
    · omega

end CaseShift

namespace Lowercase

/-- The shifts of all characters that have another lower case. To the table they add the capital I
with a dot, the first character of whose lower case is an i. -/
def changing : CaseMap := ⟨0x0130, 0x0130, 1, -199⟩ :: shifts

theorem changing_avoids : (changing.all fun s => changing.all s.avoids) = true := by
  decide +kernel

/-- Where a shift leads to: beyond the marks and capitals of ASCII, and to no blank. The capitals of
ASCII have a shift of their own. -/
theorem changing_letters : ∀ s ∈ changing,
    (0x61 ≤ Int.ofNat s.first + s.delta ∧ (s = ⟨0x41, 0x5a, 1, 32⟩ ∨ 0x80 ≤ s.first)) ∧
      ∀ r ∈ Blank.runs, s.apply s.last < r.1 ∨ r.2 < s.apply s.first := by
  decide +kernel

/-- Characters that stay as they are. -/
def IsLower (c : Char) : Prop := ∀ s ∈ changing, s.moves c.toNat = false

instance : DecidablePred IsLower := fun c =>
  inferInstanceAs (Decidable (∀ s ∈ changing, s.moves c.toNat = false))

theorem isLower_of_moves {s : CaseShift} (hs : s ∈ changing) {n : Nat} (hn : s.moves n = true) :
    IsLower (Char.ofNat (s.apply n)) := by
  intro s' hs'
  have havoids : s.avoids s' = true :=
    List.all_eq_true.1 (List.all_eq_true.1 changing_avoids s hs) s' hs'
  obtain ⟨⟨hdelta, -⟩, -⟩ := changing_letters s hs
  rw [Char.toNat_ofNat]
  split
  · exact CaseShift.not_moves_apply havoids (by omega) hn
  -- A code point that is none of a character stands for the character with the number zero.
  · obtain ⟨⟨-, hfirst⟩, -⟩ := changing_letters s' hs'
    rw [Bool.eq_false_iff, ne_eq, CaseShift.moves_iff]
    rcases hfirst with rfl | hfirst
    · simp
    · omega

theorem isCapital_iff {c : Char} : 'A' ≤ c ∧ c ≤ 'Z' ↔ 0x41 ≤ c.toNat ∧ c.toNat ≤ 0x5a := Iff.rfl

/-- The shift of the capitals of ASCII, and that of the Greek ones that have the sigma. -/
theorem mem_changing : ⟨0x41, 0x5a, 1, 32⟩ ∈ changing ∧ ⟨0x03a3, 0x03ab, 1, 32⟩ ∈ changing := by
  decide

theorem isLower_of_ascii {c : Char} (h : c.toNat < 0x80) (hc : ¬('A' ≤ c ∧ c ≤ 'Z')) :
    IsLower c := by
  intro s hs
  rw [Bool.eq_false_iff, ne_eq, CaseShift.moves_iff]
  obtain ⟨⟨-, rfl | hfirst⟩, -⟩ := changing_letters s hs
  · exact fun hmoves => hc (isCapital_iff.2 ⟨hmoves.1, hmoves.2.1⟩)
  · omega

/-- **A character that stays is put in its own place.** -/
theorem IsLower.lowerChar_eq {c : Char} (h : IsLower c) (before after : List Char) :
    lowerChar before c after = [c] := by
  have hcapital : ¬('A' ≤ c ∧ c ≤ 'Z') := by
    intro hc
    have hmoves : CaseShift.moves ⟨0x41, 0x5a, 1, 32⟩ c.toNat = true :=
      CaseShift.moves_iff.2 ⟨hc.1, hc.2, Nat.mod_one _⟩
    rw [h _ mem_changing.1] at hmoves
    cases hmoves
  have hsigma : c ≠ '\u03a3' := by
    rintro rfl
    exact absurd (h _ mem_changing.2) (by decide)
  have hdotted : c ≠ '\u0130' := by
    rintro rfl
    exact absurd (h _ (List.mem_cons_self ..)) (by decide)
  have himage : shifts.image c = c := by
    have hnone : shifts.find? (fun s => s.moves c.toNat) = none :=
      List.find?_eq_none.2 fun s hs => by simp [h s (List.mem_cons_of_mem _ hs)]
    rw [CaseMap.image, hnone]
  simp only [lowerChar, Bool.and_eq_true, decide_eq_true_eq, hcapital, if_false, beq_iff_eq, hsigma,
    hdotted, himage, ite_self]

/-- What is put in the place of a character: the character itself if it stays, what a shift makes of
it, a final sigma, or the dot above. -/
theorem mem_lowerChar {before after : List Char} {c d : Char} (h : d ∈ lowerChar before c after) :
    d = c ∧ IsLower c ∨
      (∃ s ∈ changing, s.moves c.toNat = true ∧ d = Char.ofNat (s.apply c.toNat)) ∨
      d = '\u03c2' ∨ d = '\u0307' := by
  rw [lowerChar] at h
  split at h
  · rename_i hascii
    split at h
    · rename_i hcapital
      obtain rfl := List.mem_singleton.1 h
      obtain ⟨hfirst, hlast⟩ : 'A' ≤ c ∧ c ≤ 'Z' := by simpa using hcapital
      exact Or.inr (Or.inl ⟨_, mem_changing.1,
        CaseShift.moves_iff.2 ⟨hfirst, hlast, Nat.mod_one _⟩, rfl⟩)
    · rename_i hcapital
      obtain rfl := List.mem_singleton.1 h
      exact Or.inl ⟨rfl, isLower_of_ascii hascii (by simpa using hcapital)⟩
  · split at h
    · rename_i hsigma
      obtain rfl := beq_iff_eq.1 hsigma
      obtain rfl := List.mem_singleton.1 h
      split
      · exact Or.inr (Or.inr (Or.inl rfl))
      · exact Or.inr (Or.inl ⟨_, mem_changing.2, by decide, by decide⟩)
    · split at h
      · rename_i hdotted
        obtain rfl := beq_iff_eq.1 hdotted
        rcases List.mem_pair.1 h with rfl | rfl
        · exact Or.inr (Or.inl ⟨_, List.mem_cons_self .., by decide, by decide⟩)
        · exact Or.inr (Or.inr (Or.inr rfl))
      · rename_i hdotted
        obtain rfl := List.mem_singleton.1 h
        rw [CaseMap.image]
        cases hfind : shifts.find? fun s => s.moves c.toNat with
        | some s =>
          have hmoves : s.moves c.toNat = true := by simpa using List.find?_some hfind
          exact Or.inr (Or.inl ⟨s, List.mem_cons_of_mem _ (List.mem_of_find?_eq_some hfind), hmoves,
            rfl⟩)
        | none =>
          refine Or.inl ⟨rfl, fun s hs => ?_⟩
          rcases List.mem_cons.1 hs with rfl | hs
          · rw [Bool.eq_false_iff, ne_eq, CaseShift.moves_iff]
            rintro ⟨hfirst, hlast, -⟩
            refine hdotted (beq_iff_eq.2 (Char.toNat_inj.1 ?_))
            exact Nat.le_antisymm hlast hfirst
          · simpa using List.find?_eq_none.1 hfind s hs

theorem isLower_of_mem_lowerChar {before after : List Char} {c d : Char}
    (h : d ∈ lowerChar before c after) : IsLower d := by
  rcases mem_lowerChar h with ⟨rfl, hlower⟩ | ⟨s, hs, hmoves, rfl⟩ | rfl | rfl
  · exact hlower
  · exact isLower_of_moves hs hmoves
  · decide +kernel
  · decide +kernel

/-- Each character of a lower case comes from one of the text. -/
theorem exists_of_mem_lowerFrom {before s : List Char} {d : Char} (h : d ∈ lowerFrom before s) :
    ∃ before' c after, c ∈ s ∧ d ∈ lowerChar before' c after := by
  induction s generalizing before with
  | nil => cases h
  | cons c rest ih =>
    rcases List.mem_append.1 h with h | h
    · exact ⟨before, c, rest, List.mem_cons_self .., h⟩
    · obtain ⟨before', c', after, hc', hd⟩ := ih h
      exact ⟨before', c', after, List.mem_cons_of_mem c hc', hd⟩

theorem isLower_of_mem {s : List Char} {d : Char} (h : d ∈ lowerChars s) : IsLower d := by
  obtain ⟨before, c, after, -, hd⟩ := exists_of_mem_lowerFrom h
  exact isLower_of_mem_lowerChar hd

theorem lowerFrom_of_isLower (before : List Char) {s : List Char} (h : ∀ c ∈ s, IsLower c) :
    lowerFrom before s = s := by
  induction s generalizing before with
  | nil => rfl
  | cons c rest ih =>
    rw [lowerFrom, (h c (List.mem_cons_self ..)).lowerChar_eq,
      ih (c :: before) fun d hd => h d (List.mem_cons_of_mem c hd)]
    rfl

/-- **Lower case stays as it is.** -/
theorem lowerChars_lowerChars (s : List Char) : lowerChars (lowerChars s) = lowerChars s :=
  lowerFrom_of_isLower [] fun _ => isLower_of_mem

theorem sorted_blank_runs : Runs.Sorted Blank.runs := by
  unfold Runs.Sorted
  decide

theorem not_isBlank_of_moves {s : CaseShift} (hs : s ∈ changing) {n : Nat}
    (hn : s.moves n = true) : Blank.isBlank (Char.ofNat (s.apply n)) = false := by
  obtain ⟨-, hblank⟩ := changing_letters s hs
  obtain ⟨hfirst, hlast, -⟩ := CaseShift.moves_iff.1 hn
  have hlow := s.apply_le_apply hfirst
  have hhigh := s.apply_le_apply hlast
  rw [Bool.eq_false_iff, ne_eq, Blank.isBlank, Runs.has, Runs.hasCode_iff sorted_blank_runs,
    Char.toNat_ofNat]
  rintro ⟨r, hr, hcode⟩
  split at hcode
  · have := hblank r hr
    omega
  · have hpos : ∀ r ∈ Blank.runs, 0 < r.1 := by decide
    have := hpos r hr
    omega

theorem ne_dot_of_moves {s : CaseShift} (hs : s ∈ changing) {n : Nat} (hn : s.moves n = true) :
    Char.ofNat (s.apply n) ≠ '.' := by
  intro hdot
  have hcode : (Char.ofNat (s.apply n)).toNat = 0x2e := congrArg Char.toNat hdot
  obtain ⟨⟨hdelta, -⟩, -⟩ := changing_letters s hs
  obtain ⟨hfirst, -⟩ := CaseShift.moves_iff.1 hn
  have hlow := s.apply_le_apply hfirst
  rw [CaseShift.apply] at hlow
  rw [Char.toNat_ofNat] at hcode
  split at hcode
  · omega
  · cases hcode

/-- **What is put in the place of a character**, if it is another one, is no blank and no dot. -/
theorem eq_or_of_mem_lowerChar {before after : List Char} {c d : Char}
    (h : d ∈ lowerChar before c after) : d = c ∨ Blank.isBlank d = false ∧ d ≠ '.' := by
  rcases mem_lowerChar h with ⟨rfl, -⟩ | ⟨s, hs, hmoves, rfl⟩ | rfl | rfl
  · exact Or.inl rfl
  · exact Or.inr ⟨not_isBlank_of_moves hs hmoves, ne_dot_of_moves hs hmoves⟩
  · exact Or.inr (by decide)
  · exact Or.inr (by decide)

theorem lowerChar_ne_nil (before : List Char) (c : Char) (after : List Char) :
    lowerChar before c after ≠ [] := by
  rw [lowerChar]
  split
  · split <;> exact List.cons_ne_nil _ _
  · split
    · exact List.cons_ne_nil _ _
    · split <;> exact List.cons_ne_nil _ _

theorem lowerFrom_ne_nil (before : List Char) {s : List Char} (h : s ≠ []) :
    lowerFrom before s ≠ [] := by
  cases s with
  | nil => exact absurd rfl h
  | cons c rest => exact List.append_ne_nil_of_left_ne_nil (lowerChar_ne_nil _ _ _) _

/-- A text that does not begin with a dot does not in lower case. -/
theorem head?_lowerChars {s : List Char} (h : ∀ c ∈ s.head?, c ≠ '.') :
    ∀ d ∈ (lowerChars s).head?, d ≠ '.' := by
  intro d hd
  cases s with
  | nil => cases hd
  | cons c rest =>
    rw [lowerChars, lowerFrom, List.head?_append_of_ne_nil _ (lowerChar_ne_nil _ _ _)] at hd
    rcases eq_or_of_mem_lowerChar (List.mem_of_mem_head? hd) with rfl | ⟨-, hdot⟩
    · exact h d rfl
    · exact hdot

/-- A text that does not end with a blank does not in lower case. -/
theorem getLast?_lowerFrom (before : List Char) {s : List Char}
    (h : ∀ c ∈ s.getLast?, Blank.isBlank c = false) :
    ∀ d ∈ (lowerFrom before s).getLast?, Blank.isBlank d = false := by
  induction s generalizing before with
  | nil => exact nofun
  | cons c rest ih =>
    intro d hd
    cases rest with
    | nil =>
      rw [lowerFrom, lowerFrom, List.append_nil] at hd
      rcases eq_or_of_mem_lowerChar (List.mem_of_mem_getLast? hd) with rfl | ⟨hblank, -⟩
      · exact h d rfl
      · exact hblank
    | cons c' rest =>
      have hne : lowerFrom (c :: before) (c' :: rest) ≠ [] :=
        lowerFrom_ne_nil _ (List.cons_ne_nil _ _)
      rw [lowerFrom, List.getLast?_append_of_ne_nil _ hne] at hd
      exact ih (c :: before) (by simpa using h) d hd

end Lowercase

end KeyTrace
