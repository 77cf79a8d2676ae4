import KeyTrace.Text.Utf8

/-!
# Reading what was written in UTF-8

The first byte of a character tells how many there are, and the others continue it. So the bytes of
a text, read in order, yield the text again.

## Main results

* `Utf8.pieces_encodeChar`: the bytes of a character are read as that character.
* `Utf8.decode?_encode`: the bytes of a text are read as that text.
* `Utf8.length_encode`: a text has as many bytes as its width says.
-/

namespace KeyTrace

namespace Utf8

theorem toNat_byte {n : Nat} (h : n < 256) : (byte n).toNat = n :=
  UInt8.toNat_ofNat_of_lt' h

variable {n : Nat} {low high : UInt8}

theorem byte_between (hlow : low.toNat ≤ n) (hhigh : n ≤ high.toNat) :
    (low ≤ byte n && byte n ≤ high) = true := by
  have hn : n < 256 := Nat.lt_of_le_of_lt hhigh high.toNat_lt
  rw [Bool.and_eq_true, decide_eq_true_iff, decide_eq_true_iff, UInt8.le_iff_toNat_le,
    UInt8.le_iff_toNat_le, toNat_byte hn]
  exact ⟨hlow, hhigh⟩

theorem byte_not_between (hn : n < 256) (h : high.toNat < n) :
    (low ≤ byte n && byte n ≤ high) = false := by
  have hgt : ¬byte n ≤ high := by
    rw [UInt8.le_iff_toNat_le, toNat_byte hn]
    omega
  rw [decide_eq_false hgt, Bool.and_false]

theorem byte_not_lt (hn : n < 256) (h : high.toNat ≤ n) : ¬byte n < high := by
  rw [UInt8.lt_iff_toNat_lt, toNat_byte hn]
  omega

theorem byte_beq (hn : n < 256) : (byte n == low) = decide (n = low.toNat) := by
  show decide (byte n = low) = decide (n = low.toNat)
  refine decide_eq_decide.2 ?_
  rw [← UInt8.toNat_inj, toNat_byte hn]

theorem isContinuation_byte (h : n < 64) : isContinuation (byte (0x80 + n)) = true := by
  refine byte_between ?_ ?_
  · show 128 ≤ 0x80 + n
    omega
  · show 0x80 + n ≤ 191
    omega

/-! ### Characters by the number of their bytes -/

variable {c : Char} (rest : Bytes)

theorem pieces_one (h : c.toNat < 0x80) :
    pieces (byte c.toNat :: rest) = some c :: pieces rest := by
  have ha := toNat_byte (show c.toNat < 256 by omega)
  have hlt : byte c.toNat < 0x80 := by
    rw [UInt8.lt_iff_toNat_lt, ha]
    exact h
  rw [pieces.eq_def]
  simp only [hlt, if_true, ha, Char.ofNat_toNat]

theorem pieces_two (hlow : 0x80 ≤ c.toNat) (h : c.toNat < 0x800) :
    pieces (byte (0xc0 + c.toNat / 64) :: byte (0x80 + c.toNat % 64) :: rest) =
      some c :: pieces rest := by
  have ha : 0xc0 + c.toNat / 64 < 256 := by omega
  have hfirst : ¬byte (0xc0 + c.toNat / 64) < 0x80 := by
    refine byte_not_lt ha ?_
    show 128 ≤ 0xc0 + c.toNat / 64
    omega
  have hrange : (0xc2 ≤ byte (0xc0 + c.toNat / 64) && byte (0xc0 + c.toNat / 64) ≤ 0xdf) =
      true := by
    refine byte_between ?_ ?_
    · show 194 ≤ 0xc0 + c.toNat / 64
      omega
    · show 0xc0 + c.toNat / 64 ≤ 223
      omega
  have hcont := isContinuation_byte (Nat.mod_lt c.toNat (show 0 < 64 by omega))
  have hchar : char2 (byte (0xc0 + c.toNat / 64)) (byte (0x80 + c.toNat % 64)) = c := by
    rw [char2, toNat_byte ha, toNat_byte (by omega)]
    have hn : (0xc0 + c.toNat / 64 - 0xc0) * 64 + (0x80 + c.toNat % 64 - 0x80) = c.toNat := by
      omega
    rw [hn, Char.ofNat_toNat]
  rw [pieces.eq_def]
  simp only [hfirst, hrange, hcont, hchar, if_true, if_false]

/-- The surrogates are no characters. -/
theorem isSecondOfThree_byte (hlow : 0x800 ≤ c.toNat) (h : c.toNat < 0x10000) :
    isSecondOfThree (byte (0xe0 + c.toNat / 4096)) (byte (0x80 + c.toNat / 64 % 64)) = true := by
  have hvalid : c.toNat < 0xd800 ∨ 0xdfff < c.toNat ∧ c.toNat < 0x110000 := c.valid
  have ha : 0xe0 + c.toNat / 4096 < 256 := by omega
  rw [isSecondOfThree, byte_beq ha, byte_beq ha]
  have he0 : (0xe0 : UInt8).toNat = 0xe0 := rfl
  have hed : (0xed : UInt8).toNat = 0xed := rfl
  rw [he0, hed]
  split
  · rename_i hfirst
    have hfirst := of_decide_eq_true hfirst
    refine byte_between ?_ ?_
    · show 160 ≤ 0x80 + c.toNat / 64 % 64
      omega
    · show 0x80 + c.toNat / 64 % 64 ≤ 191
      omega
  · split
    · rename_i hfirst
      have hfirst := of_decide_eq_true hfirst
      refine byte_between ?_ ?_
      · show 128 ≤ 0x80 + c.toNat / 64 % 64
        omega
      · show 0x80 + c.toNat / 64 % 64 ≤ 159
        omega
    · exact isContinuation_byte (Nat.mod_lt _ (by omega))

theorem pieces_three (hlow : 0x800 ≤ c.toNat) (h : c.toNat < 0x10000) :
    pieces (byte (0xe0 + c.toNat / 4096) :: byte (0x80 + c.toNat / 64 % 64) ::
      byte (0x80 + c.toNat % 64) :: rest) = some c :: pieces rest := by
  have ha : 0xe0 + c.toNat / 4096 < 256 := by omega
  have hfirst : ¬byte (0xe0 + c.toNat / 4096) < 0x80 := by
    refine byte_not_lt ha ?_
    show 128 ≤ 0xe0 + c.toNat / 4096
    omega
  have htwo : (0xc2 ≤ byte (0xe0 + c.toNat / 4096) && byte (0xe0 + c.toNat / 4096) ≤ 0xdf) =
      false := by
    refine byte_not_between ha ?_
    show 223 < 0xe0 + c.toNat / 4096
    omega
  have hrange : (0xe0 ≤ byte (0xe0 + c.toNat / 4096) && byte (0xe0 + c.toNat / 4096) ≤ 0xef) =
      true := by
    refine byte_between ?_ ?_
    · show 224 ≤ 0xe0 + c.toNat / 4096
      omega
    · show 0xe0 + c.toNat / 4096 ≤ 239
      omega
  have hsecond := isSecondOfThree_byte hlow h
  have hcont := isContinuation_byte (Nat.mod_lt c.toNat (show 0 < 64 by omega))
  have hchar : char3 (byte (0xe0 + c.toNat / 4096)) (byte (0x80 + c.toNat / 64 % 64))
      (byte (0x80 + c.toNat % 64)) = c := by
    rw [char3, toNat_byte ha, toNat_byte (by omega), toNat_byte (by omega)]
    have hn : (0xe0 + c.toNat / 4096 - 0xe0) * 4096 + (0x80 + c.toNat / 64 % 64 - 0x80) * 64 +
        (0x80 + c.toNat % 64 - 0x80) = c.toNat := by
      omega
    rw [hn, Char.ofNat_toNat]
  rw [pieces.eq_def]
  simp only [hfirst, htwo, hrange, hsecond, hcont, hchar, if_true, if_false, Bool.false_eq_true]

/-- There are no characters beyond the last plane. -/
theorem isSecondOfFour_byte (hlow : 0x10000 ≤ c.toNat) :
    isSecondOfFour (byte (0xf0 + c.toNat / 262144)) (byte (0x80 + c.toNat / 4096 % 64)) = true := by
  have hvalid : c.toNat < 0xd800 ∨ 0xdfff < c.toNat ∧ c.toNat < 0x110000 := c.valid
  have ha : 0xf0 + c.toNat / 262144 < 256 := by omega
  rw [isSecondOfFour, byte_beq ha, byte_beq ha]
  have hf0 : (0xf0 : UInt8).toNat = 0xf0 := rfl
  have hf4 : (0xf4 : UInt8).toNat = 0xf4 := rfl
  rw [hf0, hf4]
  split
  · rename_i hfirst
    have hfirst := of_decide_eq_true hfirst
    refine byte_between ?_ ?_
    · show 144 ≤ 0x80 + c.toNat / 4096 % 64
      omega
    · show 0x80 + c.toNat / 4096 % 64 ≤ 191
      omega
  · split
    · rename_i hfirst
      have hfirst := of_decide_eq_true hfirst
      refine byte_between ?_ ?_
      · show 128 ≤ 0x80 + c.toNat / 4096 % 64
        omega
      · show 0x80 + c.toNat / 4096 % 64 ≤ 143
        omega
    · exact isContinuation_byte (Nat.mod_lt _ (by omega))

theorem pieces_four (hlow : 0x10000 ≤ c.toNat) :
    pieces (byte (0xf0 + c.toNat / 262144) :: byte (0x80 + c.toNat / 4096 % 64) ::
      byte (0x80 + c.toNat / 64 % 64) :: byte (0x80 + c.toNat % 64) :: rest) =
      some c :: pieces rest := by
  have hvalid : c.toNat < 0xd800 ∨ 0xdfff < c.toNat ∧ c.toNat < 0x110000 := c.valid
  have ha : 0xf0 + c.toNat / 262144 < 256 := by omega
  have hfirst : ¬byte (0xf0 + c.toNat / 262144) < 0x80 := by
    refine byte_not_lt ha ?_
    show 128 ≤ 0xf0 + c.toNat / 262144
    omega
  have htwo : (0xc2 ≤ byte (0xf0 + c.toNat / 262144) &&
      byte (0xf0 + c.toNat / 262144) ≤ 0xdf) = false := by
    refine byte_not_between ha ?_
    show 223 < 0xf0 + c.toNat / 262144
    omega
  have hthree : (0xe0 ≤ byte (0xf0 + c.toNat / 262144) &&
      byte (0xf0 + c.toNat / 262144) ≤ 0xef) = false := by
    refine byte_not_between ha ?_
    show 239 < 0xf0 + c.toNat / 262144
    omega
  have hrange : (0xf0 ≤ byte (0xf0 + c.toNat / 262144) &&
      byte (0xf0 + c.toNat / 262144) ≤ 0xf4) = true := by
    refine byte_between ?_ ?_
    · show 240 ≤ 0xf0 + c.toNat / 262144
      omega
    · show 0xf0 + c.toNat / 262144 ≤ 244
      omega
  have hsecond := isSecondOfFour_byte hlow
  have hthird := isContinuation_byte (Nat.mod_lt (c.toNat / 64) (show 0 < 64 by omega))
  have hfourth := isContinuation_byte (Nat.mod_lt c.toNat (show 0 < 64 by omega))
  have hchar : char4 (byte (0xf0 + c.toNat / 262144)) (byte (0x80 + c.toNat / 4096 % 64))
      (byte (0x80 + c.toNat / 64 % 64)) (byte (0x80 + c.toNat % 64)) = c := by
    rw [char4, toNat_byte ha, toNat_byte (by omega), toNat_byte (by omega), toNat_byte (by omega)]
    have hn : (0xf0 + c.toNat / 262144 - 0xf0) * 262144 +
        (0x80 + c.toNat / 4096 % 64 - 0x80) * 4096 + (0x80 + c.toNat / 64 % 64 - 0x80) * 64 +
        (0x80 + c.toNat % 64 - 0x80) = c.toNat := by
      omega
    rw [hn, Char.ofNat_toNat]
  rw [pieces.eq_def]
  simp only [hfirst, htwo, hthree, hrange, hsecond, hthird, hfourth, hchar, if_true, if_false,
    Bool.false_eq_true]

/-! ### Texts -/

theorem length_encodeChar (c : Char) : (encodeChar c).length = c.utf8Size := by
  have hcode : ∀ n : UInt32, c.val ≤ n ↔ c.toNat ≤ n.toNat := fun n => UInt32.le_iff_toNat_le
  rw [encodeChar, Char.utf8Size]
  simp only [hcode, UInt32.toNat_ofNatLT]
  repeat' split
  all_goals first
    | rfl
    | omega

/-- A text has as many bytes as its width says. -/
theorem length_encode (s : List Char) : (encode s).length = width s := by
  rw [encode]
  induction s with
  | nil => rfl
  | cons c rest ih =>
    rw [List.flatMap_cons, List.length_append, length_encodeChar, ih, width_cons]

theorem encode_append (s t : List Char) : encode (s ++ t) = encode s ++ encode t :=
  List.flatMap_append

/-- **The bytes of a character are read as that character.** -/
theorem pieces_encodeChar (c : Char) (rest : Bytes) :
    pieces (encodeChar c ++ rest) = some c :: pieces rest := by
  rw [encodeChar]
  split
  · exact pieces_one rest ‹_›
  · split
    · exact pieces_two rest (by omega) ‹_›
    · split
      · exact pieces_three rest (by omega) ‹_›
      · exact pieces_four rest (by omega)

theorem pieces_encode (s : List Char) : pieces (encode s) = s.map some := by
  induction s with
  | nil => rw [encode, List.flatMap_nil, List.map_nil, pieces.eq_def]
  | cons c rest ih =>
    rw [encode] at ih ⊢
    rw [List.flatMap_cons, pieces_encodeChar, ih, List.map_cons]

/-- **The bytes of a text are read as that text.** -/
theorem decode?_encode (s : List Char) : decode? (encode s) = some s := by
  rw [decode?, pieces_encode]
  induction s with
  | nil => rfl
  | cons c rest ih =>
    rw [List.map_cons, List.mapM_cons, ih]
    rfl

end Utf8

end KeyTrace
