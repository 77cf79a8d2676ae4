import KeyTrace.Proofs.Text.Utf8
import Mathlib

/-!
# Reading bytes that are no text

Bytes are read character by character. Where no character stands, one replacement character takes
the place of the longest piece that begins a character, or of a single byte if there is none. This
says what is read without saying how, and exactly one text is read of any bytes.

A character that has begun goes on with bytes that are not ASCII, so an ASCII byte ends every broken
piece before it: bytes may be cut there and read apart.

## Main definitions

* `Utf8.IsBroken`: the longest piece of a character that is not completed.
* `Utf8.Decodes`: the text that bytes are read as.
* `Utf8.IsText`: bytes of a text.

## Main results

* `Utf8.decodes_iff`: lenient reading yields that text, and there is no other.
* `Utf8.decodeLossy_append`: bytes are cut at an ASCII byte before or after they are read.
* `Utf8.prefix_of_head?_decodeLossy`, `Utf8.subset_of_mem_decodeLossy`: the characters that are read
  stand in the bytes.
* `Utf8.isText_iff`: only the bytes of a text are got back from what they are read as.
-/

namespace KeyTrace

namespace Utf8

/-- The bytes are the beginning of a character's, or all of them. -/
def Begins (p : Bytes) : Prop := ∃ c, p <+: encodeChar c

/-- No character stands at the start of `p ++ rest`, and `p` is the longest piece there that begins
one, or a single byte. -/
structure IsBroken (p rest : Bytes) : Prop where
  ne_nil : p ≠ []
  no_char : ∀ c, ¬encodeChar c <+: p ++ rest
  begins : 1 < p.length → Begins p
  longest : ∀ q, q <+: p ++ rest → p.length < q.length → ¬Begins q

/-- The text that bytes are read as: one character for the bytes of each, and a replacement
character for each broken piece. -/
inductive Decodes : Bytes → List Char → Prop where
  | nil : Decodes [] []
  | char (c : Char) {rest : Bytes} {s : List Char} (h : Decodes rest s) :
    Decodes (encodeChar c ++ rest) (c :: s)
  | broken {p rest : Bytes} {s : List Char} (hp : IsBroken p rest) (h : Decodes rest s) :
    Decodes (p ++ rest) ('\ufffd' :: s)

/-! ### Bytes of characters -/

theorem byte_eq {n : Nat} {a : UInt8} (h : n = a.toNat) : byte n = a := by
  rw [h, byte, UInt8.ofNat_toNat]

theorem toNat_ofNat {n : Nat} (h : n.isValidChar) : (Char.ofNat n).toNat = n := by
  rw [Char.toNat_ofNat, if_pos h]

variable {a b c d : UInt8}

theorem between_iff {low high : UInt8} :
    (low ≤ a && a ≤ high) = true ↔ low.toNat ≤ a.toNat ∧ a.toNat ≤ high.toNat := by
  rw [Bool.and_eq_true, decide_eq_true_iff, decide_eq_true_iff, UInt8.le_iff_toNat_le,
    UInt8.le_iff_toNat_le]

theorem isContinuation_iff : isContinuation b = true ↔ 128 ≤ b.toNat ∧ b.toNat ≤ 191 := by
  rw [isContinuation, between_iff]
  rfl

theorem beq_iff_toNat {n : UInt8} : (a == n) = true ↔ a.toNat = n.toNat := by
  rw [beq_iff_eq, UInt8.toNat_inj]

/-- The second byte is any that continues, but for the first of the lead bytes, where the least ones
are left out, and for another, where the greatest are. -/
theorem second_iff (first last low high : UInt8) (hlast : first ≠ last)
    (hlow : 128 ≤ low.toNat) (hhigh : high.toNat ≤ 191) :
    (if a == first then low ≤ b && b ≤ 0xbf
      else if a == last then 0x80 ≤ b && b ≤ high else isContinuation b) = true ↔
      128 ≤ b.toNat ∧ b.toNat ≤ 191 ∧ (a.toNat = first.toNat → low.toNat ≤ b.toNat) ∧
        (a.toNat = last.toNat → b.toNat ≤ high.toNat) := by
  have hne : first.toNat ≠ last.toNat := fun h => hlast (UInt8.toNat_inj.1 h)
  split
  · have ha : a.toNat = first.toNat := beq_iff_toNat.1 ‹_›
    have hrange : (low ≤ b && b ≤ 0xbf) = true ↔ low.toNat ≤ b.toNat ∧ b.toNat ≤ 191 := between_iff
    rw [hrange]
    omega
  · have ha : a.toNat ≠ first.toNat := fun h => ‹¬_› (beq_iff_toNat.2 h)
    split
    · have ha' : a.toNat = last.toNat := beq_iff_toNat.1 ‹_›
      have hrange : (0x80 ≤ b && b ≤ high) = true ↔ 128 ≤ b.toNat ∧ b.toNat ≤ high.toNat :=
        between_iff
      rw [hrange]
      omega
    · have ha' : a.toNat ≠ last.toNat := fun h => ‹¬(a == last) = true› (beq_iff_toNat.2 h)
      rw [isContinuation_iff]
      omega

theorem isSecondOfThree_iff : isSecondOfThree a b = true ↔
    128 ≤ b.toNat ∧ b.toNat ≤ 191 ∧ (a.toNat = 224 → 160 ≤ b.toNat) ∧
      (a.toNat = 237 → b.toNat ≤ 159) :=
  second_iff 0xe0 0xed 0xa0 0x9f (by decide) (by decide) (by decide)

theorem isSecondOfFour_iff : isSecondOfFour a b = true ↔
    128 ≤ b.toNat ∧ b.toNat ≤ 191 ∧ (a.toNat = 240 → 144 ≤ b.toNat) ∧
      (a.toNat = 244 → b.toNat ≤ 143) :=
  second_iff 0xf0 0xf4 0x90 0x8f (by decide) (by decide) (by decide)

theorem encodeChar_one (h : a < 0x80) : encodeChar (Char.ofNat a.toNat) = [a] := by
  have ha : a.toNat < 128 := UInt8.lt_iff_toNat_lt.1 h
  have hn : (Char.ofNat a.toNat).toNat = a.toNat := toNat_ofNat (Or.inl (by omega))
  simp only [encodeChar, hn, ha, if_true, byte, UInt8.ofNat_toNat]

theorem encodeChar_char2 (ha : (0xc2 ≤ a && a ≤ 0xdf) = true) (hb : isContinuation b = true) :
    encodeChar (char2 a b) = [a, b] := by
  obtain ⟨hlow, hhigh⟩ : 194 ≤ a.toNat ∧ a.toNat ≤ 223 := between_iff.1 ha
  have hcont := isContinuation_iff.1 hb
  have hn : (char2 a b).toNat = (a.toNat - 0xc0) * 64 + (b.toNat - 0x80) :=
    toNat_ofNat (Or.inl (by omega))
  rw [encodeChar, hn, if_neg (by omega), if_pos (by omega)]
  simp only [List.cons.injEq, and_true]
  exact ⟨byte_eq (by omega), byte_eq (by omega)⟩

theorem encodeChar_char3 (ha : (0xe0 ≤ a && a ≤ 0xef) = true) (hb : isSecondOfThree a b = true)
    (hc : isContinuation c = true) : encodeChar (char3 a b c) = [a, b, c] := by
  obtain ⟨hlow, hhigh⟩ : 224 ≤ a.toNat ∧ a.toNat ≤ 239 := between_iff.1 ha
  obtain ⟨hblow, hbhigh, hfirst, hsurrogate⟩ := isSecondOfThree_iff.1 hb
  have hcont := isContinuation_iff.1 hc
  have hn : (char3 a b c).toNat =
      (a.toNat - 0xe0) * 4096 + (b.toNat - 0x80) * 64 + (c.toNat - 0x80) := by
    refine toNat_ofNat ?_
    rw [Nat.isValidChar]
    omega
  rw [encodeChar, hn, if_neg (by omega), if_neg (by omega), if_pos (by omega)]
  simp only [List.cons.injEq, and_true]
  exact ⟨byte_eq (by omega), byte_eq (by omega), byte_eq (by omega)⟩

theorem encodeChar_char4 (ha : (0xf0 ≤ a && a ≤ 0xf4) = true) (hb : isSecondOfFour a b = true)
    (hc : isContinuation c = true) (hd : isContinuation d = true) :
    encodeChar (char4 a b c d) = [a, b, c, d] := by
  obtain ⟨hlow, hhigh⟩ : 240 ≤ a.toNat ∧ a.toNat ≤ 244 := between_iff.1 ha
  obtain ⟨hblow, hbhigh, hfirst, hlast⟩ := isSecondOfFour_iff.1 hb
  have hcont := isContinuation_iff.1 hc
  have hcont' := isContinuation_iff.1 hd
  have hn : (char4 a b c d).toNat = (a.toNat - 0xf0) * 262144 + (b.toNat - 0x80) * 4096 +
      (c.toNat - 0x80) * 64 + (d.toNat - 0x80) := by
    refine toNat_ofNat ?_
    rw [Nat.isValidChar]
    omega
  rw [encodeChar, hn, if_neg (by omega), if_neg (by omega), if_neg (by omega)]
  simp only [List.cons.injEq, and_true]
  exact ⟨byte_eq (by omega), byte_eq (by omega), byte_eq (by omega), byte_eq (by omega)⟩

/-! ### What stands at the start -/

/-- Reading breaks off after `p`, and sees no more of the rest than its first byte. -/
def Stops (p rest : Bytes) : Prop :=
  match rest with
  | [] => pieces p = [none]
  | x :: _ => ∀ more, pieces (p ++ x :: more) = none :: pieces (x :: more)

theorem Stops.pieces {p rest : Bytes} (h : Stops p rest) :
    pieces (p ++ rest) = none :: Utf8.pieces rest := by
  cases rest with
  | nil => simpa [Stops, Utf8.pieces] using h
  | cons x more => exact h more

/-- A piece is broken if reading breaks off there: the bytes of a character are read as that
character, however they go on. -/
theorem isBroken_of_stops {p rest : Bytes} (hne : p ≠ []) (hbegins : 1 < p.length → Begins p)
    (h : Stops p rest) : IsBroken p rest := by
  refine ⟨hne, fun c hc => ?_, hbegins, fun q hq hlt => ?_⟩
  · obtain ⟨more, hmore⟩ := hc
    have hread := h.pieces
    rw [← hmore, pieces_encodeChar] at hread
    cases hread
  · rintro ⟨c, more, hmore⟩
    obtain ⟨left, rfl⟩ : p <+: q :=
      List.prefix_of_prefix_length_le (List.prefix_append p rest) hq (Nat.le_of_lt hlt)
    have hleft : left <+: rest := (List.prefix_append_right_inj p).1 hq
    cases left with
    | nil => simp at hlt
    | cons x left =>
      obtain ⟨after, rfl⟩ := hleft
      have hread : pieces (p ++ x :: (left ++ more)) = _ := h _
      have hchar := pieces_encodeChar c []
      rw [List.append_nil, ← hmore, List.append_assoc, List.cons_append, hread] at hchar
      cases hchar

/-- At the start stand the bytes of a character, or a piece after which reading breaks off. -/
def Starts (bytes : Bytes) : Prop :=
  (∃ c rest, bytes = encodeChar c ++ rest) ∨
    ∃ p rest, bytes = p ++ rest ∧ p ≠ [] ∧ (1 < p.length → Begins p) ∧ Stops p rest

theorem starts_of_encodeChar {c : Char} {p : Bytes} (h : encodeChar c = p) (rest : Bytes) :
    Starts (p ++ rest) := Or.inl ⟨c, rest, by rw [h]⟩

theorem starts_of_stops (a : UInt8) {rest : Bytes} (h : Stops [a] rest) : Starts (a :: rest) :=
  Or.inr ⟨[a], rest, rfl, by simp, by simp, h⟩

theorem starts_of_begins (p : Bytes) {rest : Bytes} (hne : p ≠ []) (hbegins : Begins p)
    (h : Stops p rest) : Starts (p ++ rest) := Or.inr ⟨p, rest, rfl, hne, fun _ => hbegins, h⟩

-- The cases of the first byte, each with those before it left out, as they are read.
section Lead

variable (hone : ¬a < 0x80)
include hone

theorem starts_two (ha : (0xc2 ≤ a && a ≤ 0xdf) = true) (rest : Bytes) : Starts (a :: rest) := by
  cases rest with
  | nil =>
    refine starts_of_stops a ?_
    rw [Stops, pieces.eq_def]
    simp only [hone, ha, if_true, if_false]
  | cons b rest =>
    by_cases hb : isContinuation b = true
    · exact starts_of_encodeChar (encodeChar_char2 ha hb) rest
    · refine starts_of_stops a fun more => ?_
      rw [List.singleton_append, pieces.eq_def]
      simp only [hone, ha, hb, if_true, if_false, Bool.false_eq_true]

theorem starts_three (htwo : ¬(0xc2 ≤ a && a ≤ 0xdf) = true) (ha : (0xe0 ≤ a && a ≤ 0xef) = true)
    (rest : Bytes) : Starts (a :: rest) := by
  cases rest with
  | nil =>
    refine starts_of_stops a ?_
    rw [Stops, pieces.eq_def]
    simp only [hone, htwo, ha, if_true, if_false, Bool.false_eq_true]
  | cons b rest =>
    by_cases hb : isSecondOfThree a b = true
    · have hbegins : Begins [a, b] :=
        ⟨char3 a b 0x80, [0x80], (encodeChar_char3 ha hb (by decide)).symm⟩
      cases rest with
      | nil =>
        refine starts_of_begins [a, b] (by simp) hbegins ?_
        rw [Stops, pieces.eq_def]
        simp only [hone, htwo, ha, hb, if_true, if_false, Bool.false_eq_true]
      | cons c rest =>
        by_cases hc : isContinuation c = true
        · exact starts_of_encodeChar (encodeChar_char3 ha hb hc) rest
        · refine starts_of_begins [a, b] (by simp) hbegins fun more => ?_
          rw [List.cons_append, List.singleton_append, pieces.eq_def]
          simp only [hone, htwo, ha, hb, hc, if_true, if_false, Bool.false_eq_true]
    · refine starts_of_stops a fun more => ?_
      rw [List.singleton_append, pieces.eq_def]
      simp only [hone, htwo, ha, hb, if_true, if_false, Bool.false_eq_true]

theorem starts_four (htwo : ¬(0xc2 ≤ a && a ≤ 0xdf) = true)
    (hthree : ¬(0xe0 ≤ a && a ≤ 0xef) = true) (ha : (0xf0 ≤ a && a ≤ 0xf4) = true)
    (rest : Bytes) : Starts (a :: rest) := by
  have hmore : isContinuation 0x80 = true := by decide
  cases rest with
  | nil =>
    refine starts_of_stops a ?_
    rw [Stops, pieces.eq_def]
    simp only [hone, htwo, hthree, ha, if_true, if_false, Bool.false_eq_true]
  | cons b rest =>
    by_cases hb : isSecondOfFour a b = true
    · have hbegins : Begins [a, b] :=
        ⟨char4 a b 0x80 0x80, [0x80, 0x80], (encodeChar_char4 ha hb hmore hmore).symm⟩
      cases rest with
      | nil =>
        refine starts_of_begins [a, b] (by simp) hbegins ?_
        rw [Stops, pieces.eq_def]
        simp only [hone, htwo, hthree, ha, hb, if_true, if_false, Bool.false_eq_true]
      | cons c rest =>
        by_cases hc : isContinuation c = true
        · have hbegins : Begins [a, b, c] :=
            ⟨char4 a b c 0x80, [0x80], (encodeChar_char4 ha hb hc hmore).symm⟩
          cases rest with
          | nil =>
            refine starts_of_begins [a, b, c] (by simp) hbegins ?_
            rw [Stops, pieces.eq_def]
            simp only [hone, htwo, hthree, ha, hb, hc, if_true, if_false, Bool.false_eq_true]
          | cons d rest =>
            by_cases hd : isContinuation d = true
            · exact starts_of_encodeChar (encodeChar_char4 ha hb hc hd) rest
            · refine starts_of_begins [a, b, c] (by simp) hbegins fun more => ?_
              rw [List.cons_append, List.cons_append, List.singleton_append, pieces.eq_def]
              simp only [hone, htwo, hthree, ha, hb, hc, hd, if_true, if_false, Bool.false_eq_true]
        · refine starts_of_begins [a, b] (by simp) hbegins fun more => ?_
          rw [List.cons_append, List.singleton_append, pieces.eq_def]
          simp only [hone, htwo, hthree, ha, hb, hc, if_true, if_false, Bool.false_eq_true]
    · refine starts_of_stops a fun more => ?_
      rw [List.singleton_append, pieces.eq_def]
      simp only [hone, htwo, hthree, ha, hb, if_true, if_false, Bool.false_eq_true]

/-- A byte that begins no character is a piece of its own. -/
theorem starts_none (htwo : ¬(0xc2 ≤ a && a ≤ 0xdf) = true)
    (hthree : ¬(0xe0 ≤ a && a ≤ 0xef) = true) (hfour : ¬(0xf0 ≤ a && a ≤ 0xf4) = true)
    (rest : Bytes) : Starts (a :: rest) := by
  have hread : ∀ more, pieces (a :: more) = none :: pieces more := by
    intro more
    rw [pieces.eq_def]
    simp only [hone, htwo, hthree, hfour, if_false, Bool.false_eq_true]
  refine starts_of_stops a ?_
  cases rest with
  | nil => exact (hread []).trans (by rw [pieces.eq_def])
  | cons b rest => exact fun more => hread (b :: more)

end Lead

/-- One or the other stands at the start of any bytes. -/
theorem starts_cons (a : UInt8) (rest : Bytes) : Starts (a :: rest) := by
  by_cases hone : a < 0x80
  · exact starts_of_encodeChar (encodeChar_one hone) rest
  · by_cases htwo : (0xc2 ≤ a && a ≤ 0xdf) = true
    · exact starts_two hone htwo rest
    · by_cases hthree : (0xe0 ≤ a && a ≤ 0xef) = true
      · exact starts_three hone htwo hthree rest
      · by_cases hfour : (0xf0 ≤ a && a ≤ 0xf4) = true
        · exact starts_four hone htwo hthree hfour rest
        · exact starts_none hone htwo hthree hfour rest

theorem encodeChar_ne_nil (c : Char) : encodeChar c ≠ [] :=
  List.ne_nil_of_length_pos (by rw [length_encodeChar]; exact c.utf8Size_pos)

/-! ### What is read -/

/-- Lenient reading yields a text that the bytes are read as. -/
theorem decodes_decodeLossy (bytes : Bytes) : Decodes bytes (decodeLossy bytes) := by
  induction hn : bytes.length using Nat.strong_induction_on generalizing bytes with
  | _ n ih =>
    cases bytes with
    | nil =>
      rw [decodeLossy, pieces.eq_def]
      exact .nil
    | cons a more =>
      obtain ⟨c, rest, h⟩ | ⟨p, rest, h, hne, hbegins, hstops⟩ := starts_cons a more
      · have hlt : rest.length < n := by
          have hpos := List.length_pos_iff.2 (encodeChar_ne_nil c)
          rw [← hn, h, List.length_append]
          omega
        rw [h, decodeLossy, pieces_encodeChar]
        exact .char c (ih _ hlt rest rfl)
      · have hlt : rest.length < n := by
          have hpos := List.length_pos_iff.2 hne
          rw [← hn, h, List.length_append]
          omega
        rw [h, decodeLossy, hstops.pieces]
        exact .broken (isBroken_of_stops hne hbegins hstops) (ih _ hlt rest rfl)

theorem encodeChar_inj {c c' : Char} {rest rest' : Bytes}
    (h : encodeChar c ++ rest = encodeChar c' ++ rest') : c = c' ∧ rest = rest' := by
  have hread := congrArg pieces h
  rw [pieces_encodeChar, pieces_encodeChar] at hread
  obtain rfl : c = c' := Option.some.inj (List.cons.inj hread).1
  exact ⟨rfl, List.append_cancel_left h⟩

/-- Neither of two broken pieces at the start is longer than the other. -/
theorem IsBroken.length_le {p p' rest rest' : Bytes} (h : IsBroken p rest) (h' : IsBroken p' rest')
    (heq : p ++ rest = p' ++ rest') : p'.length ≤ p.length := by
  by_contra hlt
  have hpos := List.length_pos_iff.2 h.ne_nil
  refine h.longest p' (heq ▸ List.prefix_append p' rest') (by omega) (h'.begins (by omega))

/-- There is only one text that bytes are read as. -/
theorem Decodes.unique {bytes : Bytes} {s s' : List Char} (h : Decodes bytes s)
    (h' : Decodes bytes s') : s = s' := by
  induction h generalizing s' with
  | nil =>
    generalize hb : ([] : Bytes) = bytes at h'
    cases h' with
    | nil => rfl
    | char c => simp [encodeChar_ne_nil] at hb
    | broken hp => simp [hp.ne_nil] at hb
  | @char c rest s _ ih =>
    generalize hb : encodeChar c ++ rest = bytes at h'
    cases h' with
    | nil => simp [encodeChar_ne_nil] at hb
    | char c' h' =>
      obtain ⟨rfl, rfl⟩ := encodeChar_inj hb
      rw [ih h']
    | broken hp => exact absurd (hb ▸ List.prefix_append ..) (hp.no_char c)
  | @broken p rest s hp _ ih =>
    generalize hb : p ++ rest = bytes at h'
    cases h' with
    | nil => simp [hp.ne_nil] at hb
    | char c => exact absurd (hb ▸ List.prefix_append ..) (hp.no_char c)
    | @broken p' rest' s' hp' h' =>
      have hlength := Nat.le_antisymm (hp'.length_le hp hb.symm) (hp.length_le hp' hb)
      obtain ⟨rfl, rfl⟩ := List.append_inj hb hlength
      rw [ih h']

/-- **Lenient reading yields the text that bytes are read as**, and there is no other. -/
theorem decodes_iff {bytes : Bytes} {s : List Char} :
    Decodes bytes s ↔ decodeLossy bytes = s :=
  ⟨fun h => (decodes_decodeLossy bytes).unique h, fun h => h ▸ decodes_decodeLossy bytes⟩

theorem decodeLossy_encodeChar (c : Char) (rest : Bytes) :
    decodeLossy (encodeChar c ++ rest) = c :: decodeLossy rest :=
  decodes_iff.1 (.char c (decodes_decodeLossy rest))

theorem decodeLossy_encode (s : List Char) : decodeLossy (encode s) = s := by
  rw [decodeLossy, pieces_encode, List.map_map]
  exact List.map_id s

theorem decodeLossy_ne_nil {bytes : Bytes} (hne : bytes ≠ []) : decodeLossy bytes ≠ [] := by
  intro hnil
  have hread := decodes_decodeLossy bytes
  rw [hnil] at hread
  cases hread
  exact hne rfl

/-- The first character that is read stands at the start of the bytes. -/
theorem prefix_of_head?_decodeLossy {c : Char} {bytes : Bytes}
    (h : (decodeLossy bytes).head? = some c) (hc : c ≠ '\ufffd') : encodeChar c <+: bytes := by
  have hread := decodes_decodeLossy bytes
  generalize decodeLossy bytes = s at h hread
  cases hread with
  | nil => cases h
  | char d _ =>
    obtain rfl : d = c := Option.some.inj h
    exact List.prefix_append ..
  | broken _ _ => exact absurd (Option.some.inj h).symm hc

/-! ### Cutting at an ASCII byte -/

/-- After its first byte no byte of a character is ASCII. -/
theorem not_lt_of_mem_tail {c : Char} {x : UInt8} (h : x ∈ (encodeChar c).tail) : ¬x < 0x80 := by
  have hbyte : ∀ n, ¬byte (0x80 + n % 64) < 0x80 := fun n =>
    byte_not_lt (by omega) (Nat.le_add_right 128 (n % 64))
  rw [encodeChar] at h
  split at h
  · cases h
  · split at h
    · rw [List.tail_cons, List.mem_singleton] at h
      exact h ▸ hbyte _
    · split at h
      · simp only [List.tail_cons, List.mem_cons, List.not_mem_nil, or_false] at h
        rcases h with rfl | rfl <;> exact hbyte _
      · simp only [List.tail_cons, List.mem_cons, List.not_mem_nil, or_false] at h
        rcases h with rfl | rfl | rfl <;> exact hbyte _

variable {p q rest more : Bytes} {x : UInt8}

/-- A character that has begun does not go on with an ASCII byte. -/
theorem Begins.within (h : Begins q) (hx : x < 0x80) (hne : p ≠ []) (hq : q <+: p ++ x :: more) :
    q <+: p := by
  have hnot : ¬p ++ [x] <+: q := by
    intro hle
    obtain ⟨c, hc⟩ := h
    obtain ⟨after, hafter⟩ := hle.trans hc
    refine not_lt_of_mem_tail (c := c) ?_ hx
    rw [← hafter, List.append_assoc, List.tail_append_of_ne_nil hne]
    simp
  have hpre : p ++ [x] <+: p ++ x :: more := ⟨more, by simp⟩
  rcases List.prefix_or_prefix_of_prefix hq hpre with hle | hle
  · rcases List.prefix_concat_iff.1 hle with rfl | hle
    · exact absurd List.prefix_rfl hnot
    · exact hle
  · exact absurd hle hnot

/-- A broken piece stays broken when an ASCII byte follows what follows it. -/
theorem IsBroken.append (h : IsBroken p rest) (hx : x < 0x80) (more : Bytes) :
    IsBroken p (rest ++ x :: more) := by
  have hne : p ++ rest ≠ [] := fun hnil => h.ne_nil (List.append_eq_nil_iff.1 hnil).1
  refine ⟨h.ne_nil, fun c hc => ?_, h.begins, fun q hq hlt hbegins => ?_⟩
  · rw [← List.append_assoc] at hc
    exact h.no_char c (Begins.within ⟨c, List.prefix_rfl⟩ hx hne hc)
  · rw [← List.append_assoc] at hq
    exact h.longest q (hbegins.within hx hne hq) hlt hbegins

theorem Decodes.append {s t : List Char} (h : Decodes p s) (hx : x < 0x80) (h' : Decodes more t) :
    Decodes (p ++ x :: more) (s ++ Char.ofNat x.toNat :: t) := by
  induction h with
  | nil => simpa [encodeChar_one hx] using Decodes.char (Char.ofNat x.toNat) h'
  | char c _ ih => simpa using Decodes.char c ih
  | broken hp _ ih => simpa using Decodes.broken (hp.append hx more) ih

/-- **Bytes are cut at an ASCII byte before or after they are read**, with the same result. -/
theorem decodeLossy_append (p more : Bytes) (hx : x < 0x80) :
    decodeLossy (p ++ x :: more) = decodeLossy p ++ Char.ofNat x.toNat :: decodeLossy more :=
  decodes_iff.1 ((decodes_decodeLossy p).append hx (decodes_decodeLossy more))

/-- The characters that are read stand in the bytes. -/
theorem subset_of_mem_decodeLossy {c : Char} (h : c ∈ decodeLossy p) (hc : c ≠ '\ufffd') :
    encodeChar c ⊆ p := by
  have hread := decodes_decodeLossy p
  generalize decodeLossy p = s at h hread
  induction hread with
  | nil => cases h
  | char d _ ih =>
    rcases List.mem_cons.1 h with rfl | h
    · exact List.subset_append_left ..
    · exact List.Subset.trans (ih h) (List.subset_append_right ..)
  | broken _ _ ih =>
    rcases List.mem_cons.1 h with h | h
    · exact absurd h hc
    · exact List.Subset.trans (ih h) (List.subset_append_right ..)

/-! ### Bytes that are a text -/

/-- The bytes are those of a text. -/
def IsText (bytes : Bytes) : Prop := ∃ s : String, bytes = ofText s

theorem lossy_ofText (s : String) : lossy (ofText s) = s := by
  rw [lossy, ofText, decodeLossy_encode, String.ofList_toList]

theorem ofText_lossy (bytes : Bytes) : ofText (lossy bytes) = encode (decodeLossy bytes) := by
  rw [ofText, lossy, String.toList_ofList]

/-- Only the bytes of a text are got back from what they are read as. -/
theorem isText_iff {bytes : Bytes} : IsText bytes ↔ ofText (lossy bytes) = bytes := by
  constructor
  · rintro ⟨s, rfl⟩
    rw [lossy_ofText]
  · exact fun h => ⟨lossy bytes, h.symm⟩

instance (bytes : Bytes) : Decidable (IsText bytes) := decidable_of_iff' _ isText_iff

/-- Bytes that are read without a replacement character are those of the text. -/
theorem encode_decodeLossy (h : '\ufffd' ∉ decodeLossy p) : encode (decodeLossy p) = p := by
  have hread := decodes_decodeLossy p
  generalize decodeLossy p = s at h hread
  induction hread with
  | nil => rfl
  | char c _ ih =>
    rw [encode, List.flatMap_cons, ← encode, ih fun hmem => h (List.mem_cons_of_mem c hmem)]
  | broken _ _ _ => exact absurd (List.mem_cons_self ..) h

/-- What is read of some bytes has the bytes of a text without replacement characters only if it was
read of these. -/
theorem eq_of_ofText_lossy (hq : '\ufffd' ∉ decodeLossy q) (h : ofText (lossy p) = q) : p = q := by
  have hread : decodeLossy q = decodeLossy p := by
    rw [← h, ofText_lossy, decodeLossy_encode]
  rw [← h, ofText_lossy, encode_decodeLossy (hread ▸ hq)]

/-- An ASCII byte is in the bytes of a text just if its character is in the text. -/
theorem mem_encode_iff {s : List Char} (hx : x < 0x80) : x ∈ encode s ↔ Char.ofNat x.toNat ∈ s := by
  constructor
  · intro hmem
    obtain ⟨c, hc, hmem⟩ := List.mem_flatMap.1 hmem
    obtain ⟨b, tail, hbytes⟩ := List.exists_cons_of_ne_nil (encodeChar_ne_nil c)
    rw [hbytes] at hmem
    rcases List.mem_cons.1 hmem with rfl | hmem
    · -- The character begins with the byte, as the character of the byte does, so they are equal.
      have hone : encodeChar (Char.ofNat x.toNat) ++ tail = encodeChar c ++ [] := by
        rw [encodeChar_one hx, hbytes, List.append_nil]
        rfl
      rwa [(encodeChar_inj hone).1]
    · exact absurd hx (not_lt_of_mem_tail (by rwa [hbytes]))
  · intro hmem
    exact List.mem_flatMap.2 ⟨_, hmem, by rw [encodeChar_one hx]; exact List.mem_singleton_self x⟩

end Utf8

end KeyTrace
