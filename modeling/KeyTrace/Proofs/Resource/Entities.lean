import KeyTrace.Resource.Markup
import Mathlib

/-!
# References are resolved once

In markup a character may be written as a reference: by one of five names, or by its number in
decimal or hexadecimal digits. What a reference names is said here without the way it is read. A
text is resolved from its start in a single pass; where a reference that names a character begins,
that character is what it says, and the text after the reference comes next. So whatever way each
character of a text is written, the text comes back, an ampersand that was written as a reference
begins nothing, and a reference that names no character is left as it is.

## Main definitions

* `Markup.Numeral`: digits and their value.
* `Markup.Names`, `Markup.reference`: references and the characters that they name.
* `Markup.Writes`: the ways to write a character.
* `Markup.Resolves`: what a text says in a single pass.

## Main results

* `Markup.entity?_eq_some_iff`: resolving a reference yields the character that it names.
* `Markup.decode_written`: written texts are resolved.
* `Markup.decode_unnamed`: a reference that names no character stays as it is written.
* `Markup.decode_references`: resolving undoes every way of writing, in a single pass.
-/

namespace KeyTrace

namespace Markup

/-! ### What is written -/

/-- What a decimal digit is worth. -/
def DecimalDigit (c : Char) (d : Nat) : Prop := "0123456789".toList[d]? = some c

/-- What a hexadecimal digit is worth, in lower or in upper case. -/
def HexDigit (c : Char) (d : Nat) : Prop :=
  "0123456789abcdef".toList[d]? = some c ∨ "0123456789ABCDEF".toList[d]? = some c

/-- Digits with their value in a base; zeros in front change nothing. -/
def Numeral (base : Nat) (Digit : Char → Nat → Prop) (s : List Char) (n : Nat) : Prop :=
  s ≠ [] ∧ ∃ ds, List.Forall₂ Digit s ds ∧ Nat.ofDigits base ds.reverse = n

/-- The character that a reference names, given what stands between its ampersand and its
semicolon. -/
inductive Names : List Char → Char → Prop where
  | lt : Names ['l', 't'] '<'
  | gt : Names ['g', 't'] '>'
  | quot : Names ['q', 'u', 'o', 't'] '"'
  | apos : Names ['a', 'p', 'o', 's'] '\''
  | amp : Names ['a', 'm', 'p'] '&'
  | decimal {s : List Char} {c : Char} (h : Numeral 10 DecimalDigit s c.toNat) : Names ('#' :: s) c
  | hex {s : List Char} {c : Char} (h : Numeral 16 HexDigit s c.toNat) : Names ('#' :: 'x' :: s) c

/-- A reference as it is written. -/
def reference (body : List Char) : List Char := '&' :: (body ++ [';'])

/-- The ways to write a character: as it is, unless it is an ampersand, or as a reference. -/
inductive Writes : Char → List Char → Prop where
  | itself {c : Char} (h : c ≠ '&') : Writes c [c]
  | reference {body : List Char} {c : Char} (h : Names body c) : Writes c (reference body)

/-- A text and what it says when it is read once from its start: a reference says the character that
it names, and where none begins, a character says itself. -/
inductive Resolves : List Char → List Char → Prop where
  | nil : Resolves [] []
  | reference {body rest s : List Char} {c : Char} (h : Names body c) (hrest : Resolves rest s) :
    Resolves (reference body ++ rest) (c :: s)
  | itself {c : Char} {rest s : List Char}
    (h : ∀ body k, Names body k → ¬reference body <+: c :: rest) (hrest : Resolves rest s) :
    Resolves (c :: rest) (c :: s)

/-! ### Digits -/

theorem toNat_between (low high : Char) {c : Char} (h : (low ≤ c && c ≤ high) = true) :
    low.toNat ≤ c.toNat ∧ c.toNat ≤ high.toNat := by
  rw [Bool.and_eq_true, decide_eq_true_iff, decide_eq_true_iff] at h
  exact h

theorem decimal?_eq_some_iff {c : Char} {d : Nat} : decimal? c = some d ↔ DecimalDigit c d := by
  constructor
  · intro h
    rw [decimal?] at h
    split at h
    · obtain ⟨hlow, hhigh⟩ : 48 ≤ c.toNat ∧ c.toNat ≤ 57 := toNat_between '0' '9' ‹_›
      obtain rfl := Option.some.inj h
      have hdigit : ∀ d < 10, DecimalDigit (Char.ofNat (d + 48)) d := by
        simp only [DecimalDigit]
        decide
      have hc := hdigit (c.toNat - 48) (by omega)
      rwa [Nat.sub_add_cancel hlow, Char.ofNat_toNat] at hc
    · cases h
  · intro h
    obtain ⟨hlt, rfl⟩ := List.getElem?_eq_some_iff.1 h
    have hvalue : ∀ d (h : d < "0123456789".toList.length),
        decimal? "0123456789".toList[d] = some d := by decide
    exact hvalue d hlt

theorem hexDigit?_eq_some_iff {c : Char} {d : Nat} :
    Pattern.hexDigit? c = some d ↔ HexDigit c d := by
  constructor
  · intro h
    have hdecimal : ∀ d < 10, HexDigit (Char.ofNat (d + 48)) d := by
      simp only [HexDigit]
      decide
    have hlower : ∀ d < 6, HexDigit (Char.ofNat (d + 97)) (d + 10) := by
      simp only [HexDigit]
      decide
    have hupper : ∀ d < 6, HexDigit (Char.ofNat (d + 65)) (d + 10) := by
      simp only [HexDigit]
      decide
    rw [Pattern.hexDigit?] at h
    split at h
    · obtain ⟨hlow, hhigh⟩ : 48 ≤ c.toNat ∧ c.toNat ≤ 57 := toNat_between '0' '9' ‹_›
      obtain rfl := Option.some.inj h
      have hc := hdecimal (c.toNat - 48) (by omega)
      rwa [Nat.sub_add_cancel hlow, Char.ofNat_toNat] at hc
    · split at h
      · obtain ⟨hlow, hhigh⟩ : 97 ≤ c.toNat ∧ c.toNat ≤ 102 := toNat_between 'a' 'f' ‹_›
        obtain rfl := Option.some.inj h
        have hc := hlower (c.toNat - 97) (by omega)
        rwa [Nat.sub_add_cancel hlow, Char.ofNat_toNat,
          show c.toNat - 97 + 10 = c.toNat - 87 by omega] at hc
      · split at h
        · obtain ⟨hlow, hhigh⟩ : 65 ≤ c.toNat ∧ c.toNat ≤ 70 := toNat_between 'A' 'F' ‹_›
          obtain rfl := Option.some.inj h
          have hc := hupper (c.toNat - 65) (by omega)
          rwa [Nat.sub_add_cancel hlow, Char.ofNat_toNat,
            show c.toNat - 65 + 10 = c.toNat - 55 by omega] at hc
        · cases h
  · have hvalue : ∀ digits ∈ ["0123456789abcdef".toList, "0123456789ABCDEF".toList],
        ∀ d (h : d < digits.length), Pattern.hexDigit? digits[d] = some d := by decide
    rintro (h | h)
    · obtain ⟨hlt, rfl⟩ := List.getElem?_eq_some_iff.1 h
      exact hvalue _ (by simp) d hlt
    · obtain ⟨hlt, rfl⟩ := List.getElem?_eq_some_iff.1 h
      exact hvalue _ (by simp) d hlt

section Digits

variable {base : Nat} {value : Char → Option Nat} {Digit : Char → Nat → Prop} {s : List Char}
  {n : Nat}

/-- After a character without a value, digits have none. -/
theorem foldl_none (value : Char → Option Nat) (s : List Char) :
    s.foldl (fun n c => n.bind fun n => (value c).map fun d => base * n + d) none = none := by
  induction s with
  | nil => rfl
  | cons c s ih => exact ih

/-- Digits are read from the first one on. -/
theorem foldl_eq_some_iff (h : ∀ {c d}, value c = some d ↔ Digit c d) (first : Nat) :
    s.foldl (fun n c => n.bind fun n => (value c).map fun d => base * n + d) (some first) = some n ↔
      ∃ ds, List.Forall₂ Digit s ds ∧ ds.foldl (fun n d => base * n + d) first = n := by
  induction s generalizing first with
  | nil => simp
  | cons c s ih =>
    rw [List.foldl_cons, Option.bind_some]
    cases hc : value c with
    | none =>
      rw [Option.map_none, foldl_none]
      constructor
      · nofun
      · rintro ⟨ds, hds, -⟩
        cases hds with
        | cons hd _ => rw [h.2 hd] at hc; cases hc
    | some d =>
      rw [Option.map_some, ih]
      constructor
      · rintro ⟨ds, hds, hn⟩
        exact ⟨d :: ds, .cons (h.1 hc) hds, hn⟩
      · rintro ⟨ds, hds, hn⟩
        cases hds with
        | cons hd hds =>
          obtain rfl : d = _ := Option.some.inj (hc.symm.trans (h.2 hd))
          exact ⟨_, hds, hn⟩

theorem ofDigits_reverse (ds : List Nat) :
    Nat.ofDigits base ds.reverse = ds.foldl (fun n d => base * n + d) 0 := by
  rw [Nat.ofDigits_eq_foldr, List.foldr_reverse]
  simp [Nat.add_comm]

/-- **Reading digits** yields the value of a numeral. -/
theorem digits?_eq_some_iff (h : ∀ {c d}, value c = some d ↔ Digit c d) :
    digits? base value s = some n ↔ Numeral base Digit s n := by
  rw [digits?, Numeral]
  simp only [ofDigits_reverse]
  cases s with
  | nil => simp
  | cons c s => simpa using foldl_eq_some_iff (s := c :: s) h 0

end Digits

/-- The mark of hexadecimal digits is no decimal digit. -/
theorem not_numeral_x {s : List Char} {n : Nat} : ¬Numeral 10 DecimalDigit ('x' :: s) n := by
  rintro ⟨-, ds, hds, -⟩
  cases hds with
  | cons hd _ => cases (decimal?_eq_some_iff.2 hd).symm.trans (by rfl : decimal? 'x' = none)

theorem scalar?_eq_some_iff {n : Nat} {c : Char} : Pattern.scalar? n = some c ↔ n = c.toNat := by
  rw [Pattern.scalar?]
  constructor
  · intro h
    split at h
    · obtain rfl := Option.some.inj h
      rw [Char.toNat_ofNat, if_pos ‹_›]
    · cases h
  · rintro rfl
    have hvalid : c.toNat.isValidChar := c.valid
    rw [if_pos hvalid, Char.ofNat_toNat]

/-! ### References -/

theorem bind_scalar?_eq_some_iff {n? : Option Nat} {c : Char} :
    n?.bind Pattern.scalar? = some c ↔ n? = some c.toNat := by
  rw [Option.bind_eq_some_iff]
  simp only [scalar?_eq_some_iff]
  exact ⟨fun ⟨n, hn, h⟩ => h ▸ hn, fun h => ⟨_, h, rfl⟩⟩

/-- **Resolving a reference** yields the character that it names. -/
theorem entity?_eq_some_iff {body : List Char} {c : Char} :
    entity? body = some c ↔ Names body c := by
  constructor
  · intro h
    unfold entity? at h
    split at h
    · exact Option.some.inj h ▸ .lt
    · exact Option.some.inj h ▸ .gt
    · exact Option.some.inj h ▸ .quot
    · exact Option.some.inj h ▸ .apos
    · exact Option.some.inj h ▸ .amp
    · exact .hex ((digits?_eq_some_iff hexDigit?_eq_some_iff).1 (bind_scalar?_eq_some_iff.1 h))
    · exact .decimal ((digits?_eq_some_iff decimal?_eq_some_iff).1 (bind_scalar?_eq_some_iff.1 h))
    · cases h
  · intro h
    cases h with
    | lt => rfl
    | gt => rfl
    | quot => rfl
    | apos => rfl
    | amp => rfl
    | decimal h =>
      have hread := bind_scalar?_eq_some_iff.2 ((digits?_eq_some_iff decimal?_eq_some_iff).2 h)
      rw [entity?]
      · exact hread
      · rintro hex rfl
        exact not_numeral_x h
    | hex h =>
      exact bind_scalar?_eq_some_iff.2 ((digits?_eq_some_iff hexDigit?_eq_some_iff).2 h)

/-- Digits are marks of references if each of them is. -/
theorem isEntityChar_of_numeral {base : Nat} {Digit : Char → Nat → Prop} {s : List Char} {n : Nat}
    (hdigit : ∀ c d, Digit c d → isEntityChar c = true) (h : Numeral base Digit s n) :
    ∀ c ∈ s, isEntityChar c = true := by
  obtain ⟨-, ds, hds, -⟩ := h
  clear * - hdigit hds
  induction hds with
  | nil => nofun
  | cons hd _ ih => exact List.forall_mem_cons.2 ⟨hdigit _ _ hd, ih⟩

/-- What names a character has only the marks of references in it. -/
theorem Names.isEntityChar {body : List Char} {c : Char} (h : Names body c) :
    ∀ x ∈ body, Markup.isEntityChar x = true := by
  cases h with
  | lt => exact List.all_eq_true.1 (by rfl)
  | gt => exact List.all_eq_true.1 (by rfl)
  | quot => exact List.all_eq_true.1 (by rfl)
  | apos => exact List.all_eq_true.1 (by rfl)
  | amp => exact List.all_eq_true.1 (by rfl)
  | decimal h =>
    have hdigits := List.all_eq_true.1 (by rfl : "0123456789".toList.all Markup.isEntityChar = true)
    refine List.forall_mem_cons.2 ⟨by rfl, isEntityChar_of_numeral (fun c d hd => ?_) h⟩
    exact hdigits c (List.mem_of_getElem? hd)
  | hex h =>
    have hlower := List.all_eq_true.1
      (by rfl : "0123456789abcdef".toList.all Markup.isEntityChar = true)
    have hupper := List.all_eq_true.1
      (by rfl : "0123456789ABCDEF".toList.all Markup.isEntityChar = true)
    refine List.forall_mem_cons.2 ⟨by rfl, List.forall_mem_cons.2 ⟨by rfl, ?_⟩⟩
    refine isEntityChar_of_numeral (fun c d hd => ?_) h
    exact hd.elim (fun h => hlower c (List.mem_of_getElem? h))
      (fun h => hupper c (List.mem_of_getElem? h))

theorem Names.not_mem {body : List Char} {c x : Char} (h : Names body c)
    (hx : Markup.isEntityChar x = false) : x ∉ body := by
  intro hmem
  rw [h.isEntityChar x hmem] at hx
  cases hx

/-- The reference after an ampersand is the one that is written there. -/
theorem entityAt?_eq_some_iff {s : List Char} {c : Char} {length : Nat} :
    entityAt? s = some (c, length) ↔
      ∃ body rest, s = body ++ ';' :: rest ∧ Names body c ∧ length = body.length + 1 := by
  have hdrop : s.drop (s.takeWhile isEntityChar).length = s.dropWhile isEntityChar := by
    have h : (s.takeWhile isEntityChar ++ s.dropWhile isEntityChar).drop
        (s.takeWhile isEntityChar).length = s.dropWhile isEntityChar := List.drop_left
    rwa [List.takeWhile_append_dropWhile] at h
  rw [entityAt?]
  simp only [hdrop]
  constructor
  · intro h
    split at h
    · rename_i rest hrest
      obtain ⟨k, hk, heq⟩ := Option.map_eq_some_iff.1 h
      obtain ⟨rfl, rfl⟩ := Prod.mk.inj heq
      refine ⟨s.takeWhile isEntityChar, rest, ?_, entity?_eq_some_iff.1 hk, rfl⟩
      rw [← hrest, List.takeWhile_append_dropWhile]
    · cases h
  · rintro ⟨body, rest, rfl, hnames, rfl⟩
    have hsemicolon : isEntityChar ';' = false := by rfl
    have htake : (body ++ ';' :: rest).takeWhile isEntityChar = body := by
      rw [List.takeWhile_append_of_pos hnames.isEntityChar,
        List.takeWhile_cons_of_neg (by simp [hsemicolon]), List.append_nil]
    have hrest : (body ++ ';' :: rest).dropWhile isEntityChar = ';' :: rest := by
      rw [List.dropWhile_append_of_pos hnames.isEntityChar,
        List.dropWhile_cons_of_neg (by simp [hsemicolon])]
    simp only [htake, hrest, entity?_eq_some_iff.2 hnames, Option.map_some]

/-! ### Resolving -/

theorem decodeFrom_eq (skip : Nat) (s : List Char) :
    decodeFrom skip s = decode (s.drop skip) := by
  induction skip generalizing s with
  | zero => rfl
  | succ n ih =>
    cases s with
    | nil => rfl
    | cons c s => rw [decodeFrom, ih, List.drop_succ_cons]

theorem reference_append (body rest : List Char) :
    reference body ++ rest = '&' :: (body ++ ';' :: rest) := by
  simp [reference]

theorem decode_reference {body : List Char} {c : Char} (h : Names body c) (rest : List Char) :
    decode (reference body ++ rest) = c :: decode rest := by
  have hat : entityAt? (body ++ ';' :: rest) = some (c, body.length + 1) :=
    entityAt?_eq_some_iff.2 ⟨body, rest, rfl, h, rfl⟩
  have hdrop : (body ++ ';' :: rest).drop (body.length + 1) = rest := by
    rw [← List.drop_drop, List.drop_left]
    rfl
  rw [reference_append, decode, decodeFrom, if_pos (by rfl), hat]
  simp only [decodeFrom_eq, hdrop]

theorem decode_itself {c : Char} {rest : List Char}
    (h : ∀ body k, Names body k → ¬reference body <+: c :: rest) :
    decode (c :: rest) = c :: decode rest := by
  rw [decode, decodeFrom]
  split
  · rename_i hamp
    obtain rfl := beq_iff_eq.1 hamp
    cases hat : entityAt? rest with
    | none => rfl
    | some found =>
      obtain ⟨body, more, rfl, hnames, -⟩ := entityAt?_eq_some_iff.1 hat
      exact absurd ⟨more, reference_append body more⟩ (h body found.1 hnames)
  · rfl

/-- Resolving yields what a text says. -/
theorem resolves_decode (text : List Char) : Resolves text (decode text) := by
  induction hn : text.length using Nat.strong_induction_on generalizing text with
  | _ n ih =>
    cases text with
    | nil => exact .nil
    | cons c rest =>
      by_cases h : ∃ body k, Names body k ∧ reference body <+: c :: rest
      · obtain ⟨body, k, hnames, more, hmore⟩ := h
        have hlt : more.length < n := by
          rw [← hn, ← hmore, reference_append, List.length_cons, List.length_append]
          simp only [List.length_cons]
          omega
        rw [← hmore, decode_reference hnames]
        exact .reference hnames (ih _ hlt more rfl)
      · have hnot : ∀ body k, Names body k → ¬reference body <+: c :: rest :=
          fun body k hnames hpre => h ⟨body, k, hnames, hpre⟩
        rw [decode_itself hnot]
        exact .itself hnot (ih _ (by rw [← hn, List.length_cons]; omega) rest rfl)

/-- There is nothing else that a text says. -/
theorem Resolves.decode_eq {text s : List Char} (h : Resolves text s) : decode text = s := by
  induction h with
  | nil => rfl
  | reference h _ ih => rw [decode_reference h, ih]
  | itself h _ ih => rw [decode_itself h, ih]

/-! ### References in their places -/

/-- A reference that begins before an ampersand ends before it. -/
theorem reference_within {body s rest : List Char} {c k : Char} (h : Names body k)
    (hpre : reference body <+: c :: (s ++ '&' :: rest)) : reference body <+: c :: s := by
  obtain ⟨rfl, hbody⟩ := List.cons_prefix_cons.1 hpre
  have hamp : '&' ∉ body ++ [';'] := by
    simpa using h.not_mem (by rfl : isEntityChar '&' = false)
  have hs : s ++ ['&'] <+: s ++ '&' :: rest := ⟨rest, by simp⟩
  refine List.cons_prefix_cons.2 ⟨rfl, ?_⟩
  rcases List.prefix_or_prefix_of_prefix hbody hs with hle | hle
  · rcases List.prefix_concat_iff.1 hle with heq | hle
    · exact absurd (heq ▸ List.mem_append_right s (List.mem_singleton_self '&')) hamp
    · exact hle
  · exact absurd (hle.subset (List.mem_append_right s (List.mem_singleton_self '&'))) hamp

theorem Resolves.append {s t text rest : List Char} (h : Resolves text s)
    (hrest : Resolves ('&' :: rest) t) : Resolves (text ++ '&' :: rest) (s ++ t) := by
  induction h with
  | nil => exact hrest
  | reference h _ ih =>
    rw [List.append_assoc]
    exact .reference h ih
  | itself h _ ih => exact .itself (fun body k hk hpre => h body k hk (reference_within hk hpre)) ih

/-- Nothing before an ampersand matters for what begins with it. -/
theorem decode_append (s rest : List Char) :
    decode (s ++ '&' :: rest) = decode s ++ decode ('&' :: rest) :=
  ((resolves_decode s).append (resolves_decode _)).decode_eq

/-- Where there is no ampersand, nothing begins. -/
theorem decode_append_of_not_mem {s : List Char} (hs : '&' ∉ s) (rest : List Char) :
    decode (s ++ rest) = s ++ decode rest := by
  induction s with
  | nil => rfl
  | cons c s ih =>
    rw [List.mem_cons, not_or] at hs
    have hnot : ∀ body k, Names body k → ¬reference body <+: c :: (s ++ rest) :=
      fun body k _ hpre => hs.1 (List.cons_prefix_cons.1 hpre).1
    rw [List.cons_append, decode_itself hnot, ih hs.2, List.cons_append]

/-- The text before the first mark of a kind is known. -/
theorem eq_of_append_cons {x : Char} {s t rest rest' : List Char} (hs : x ∉ s) (ht : x ∉ t)
    (h : s ++ x :: rest = t ++ x :: rest') : s = t := by
  induction s generalizing t with
  | nil =>
    cases t with
    | nil => rfl
    | cons d t => exact absurd ((List.cons.inj h).1 ▸ List.mem_cons_self) ht
  | cons c s ih =>
    cases t with
    | nil => exact absurd ((List.cons.inj h).1 ▸ List.mem_cons_self) hs
    | cons d t =>
      obtain ⟨rfl, htail⟩ := List.cons.inj h
      rw [List.mem_cons, not_or] at hs ht
      rw [ih hs.2 ht.2 htail]

/-- **A reference that names no character stays as it is written.** -/
theorem decode_unnamed {body : List Char} (hamp : '&' ∉ body) (hsemicolon : ';' ∉ body)
    (hbody : ∀ c, ¬Names body c) (before rest : List Char) :
    decode (before ++ (reference body ++ rest)) =
      decode before ++ (reference body ++ decode rest) := by
  have hnot : ∀ body' k, Names body' k → ¬reference body' <+: '&' :: (body ++ ';' :: rest) := by
    rintro body' k hk ⟨more, hmore⟩
    rw [reference_append] at hmore
    have hsemicolon' := hk.not_mem (by rfl : isEntityChar ';' = false)
    have heq : body' = body := eq_of_append_cons hsemicolon' hsemicolon (List.cons.inj hmore).2
    exact hbody k (heq ▸ hk)
  have hend : '&' ∉ body ++ [';'] := by simpa using hamp
  have hrest := decode_append_of_not_mem hend rest
  rw [List.append_assoc, List.singleton_append] at hrest
  rw [reference_append, decode_append, decode_itself hnot, hrest]
  rfl

/-- A decimal reference names no character if there is none of its number. -/
theorem not_names_decimal {s : List Char} {n : Nat} (h : Numeral 10 DecimalDigit s n)
    (hn : ¬n.isValidChar) (c : Char) : ¬Names ('#' :: s) c := by
  intro hnames
  have hvalue := (digits?_eq_some_iff decimal?_eq_some_iff).2 h
  cases hnames with
  | decimal hc =>
    obtain rfl := Option.some.inj
      (hvalue.symm.trans ((digits?_eq_some_iff decimal?_eq_some_iff).2 hc))
    exact hn c.valid
  | hex => exact not_numeral_x h

/-- A hexadecimal reference names no character if there is none of its number. -/
theorem not_names_hex {s : List Char} {n : Nat} (h : Numeral 16 HexDigit s n)
    (hn : ¬n.isValidChar) (c : Char) : ¬Names ('#' :: 'x' :: s) c := by
  intro hnames
  have hvalue := (digits?_eq_some_iff hexDigit?_eq_some_iff).2 h
  cases hnames with
  | decimal hc => exact not_numeral_x hc
  | hex hc =>
    obtain rfl := Option.some.inj
      (hvalue.symm.trans ((digits?_eq_some_iff hexDigit?_eq_some_iff).2 hc))
    exact hn c.valid

/-- **Written texts are resolved.** -/
theorem decode_written {s : List Char} {ws : List (List Char)} (h : List.Forall₂ Writes s ws)
    (rest : List Char) : decode (ws.flatten ++ rest) = s ++ decode rest := by
  induction h with
  | nil => rfl
  | @cons c w s ws hw _ ih =>
    rw [List.flatten_cons, List.append_assoc]
    cases hw with
    | itself hc =>
      rw [decode_append_of_not_mem (by simpa using Ne.symm hc), ih]
      rfl
    | reference hnames =>
      rw [decode_reference hnames, ih]
      rfl

/-- **Resolving undoes every way of writing, in a single pass.** A text whose characters are each
written in any way comes back, and what follows is resolved by itself; any text says what it says
when it is read once; a reference that names no character stays as it is written wherever it
stands, and one by a number that is no character's names none. -/
theorem decode_references :
    (∀ s ws, List.Forall₂ Writes s ws →
        decode ws.flatten = s ∧ ∀ rest, decode (ws.flatten ++ rest) = s ++ decode rest) ∧
      (∀ text s, Resolves text s ↔ decode text = s) ∧
      (∀ body, '&' ∉ body → ';' ∉ body → (∀ c, ¬Names body c) → ∀ before rest,
        decode (before ++ (reference body ++ rest)) =
          decode before ++ (reference body ++ decode rest)) ∧
      ∀ digits n, 0xd800 ≤ n ∧ n ≤ 0xdfff ∨ 0x110000 ≤ n →
        (Numeral 10 DecimalDigit digits n → ∀ c, ¬Names ('#' :: digits) c) ∧
        (Numeral 16 HexDigit digits n → ∀ c, ¬Names ('#' :: 'x' :: digits) c) := by
  refine ⟨fun s ws h => ⟨?_, decode_written h⟩,
    fun text s => ⟨Resolves.decode_eq, fun h => h ▸ resolves_decode text⟩,
    fun body hamp hsemicolon hbody => decode_unnamed hamp hsemicolon hbody, fun digits n hn => ?_⟩
  · have hs := decode_written h []
    rwa [List.append_nil, show decode [] = [] from rfl, List.append_nil] at hs
  · have hvalid : ¬n.isValidChar := by
      rw [Nat.isValidChar]
      omega
    exact ⟨fun h => not_names_decimal h hvalid, fun h => not_names_hex h hvalid⟩

/-- Zeros in front count for nothing, an ampersand that was written as a reference begins none, and
half of a surrogate pair is no character. -/
theorem decode_references_nested :
    decode "&#0060;&amp;lt;".toList = "<&lt;".toList ∧
      decode "&lt&#xD800;&lt;".toList = "&lt&#xD800;<".toList := by
  have hwrites : List.Forall₂ Writes "<&lt;".toList
      [reference "#0060".toList, reference "amp".toList, ['l'], ['t'], [';']] :=
    .cons (.reference (.decimal ⟨by decide, [0, 0, 6, 0],
      .cons rfl (.cons rfl (.cons rfl (.cons rfl .nil))), rfl⟩)) <|
    .cons (.reference .amp) <| .cons (.itself (by decide)) <| .cons (.itself (by decide)) <|
    .cons (.itself (by decide)) .nil
  have hdigits : Numeral 16 HexDigit "D800".toList 0xd800 :=
    ⟨by decide, [13, 8, 0, 0], .cons (.inr rfl) (.cons (.inl rfl) (.cons (.inl rfl)
      (.cons (.inl rfl) .nil))), rfl⟩
  obtain ⟨hwritten, -, hunnamed, hnumber⟩ := decode_references
  exact ⟨(hwritten _ _ hwrites).1, hunnamed "#xD800".toList (by decide) (by decide)
    ((hnumber _ _ (by decide)).2 hdigits) "&lt".toList "&lt;".toList⟩

end Markup

end KeyTrace
