import KeyTrace.Toml.Quoting
import KeyTrace.Toml.Reader
import Mathlib.Tactic.SplitIfs

/-!
# Reading TOML strings that were written

Each form in which a string is written is read as that string, if no quote comes right after it.
A string of one line holds a code for each character, which is the character itself or an escape.
In a string of several lines quotes stand for themselves as long as there are not three of them in
a row, counting those before: so what ends the string is found, although up to two quotes may come
right before the three that end it.

## Main definitions

* `Toml.LineCode`, `Toml.BlockCode`: what stands for a character in a string.
* `Toml.BlockText`: what stands for a text in a string of several lines.

## Main results

* `Toml.readEscape_codeEscape`: the escapes of control characters.
* `Toml.readString_escapeFrom`, `Toml.readString_plain`: strings of one line, with escapes and
  without.
* `Toml.readString_block`: strings of several lines.
* `Toml.readValue_quoteChars`: a string is read as it was written.
-/

namespace KeyTrace

namespace Toml

/-! ### Escapes -/

theorem readCode_append {n : Nat} {d : List Char} {c : Char} (hlen : d.length = n)
    (hhex : (d.all fun c => (Pattern.hexDigit? c).isSome) = true)
    (hc : Pattern.scalar? (TomlWord.valueOf 16 d) = some c) (rest : List Char) :
    readCode n (d ++ rest) = some (c, rest) := by
  have htake : (d ++ rest).take n = d := hlen ▸ List.take_left
  have hdrop : (d ++ rest).drop n = rest := hlen ▸ List.drop_left
  rw [readCode, htake, hdrop, hlen, hhex, hc]
  simp

/-- The digits of the escapes of control characters. -/
theorem codeEscape_digits : ∀ n < 128, needsCode (Char.ofNat n) = true →
    (codeEscape (Char.ofNat n)).take 2 = ['\\', 'u'] ∧
    ((codeEscape (Char.ofNat n)).drop 2).length = 4 ∧
    (((codeEscape (Char.ofNat n)).drop 2).all fun c => (Pattern.hexDigit? c).isSome) = true ∧
    Pattern.scalar? (TomlWord.valueOf 16 ((codeEscape (Char.ofNat n)).drop 2)) =
      some (Char.ofNat n) := by
  decide +kernel

theorem toNat_lt_of_needsCode {c : Char} (h : needsCode c = true) : c.toNat < 128 := by
  simp only [needsCode, Bool.or_eq_true, Bool.and_eq_true, decide_eq_true_eq, beq_iff_eq] at h
  rcases h with ⟨⟨h, -⟩, -⟩ | rfl
  · omega
  · decide

/-- **The escape of a control character is read as that character.** -/
theorem readEscape_codeEscape {c : Char} (h : needsCode c = true) :
    ∃ d, codeEscape c = '\\' :: 'u' :: d ∧
      ∀ rest, readEscape ('u' :: (d ++ rest)) = some (c, rest) := by
  have hc := codeEscape_digits c.toNat (toNat_lt_of_needsCode h)
  rw [Char.ofNat_toNat] at hc
  obtain ⟨htake, hlen, hhex, hvalue⟩ := hc h
  refine ⟨(codeEscape c).drop 2, ?_, fun rest => ?_⟩
  · have hsplit := List.take_append_drop 2 (codeEscape c)
    rw [htake] at hsplit
    exact hsplit.symm
  · exact readCode_append hlen hhex hvalue rest

/-- A character that needs no escape of its code point. -/
theorem isPlain_of_not_needsCode {c : Char} (h : needsCode c = false) (hline : c ≠ '\n') :
    isPlain c = true := by
  simp only [needsCode, Bool.or_eq_false_iff, Bool.and_eq_false_iff, decide_eq_false_iff_not,
    bne_eq_false_iff_eq, beq_eq_false_iff_ne] at h
  simp only [isPlain, Bool.or_eq_true, Bool.and_eq_true, decide_eq_true_eq, beq_iff_eq,
    bne_iff_ne]
  obtain ⟨(h | rfl) | rfl, hdel⟩ := h
  · exact Or.inr ⟨by omega, hdel⟩
  · exact Or.inl rfl
  · exact absurd rfl hline

/-- What is written for a character that is no quote: the character itself, or a backslash and more
that is read as the character. -/
theorem escapeChar_cases (several : Bool) (c : Char) :
    (escapeChar several c = [c] ∧ c ≠ '\\' ∧ (isPlain c = true ∨ several = true ∧ c = '\n')) ∨
    ∃ k d, escapeChar several c = '\\' :: k :: d ∧ k ∉ [' ', '\t', '\n', '\r'] ∧
      ∀ rest, readEscape (k :: (d ++ rest)) = some (c, rest) := by
  rw [escapeChar]
  split_ifs with hb ht hn hseveral hf hr hbackslash hcode
  · exact Or.inr ⟨'b', [], rfl, by decide, fun rest => by rw [beq_iff_eq.1 hb]; rfl⟩
  · exact Or.inr ⟨'t', [], rfl, by decide, fun rest => by rw [beq_iff_eq.1 ht]; rfl⟩
  · rw [beq_iff_eq.1 hn]
    exact Or.inl ⟨rfl, by decide, Or.inr ⟨hseveral, rfl⟩⟩
  · exact Or.inr ⟨'n', [], rfl, by decide, fun rest => by rw [beq_iff_eq.1 hn]; rfl⟩
  · exact Or.inr ⟨'f', [], rfl, by decide, fun rest => by rw [beq_iff_eq.1 hf]; rfl⟩
  · exact Or.inr ⟨'r', [], rfl, by decide, fun rest => by rw [beq_iff_eq.1 hr]; rfl⟩
  · exact Or.inr ⟨'\\', [], rfl, by decide, fun rest => by rw [beq_iff_eq.1 hbackslash]; rfl⟩
  · obtain ⟨d, hd, hread⟩ := readEscape_codeEscape hcode
    exact Or.inr ⟨'u', d, hd, by decide, hread⟩
  · refine Or.inl ⟨rfl, by simpa using hbackslash, Or.inl ?_⟩
    exact isPlain_of_not_needsCode (by simpa using hcode) (by simpa using hn)

/-! ### Strings of one line -/

/-- What is read as one character in a string of one line. -/
def LineCode (quote : Char) (code : List Char) (c : Char) : Prop :=
  ∀ fuel rest, readLineString quote (fuel + 1) (code ++ rest) =
    (readLineString quote fuel rest).map fun (s, left) => (c :: s, left)

theorem lineCode_self {quote c : Char} (hquote : c ≠ quote)
    (hbackslash : c = '\\' → quote ≠ '"') (hplain : isPlain c = true) :
    LineCode quote [c] c := by
  intro fuel rest
  have hne : (c == quote) = false := by simpa using hquote
  have hno : (c == '\\' && quote == '"') = false := by
    by_cases hc : c = '\\'
    · have hq : (quote == '"') = false := by simpa using hbackslash hc
      rw [hq, Bool.and_false]
    · have hc : (c == '\\') = false := by simpa using hc
      rw [hc, Bool.false_and]
  simp only [List.singleton_append, readLineString, hne, hno, hplain, Bool.false_eq_true, if_false,
    if_true, Option.bind_some]

theorem lineCode_escape {c k : Char} {d : List Char}
    (h : ∀ rest, readEscape (k :: (d ++ rest)) = some (c, rest)) :
    LineCode '"' ('\\' :: k :: d) c := by
  intro fuel rest
  have hno : ('\\' == '"') = false := rfl
  have hyes : ('\\' == '\\' && '"' == '"') = true := rfl
  simp only [List.cons_append, readLineString, hno, hyes, Bool.false_eq_true, if_false, if_true, h,
    Option.bind_some]

theorem lineCode_escapeChar {c : Char} (h : c ≠ '"') : LineCode '"' (escapeChar false c) c := by
  rcases escapeChar_cases false c with
    ⟨hself, hbackslash, hplain | ⟨hno, -⟩⟩ | ⟨k, d, hcode, -, hread⟩
  · rw [hself]
    exact lineCode_self h (fun hc => absurd hc hbackslash) hplain
  · cases hno
  · rw [hcode]
    exact lineCode_escape hread

/-- The end of a string of one line. -/
theorem readLineString_quote (quote : Char) (fuel : Nat) (rest : List Char) :
    readLineString quote (fuel + 1) (quote :: rest) = some ([], rest) := by
  rw [readLineString, if_pos (beq_self_eq_true quote)]

/-- A string between double quotes is read character by character. -/
theorem readLineString_escapeFrom (s rest : List Char) (quotes : Nat) {fuel : Nat}
    (h : s.length < fuel) :
    readLineString '"' fuel (escapeFrom false quotes s ++ '"' :: rest) = some (s, rest) := by
  obtain ⟨fuel, rfl⟩ : ∃ n, fuel = n + 1 := ⟨fuel - 1, by omega⟩
  induction s generalizing quotes fuel with
  | nil => exact readLineString_quote ..
  | cons c s ih =>
    obtain ⟨fuel, rfl⟩ : ∃ n, fuel = n + 1 := ⟨fuel - 1, by rw [List.length_cons] at h; omega⟩
    have hlen : s.length < fuel + 1 := by
      rw [List.length_cons] at h
      omega
    rw [escapeFrom]
    by_cases hc : c = '"'
    · subst hc
      have hcode : LineCode '"' ['\\', '"'] '"' := lineCode_escape fun _ => rfl
      rw [if_pos (beq_self_eq_true _), if_neg Bool.false_ne_true, if_pos (Nat.zero_le _)]
      show readLineString '"' (fuel + 1 + 1)
        (['\\', '"'] ++ (escapeFrom false 0 s ++ '"' :: rest)) = _
      rw [hcode, ih 0 fuel hlen]
      rfl
    · rw [if_neg (by simpa using hc), List.append_assoc, lineCode_escapeChar hc, ih 0 fuel hlen]
      rfl

/-- A string between single quotes is read as it stands. -/
theorem readLineString_plain {s : List Char}
    (hs : ∀ c ∈ s, c ≠ '\'' ∧ isPlain c = true) (rest : List Char) {fuel : Nat}
    (h : s.length < fuel) : readLineString '\'' fuel (s ++ '\'' :: rest) = some (s, rest) := by
  obtain ⟨fuel, rfl⟩ : ∃ n, fuel = n + 1 := ⟨fuel - 1, by omega⟩
  induction s generalizing fuel with
  | nil => exact readLineString_quote ..
  | cons c s ih =>
    obtain ⟨fuel, rfl⟩ : ∃ n, fuel = n + 1 := ⟨fuel - 1, by rw [List.length_cons] at h; omega⟩
    have hlen : s.length < fuel + 1 := by
      rw [List.length_cons] at h
      omega
    obtain ⟨hc, hplain⟩ := hs c List.mem_cons_self
    have hcode : LineCode '\'' [c] c := lineCode_self hc (fun _ => by decide) hplain
    show readLineString '\'' (fuel + 1 + 1) ([c] ++ (s ++ '\'' :: rest)) = _
    rw [hcode, ih (fun x hx => hs x (List.mem_cons_of_mem c hx)) fuel hlen]
    rfl

/-- A string is one of one line, unless two further quotes stand at its start. -/
theorem readString_eq_readLineString {quote : Char} {s : List Char}
    (h : ¬[quote, quote] <+: s) : readString quote s = readLineString quote (s.length + 1) s := by
  rw [readString.eq_def]
  split
  · rename_i a b rest
    rw [if_neg]
    intro hab
    simp only [Bool.and_eq_true, beq_iff_eq] at hab
    exact h ⟨rest, by rw [hab.1, hab.2]; rfl⟩
  · rfl

/-! ### Strings of several lines -/

/-- What is read as one character in a string of several lines, and does not begin with a quote. -/
structure BlockCode (quote : Char) (code : List Char) (c : Char) : Prop where
  ne_nil : code ≠ []
  noQuote : ∀ rest, (code ++ rest).takeWhile (· == quote) = []
  read : ∀ fuel rest, readBlockString quote (fuel + 1) (code ++ rest) =
    (readBlockString quote fuel rest).map fun (s, left) => (c :: s, left)

theorem blockCode_self {quote c : Char} (hquote : c ≠ quote)
    (hbackslash : c = '\\' → quote ≠ '"') (hplain : isPlain c = true ∨ c = '\n') :
    BlockCode quote [c] c := by
  have hne : (c == quote) = false := by simpa using hquote
  refine ⟨by simp, fun rest => List.takeWhile_cons_of_neg (by simp [hne]), fun fuel rest => ?_⟩
  have hno : (c == '\\' && quote == '"') = false := by
    by_cases hc : c = '\\'
    · have hq : (quote == '"') = false := by simpa using hbackslash hc
      rw [hq, Bool.and_false]
    · have hc : (c == '\\') = false := by simpa using hc
      rw [hc, Bool.false_and]
  have hkept : (isPlain c || c == '\n' || (c == '\r' && rest.head? == some '\n')) = true := by
    rcases hplain with hplain | rfl
    · rw [hplain, Bool.true_or, Bool.true_or]
    · rfl
  show readBlockString quote (fuel + 1) (c :: rest) = _
  rw [readBlockString, if_neg (by simp [hne]), if_neg (by simp [hno]), if_pos hkept]

theorem lineEnd?_cons {c : Char} (hfeed : c ≠ '\n') (hreturn : c ≠ '\r') (rest : List Char) :
    lineEnd? (c :: rest) = none := by
  rw [lineEnd?.eq_def]
  split
  · exact absurd (List.cons.inj ‹_›).1 hfeed
  · exact absurd (List.cons.inj ‹_›).1 hreturn
  · rfl

/-- A backslash before something that is no blank and no line end begins an escape. -/
theorem foldedLine?_cons {k : Char} (h : k ∉ [' ', '\t', '\n', '\r']) (rest : List Char) :
    foldedLine? (k :: rest) = none := by
  simp only [List.mem_cons, List.not_mem_nil, or_false, not_or] at h
  obtain ⟨hspace, htab, hfeed, hreturn⟩ := h
  have hblank : isBlank k = false := by simp [isBlank, hspace, htab]
  have hdrop : dropBlanks (k :: rest) = k :: rest := List.dropWhile_cons_of_neg (by simp [hblank])
  rw [foldedLine?, hdrop, lineEnd?_cons hfeed hreturn]
  rfl

theorem blockCode_escape {c k : Char} {d : List Char} (hk : k ∉ [' ', '\t', '\n', '\r'])
    (h : ∀ rest, readEscape (k :: (d ++ rest)) = some (c, rest)) :
    BlockCode '"' ('\\' :: k :: d) c := by
  refine ⟨by simp, fun rest => List.takeWhile_cons_of_neg (by decide), fun fuel rest => ?_⟩
  show readBlockString '"' (fuel + 1) ('\\' :: k :: (d ++ rest)) = _
  rw [readBlockString, if_neg (by decide), if_pos (by decide), foldedLine?_cons hk]
  dsimp only
  rw [h]
  rfl

theorem blockCode_escapeChar {c : Char} (h : c ≠ '"') : BlockCode '"' (escapeChar true c) c := by
  rcases escapeChar_cases true c with ⟨hself, hbackslash, hplain⟩ | ⟨k, d, hcode, hk, hread⟩
  · rw [hself]
    exact blockCode_self h (fun hc => absurd hc hbackslash) (hplain.imp_right And.right)
  · rw [hcode]
    exact blockCode_escape hk hread

/-- What stands for a text in a string of several lines, right after `quotes` quotes: a code for
each character, or quotes of which no three stand in a row. -/
inductive BlockText (quote : Char) : Nat → List Char → List Char → Prop
  | nil {quotes : Nat} : BlockText quote quotes [] []
  | quote {quotes : Nat} {text s : List Char} (h : quotes < 2)
      (ht : BlockText quote (quotes + 1) text s) :
      BlockText quote quotes (quote :: text) (quote :: s)
  | code {quotes : Nat} {code text s : List Char} {c : Char} (hc : BlockCode quote code c)
      (ht : BlockText quote 0 text s) : BlockText quote quotes (code ++ text) (c :: s)

theorem BlockText.length_le {quote : Char} {quotes : Nat} {text s : List Char}
    (h : BlockText quote quotes text s) : s.length ≤ text.length := by
  induction h with
  | nil => exact Nat.le_refl _
  | quote _ _ ih => exact Nat.succ_le_succ ih
  | code hc _ ih =>
    have hpos := List.length_pos_iff.2 hc.ne_nil
    rw [List.length_append, List.length_cons]
    omega

theorem blockText_escapeFrom (s : List Char) (quotes : Nat) :
    BlockText '"' quotes (escapeFrom true quotes s) s := by
  induction s generalizing quotes with
  | nil => exact .nil
  | cons c s ih =>
    rw [escapeFrom]
    by_cases hc : c = '"'
    · subst hc
      have hcode : BlockCode '"' ['\\', '"'] '"' :=
        blockCode_escape (by decide) (d := []) fun _ => rfl
      rw [if_pos (beq_self_eq_true _), if_pos rfl]
      by_cases hle : 2 ≤ quotes
      · rw [if_pos hle]
        exact .code hcode (ih 0)
      · rw [if_neg hle]
        exact .quote (Nat.lt_of_not_le hle) (ih (quotes + 1))
    · rw [if_neg (by simpa using hc)]
      exact .code (blockCode_escapeChar hc) (ih 0)

theorem le_runFrom (c : Char) (current : Nat) (s : List Char) : current ≤ runFrom c current s := by
  induction s generalizing current with
  | nil => exact Nat.le_refl _
  | cons d s ih =>
    rw [runFrom]
    split
    · exact Nat.le_trans (Nat.le_succ _) (ih (current + 1))
    · exact Nat.le_max_left _ _

/-- A text without long runs of quotes can stand as it is. -/
theorem blockText_self {quote : Char} {s : List Char} {quotes : Nat}
    (hs : ∀ c ∈ s, c ≠ quote → BlockCode quote [c] c) (h : runFrom quote quotes s ≤ 2) :
    BlockText quote quotes s s := by
  induction s generalizing quotes with
  | nil => exact .nil
  | cons c s ih =>
    have hrest : ∀ d ∈ s, d ≠ quote → BlockCode quote [d] d :=
      fun d hd => hs d (List.mem_cons_of_mem c hd)
    rw [runFrom] at h
    by_cases hc : c = quote
    · subst hc
      rw [if_pos (beq_self_eq_true _)] at h
      have hle := le_runFrom c (quotes + 1) s
      exact .quote (by omega) (ih hrest h)
    · rw [if_neg (by simpa using hc)] at h
      have hle := Nat.le_max_right quotes (runFrom quote 0 s)
      exact .code (hs c List.mem_cons_self hc) (ih hrest (by omega))

/-- Right after some quotes, the text either goes on with a few more and then ends, or something
else comes before there are three. -/
theorem BlockText.quotes {quote : Char} {quotes : Nat} {text s : List Char}
    (h : BlockText quote quotes text s) (hq : quotes ≤ 2) :
    (∃ k, text = List.replicate k quote ∧ s = List.replicate k quote ∧ quotes + k ≤ 2) ∨
    ∀ rest, quotes + ((text ++ rest).takeWhile (· == quote)).length ≤ 2 := by
  induction h with
  | nil => exact Or.inl ⟨0, rfl, rfl, hq⟩
  | quote hlt _ ih =>
    rcases ih hlt with ⟨k, rfl, rfl, hk⟩ | hfew
    · exact Or.inl ⟨k + 1, rfl, rfl, by omega⟩
    · refine Or.inr fun rest => ?_
      have hrest := hfew rest
      rw [List.cons_append, List.takeWhile_cons_of_pos (by simp), List.length_cons]
      omega
  | code hc =>
    refine Or.inr fun rest => ?_
    rw [List.append_assoc, hc.noQuote]
    exact hq

/-- The end of a string of several lines, with quotes before it. -/
theorem readBlockString_end {quote : Char} {k : Nat} (hk : k ≤ 2) {rest : List Char}
    (hrest : rest.head? ≠ some quote) (fuel : Nat) :
    readBlockString quote (fuel + 1)
      (List.replicate k quote ++ quote :: quote :: quote :: rest) =
      some (List.replicate k quote, rest) := by
  have hnone : rest.takeWhile (· == quote) = [] := by
    cases rest with
    | nil => rfl
    | cons d rest => exact List.takeWhile_cons_of_neg (by simpa using hrest)
  have hcases : k = 0 ∨ k = 1 ∨ k = 2 := by omega
  rcases hcases with rfl | rfl | rfl <;> simp [readBlockString, List.replicate, hnone]

/-- A quote that is not one of three. -/
theorem readBlockString_quote {quote : Char} {rest : List Char}
    (h : (rest.takeWhile (· == quote)).length < 2) (fuel : Nat) :
    readBlockString quote (fuel + 1) (quote :: rest) =
      (readBlockString quote fuel rest).map fun (s, left) => (quote :: s, left) := by
  rw [readBlockString, if_pos (beq_self_eq_true quote)]
  exact if_neg (by omega)

/-- **A string of several lines is read as the text that its codes stand for.** -/
theorem BlockText.read {quote : Char} {quotes : Nat} {text s rest : List Char}
    (h : BlockText quote quotes text s) (hq : quotes ≤ 2) (hrest : rest.head? ≠ some quote)
    {fuel : Nat} (hfuel : s.length < fuel) :
    readBlockString quote fuel (text ++ quote :: quote :: quote :: rest) = some (s, rest) := by
  obtain ⟨fuel, rfl⟩ : ∃ n, fuel = n + 1 := ⟨fuel - 1, by omega⟩
  induction h generalizing fuel with
  | nil => exact readBlockString_end (Nat.zero_le 2) hrest fuel
  | @quote quotes text s hlt ht ih =>
    obtain ⟨fuel, rfl⟩ : ∃ n, fuel = n + 1 :=
      ⟨fuel - 1, by rw [List.length_cons] at hfuel; omega⟩
    rcases ht.quotes hlt with ⟨k, rfl, rfl, hk⟩ | hfew
    · exact readBlockString_end (k := k + 1) (by omega) hrest (fuel + 1)
    · have hrun := hfew (quote :: quote :: quote :: rest)
      rw [List.cons_append, readBlockString_quote (by omega), ih hlt fuel]
      · rfl
      · rw [List.length_cons] at hfuel
        omega
  | code hc _ ih =>
    obtain ⟨fuel, rfl⟩ : ∃ n, fuel = n + 1 :=
      ⟨fuel - 1, by rw [List.length_cons] at hfuel; omega⟩
    rw [List.append_assoc, hc.read, ih (Nat.zero_le 2) fuel]
    · rfl
    · rw [List.length_cons] at hfuel
      omega

/-! ### The four forms -/

/-- A string of one line does not look like one of several lines. -/
theorem not_isPrefix_quotes {quote : Char} {text rest : List Char}
    (htext : text.head? ≠ some quote) (hrest : rest.head? ≠ some quote) :
    ¬[quote, quote] <+: text ++ quote :: rest := by
  rintro ⟨more, hmore⟩
  cases text with
  | nil =>
    have hrest' : quote :: more = rest := (List.cons.inj hmore).2
    exact hrest (by rw [← hrest']; rfl)
  | cons c text =>
    have hc : quote = c := (List.cons.inj hmore).1
    exact htext (by rw [hc]; rfl)

theorem head?_escapeFrom (s : List Char) (quotes : Nat) :
    (escapeFrom false quotes s).head? ≠ some '"' := by
  cases s with
  | nil => nofun
  | cons c s =>
    rw [escapeFrom]
    by_cases hc : c = '"'
    · rw [if_pos (by simpa using hc), if_neg Bool.false_ne_true, if_pos (Nat.zero_le _)]
      simp
    · rw [if_neg (by simpa using hc)]
      rcases escapeChar_cases false c with ⟨hself, -⟩ | ⟨k, d, hcode, -⟩
      · rw [hself]
        simpa using hc
      · rw [hcode]
        simp

/-- A string between double quotes. -/
theorem readString_escapeFrom (s : List Char) {rest : List Char} (hrest : rest.head? ≠ some '"') :
    readString '"' (escapeFrom false 0 s ++ '"' :: rest) = some (s, rest) := by
  have hlen : ∀ (s : List Char) quotes, s.length ≤ (escapeFrom false quotes s).length := by
    intro s
    induction s with
    | nil => exact fun _ => Nat.le_refl _
    | cons c s ih =>
      intro quotes
      have hle := ih 0
      rw [escapeFrom]
      split
      · simp
        omega
      · rcases escapeChar_cases false c with ⟨hself, -⟩ | ⟨k, d, hcode, -⟩
        · rw [hself]
          simpa using hle
        · rw [hcode]
          simp
          omega
  rw [readString_eq_readLineString (not_isPrefix_quotes (head?_escapeFrom s 0) hrest)]
  refine readLineString_escapeFrom s rest 0 ?_
  have hle := hlen s 0
  rw [List.length_append]
  omega

/-- A string between single quotes. -/
theorem readString_plain {s rest : List Char} (hs : ∀ c ∈ s, c ≠ '\'' ∧ isPlain c = true)
    (hrest : rest.head? ≠ some '\'') :
    readString '\'' (s ++ '\'' :: rest) = some (s, rest) := by
  have hhead : s.head? ≠ some '\'' := by
    intro h
    exact (hs _ (List.mem_of_mem_head? h)).1 rfl
  rw [readString_eq_readLineString (not_isPrefix_quotes hhead hrest)]
  refine readLineString_plain hs rest ?_
  rw [List.length_append]
  omega

/-- A string of several lines, which may start on a line of its own. -/
theorem readString_block {quote : Char} {text s rest : List Char} {startsLine : Bool}
    (h : BlockText quote 0 text s) (hrest : rest.head? ≠ some quote)
    (hstart : startsLine = false → lineEnd? (text ++ quote :: quote :: quote :: rest) = none) :
    readString quote ((block quote startsLine text).tail ++ rest) = some (s, rest) := by
  have hread : readBlockString quote ((text ++ quote :: quote :: quote :: rest).length + 1)
      (text ++ quote :: quote :: quote :: rest) = some (s, rest) := by
    refine h.read (Nat.zero_le 2) hrest ?_
    have hle := h.length_le
    rw [List.length_append]
    omega
  cases startsLine with
  | true =>
    have hform : (block quote true text).tail ++ rest =
        quote :: quote :: '\n' :: (text ++ quote :: quote :: quote :: rest) := by
      simp [block]
    rw [hform, readString, if_pos (by simp)]
    exact hread
  | false =>
    have hform : (block quote false text).tail ++ rest =
        quote :: quote :: (text ++ quote :: quote :: quote :: rest) := by
      simp [block]
    rw [hform, readString, if_pos (by simp), hstart rfl]
    exact hread

theorem not_mem_of_runFrom {c : Char} {s : List Char} (h : runFrom c 0 s = 0) : c ∉ s := by
  induction s with
  | nil => nofun
  | cons d s ih =>
    rw [runFrom] at h
    by_cases hd : d = c
    · rw [if_pos (by simpa using hd)] at h
      have hle := le_runFrom c (0 + 1) s
      omega
    · rw [if_neg (by simpa using hd)] at h
      have hle := Nat.le_max_right 0 (runFrom c 0 s)
      rw [List.mem_cons, not_or]
      exact ⟨Ne.symm hd, ih (by omega)⟩

/-- A text that starts on the line of the quotes does not begin with the end of a line. -/
theorem lineEnd?_append {quote : Char} {text : List Char} (hquote : quote ≠ '\n' ∧ quote ≠ '\r')
    (h : ∀ c, text.head? = some c → c ≠ '\n' ∧ c ≠ '\r') (rest : List Char) :
    lineEnd? (text ++ quote :: rest) = none := by
  cases text with
  | nil => exact lineEnd?_cons hquote.1 hquote.2 rest
  | cons c text =>
    obtain ⟨hfeed, hreturn⟩ := h c rfl
    exact lineEnd?_cons hfeed hreturn _

theorem head?_escapeFrom_block {s : List Char} (hs : '\n' ∉ s) (c : Char)
    (h : (escapeFrom true 0 s).head? = some c) : c ≠ '\n' ∧ c ≠ '\r' := by
  cases s with
  | nil => cases h
  | cons d s =>
    rw [escapeFrom] at h
    by_cases hd : d = '"'
    · rw [if_pos (by simpa using hd), if_pos rfl, if_neg (by decide)] at h
      obtain rfl := Option.some.inj h
      decide
    · rw [if_neg (by simpa using hd)] at h
      rcases escapeChar_cases true d with ⟨hself, -, hplain⟩ | ⟨k, e, hcode, -⟩
      · rw [hself] at h
        obtain rfl := Option.some.inj h
        have hfeed : d ≠ '\n' := fun hd => hs (hd ▸ List.mem_cons_self)
        refine ⟨hfeed, ?_⟩
        rintro rfl
        rcases hplain with hplain | ⟨-, heq⟩
        · cases hplain
        · exact hfeed heq
      · rw [hcode] at h
        obtain rfl := Option.some.inj h
        decide

/-- Several lines with escapes, which start on the line of the quotes only if there is one line. -/
theorem readString_escapedBlock (s : List Char) {rest : List Char} {startsLine : Bool}
    (hstart : startsLine = false → '\n' ∉ s) (hrest : rest.head? ≠ some '"') :
    readString '"' ((block '"' startsLine (escapeFrom true 0 s)).tail ++ rest) =
      some (s, rest) := by
  refine readString_block (blockText_escapeFrom s 0) hrest fun hno => ?_
  exact lineEnd?_append (by decide) (head?_escapeFrom_block (hstart hno)) _

/-- Several lines without escapes, likewise. -/
theorem readString_plainBlock {s rest : List Char} {startsLine : Bool}
    (hs : ∀ c ∈ s, isPlain c = true ∨ c = '\n') (hquotes : runFrom '\'' 0 s ≤ 2)
    (hstart : startsLine = false → '\n' ∉ s) (hrest : rest.head? ≠ some '\'') :
    readString '\'' ((block '\'' startsLine s).tail ++ rest) = some (s, rest) := by
  have htext : BlockText '\'' 0 s s :=
    blockText_self (fun c hc hquote => blockCode_self hquote (fun _ => by decide) (hs c hc)) hquotes
  refine readString_block htext hrest fun hno => ?_
  refine lineEnd?_append (by decide) (fun c hc => ?_) _
  have hmem := List.mem_of_mem_head? hc
  refine ⟨fun hfeed => hstart hno (hfeed ▸ hmem), ?_⟩
  rintro rfl
  rcases hs _ hmem with hc | hc <;> cases hc

theorem isPlain_of_no_codes {s : List Char} (h : s.any needsCode = false) :
    ∀ c ∈ s, isPlain c = true ∨ c = '\n' := by
  intro c hc
  by_cases hfeed : c = '\n'
  · exact Or.inr hfeed
  · have hno : needsCode c = false := by simpa using List.any_eq_false.1 h c hc
    exact Or.inl (isPlain_of_not_needsCode hno hfeed)

/-- **A string is read as it was written**, whatever its form. -/
theorem exists_readString_quoteChars (s : List Char) :
    ∃ quote text, (quote = '"' ∨ quote = '\'') ∧ quoteChars s = quote :: text ∧
      ∀ rest, rest.head? ≠ some quote → readString quote (text ++ rest) = some (s, rest) := by
  have hescaped : ∀ rest, rest.head? ≠ some '"' →
      readString '"' (escapeFrom false 0 s ++ ['"'] ++ rest) = some (s, rest) := by
    intro rest hrest
    rw [List.append_assoc]
    exact readString_escapeFrom s hrest
  rw [quoteChars]
  split_ifs with hbasic hliteral hlines hliteralLines hany
  · exact ⟨'"', _, Or.inl rfl, rfl, hescaped⟩
  · simp only [Bool.and_eq_true, Bool.not_eq_true', beq_iff_eq] at hliteral
    obtain ⟨⟨hcodes, hsingles⟩, hno⟩ := hliteral
    refine ⟨'\'', s ++ ['\''], Or.inr rfl, rfl, fun rest hrest => ?_⟩
    rw [List.append_assoc]
    refine readString_plain (fun c hc => ⟨?_, ?_⟩) hrest
    · rintro rfl
      exact not_mem_of_runFrom hsingles hc
    · refine (isPlain_of_no_codes hcodes c hc).resolve_right ?_
      rintro rfl
      simp [hc] at hno
  · exact ⟨'"', _, Or.inl rfl, rfl, fun rest =>
      readString_escapedBlock s fun hno => by simpa using hno⟩
  · simp only [Bool.and_eq_true, Bool.not_eq_true', decide_eq_true_eq] at hliteralLines
    obtain ⟨hcodes, hsingles⟩ := hliteralLines
    exact ⟨'\'', _, Or.inr rfl, rfl, fun rest =>
      readString_plainBlock (isPlain_of_no_codes hcodes) hsingles fun hno => by simpa using hno⟩
  · exact ⟨'"', _, Or.inl rfl, rfl, fun rest => readString_escapedBlock s nofun⟩
  · exact ⟨'"', _, Or.inl rfl, rfl, hescaped⟩

/-- No quote comes next. -/
def NoQuote (rest : List Char) : Prop := rest.head? ≠ some '"' ∧ rest.head? ≠ some '\''

theorem readValue_quoteChars (s : List Char) {rest : List Char} (hrest : NoQuote rest)
    (fuel depth : Nat) :
    readValue (fuel + 1) depth (quoteChars s ++ rest) = some (.string (String.ofList s), rest) := by
  obtain ⟨quote, text, rfl | rfl, hform, hread⟩ := exists_readString_quoteChars s
  · rw [hform, List.cons_append, readValue, hread rest hrest.1]
    rfl
  · rw [hform, List.cons_append, readValue, hread rest hrest.2]
    rfl

end Toml

end KeyTrace
