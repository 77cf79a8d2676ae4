import KeyTrace.Proofs.Toml.Strings

/-!
# Reading TOML values that were written

Truth values and numbers are written as words, and an array of strings holds each of them on a line
of its own when there are several. Each is read as it was written, up to the line end, comma or
bracket that comes next.

## Main definitions

* `Toml.EndsValue`: what may come right after a value.
* `Toml.IsWritten`: what is written is read as a value, with enough fuel.

## Main results

* `TomlWord.value?_toDigits`: a number of at most 64 bits is read as it was written.
* `Toml.isWritten_true`, `Toml.isWritten_false`, `Toml.isWritten_toString`, `Toml.isWritten_quote`:
  truth values, numbers and strings.
* `Toml.isWritten_noItems`, `Toml.isWritten_oneItem`, `Toml.isWritten_lines`: arrays of strings.
-/

namespace KeyTrace

/-! ### Numbers -/

namespace TomlWord

theorem toNat_of_isDigit {c : Char} (h : c.isDigit = true) : 48 ≤ c.toNat ∧ c.toNat ≤ 57 := by
  simpa [Char.isDigit, UInt32.le_iff_toNat_le] using h

theorem isDigit_of_isDigit {c : Char} (h : c.isDigit = true) : isDigit c = true := by
  simpa [isDigit, Char.le_def, UInt32.le_iff_toNat_le] using toNat_of_isDigit h

theorem hexDigit?_of_isDigit {c : Char} (h : c.isDigit = true) :
    Pattern.hexDigit? c = some (c.toNat - 48) :=
  if_pos (isDigit_of_isDigit h)

variable {s : List Char}

/-- Digits without underscores between them. -/
theorem digits?_eq_self (h : ∀ c ∈ s, c.isDigit = true) (hs : s ≠ []) :
    digits? isDigit s = some s := by
  induction s with
  | nil => exact absurd rfl hs
  | cons c rest ih =>
    have hc : isDigit c = true := isDigit_of_isDigit (h c List.mem_cons_self)
    have hrest : ∀ d ∈ rest, d.isDigit = true := fun d hd => h d (List.mem_cons_of_mem c hd)
    rw [digits?.eq_def]
    split
    · contradiction
    · rename_i heq
      obtain ⟨rfl, rfl⟩ := List.cons.inj heq
      rw [if_pos hc]
    · rename_i heq
      obtain ⟨rfl, rfl⟩ := List.cons.inj heq
      cases hrest '_' List.mem_cons_self
    · rename_i hone _ heq
      obtain ⟨rfl, rfl⟩ := List.cons.inj heq
      rw [if_pos hc, ih hrest]
      · rfl
      · rintro rfl
        exact hone rfl

theorem valueOf_eq_ofDigitChars (h : ∀ c ∈ s, c.isDigit = true) (n : Nat) :
    s.foldl (fun n c => 10 * n + (Pattern.hexDigit? c).getD 0) n = Nat.ofDigitChars 10 s n := by
  induction s generalizing n with
  | nil => rfl
  | cons c rest ih =>
    have hc : (Pattern.hexDigit? c).getD 0 = c.toNat - '0'.toNat := by
      rw [hexDigit?_of_isDigit (h c List.mem_cons_self)]
      rfl
    rw [List.foldl_cons, Nat.ofDigitChars_cons, hc]
    exact ih (fun d hd => h d (List.mem_cons_of_mem c hd)) _

theorem head?_toDigits (n : Nat) : (Nat.toDigits 10 n).head? = some '0' → n = 0 := by
  induction n using Nat.strongRecOn with
  | ind n ih =>
    intro h
    by_cases hn : n < 10
    · rw [Nat.toDigits_of_lt_base hn] at h
      have hzero : ∀ n < 10, [n.digitChar].head? = some '0' → n = 0 := by decide
      exact hzero n hn h
    · rw [Nat.toDigits_of_base_le (by omega) (by omega)] at h
      cases hmost : Nat.toDigits 10 (n / 10) with
      | nil => exact absurd hmost Nat.toDigits_ne_nil
      | cons c w =>
        have hzero := ih (n / 10) (by omega)
        rw [hmost] at h hzero
        have hzero := hzero h
        omega

/-- The digits of a number have no leading zeros. -/
theorem decimal?_toDigits (n : Nat) : decimal? (Nat.toDigits 10 n) = some (Nat.toDigits 10 n) := by
  have hdigits : ∀ c ∈ Nat.toDigits 10 n, c.isDigit = true :=
    fun c hc => Nat.isDigit_of_mem_toDigits (by omega) (by omega) hc
  rw [decimal?, digits?_eq_self hdigits Nat.toDigits_ne_nil]
  refine if_neg ?_
  intro h
  simp only [Bool.and_eq_true, beq_iff_eq, bne_iff_ne] at h
  obtain ⟨hhead, hlen⟩ := h
  rw [head?_toDigits n hhead] at hlen
  exact hlen rfl

theorem integer?_toDigits (n : Nat) : integer? (Nat.toDigits 10 n) = some (Int.ofNat n) := by
  have hdigits : ∀ c ∈ Nat.toDigits 10 n, c.isDigit = true :=
    fun c hc => Nat.isDigit_of_mem_toDigits (by omega) (by omega) hc
  have hsign : cutSign (Nat.toDigits 10 n) = (none, Nat.toDigits 10 n) := by
    rw [cutSign.eq_def]
    split
    · rename_i heq
      cases hdigits '+' (heq ▸ List.mem_cons_self)
    · rename_i heq
      cases hdigits '-' (heq ▸ List.mem_cons_self)
    · rfl
  rw [integer?.eq_def]
  split
  · rename_i heq
    cases hdigits 'x' (heq ▸ List.mem_cons_of_mem _ List.mem_cons_self)
  · rename_i heq
    cases hdigits 'o' (heq ▸ List.mem_cons_of_mem _ List.mem_cons_self)
  · rename_i heq
    cases hdigits 'b' (heq ▸ List.mem_cons_of_mem _ List.mem_cons_self)
  · rw [hsign]
    dsimp only
    rw [decimal?_toDigits, Option.map_some, valueOf, valueOf_eq_ofDigitChars hdigits,
      Nat.ofDigitChars_toDigits (by omega) (by omega)]
    rfl

/-- **A number of at most 64 bits is read as it was written.** -/
theorem value?_toDigits {n : Nat} (h : n < 18446744073709551616) :
    value? (Nat.toDigits 10 n) = some (.integer n) := by
  have hdigits : ∀ c ∈ Nat.toDigits 10 n, c.isDigit = true :=
    fun c hc => Nat.isDigit_of_mem_toDigits (by omega) (by omega) hc
  have hfirst : ∀ (c : Char) (w : List Char), c.isDigit = false →
      (Nat.toDigits 10 n == c :: w) = false := by
    intro c w hc
    rw [beq_eq_false_iff_ne]
    intro heq
    rw [hdigits c (heq ▸ List.mem_cons_self)] at hc
    cases hc
  have hrange : (leastInteger ≤ Int.ofNat n && Int.ofNat n < integerEnd) = true := by
    have hleast : leastInteger ≤ Int.ofNat n :=
      Int.le_trans (by decide) (Int.natCast_nonneg n)
    have hend : Int.ofNat n < integerEnd :=
      Int.ofNat_lt.2 (Nat.lt_of_lt_of_le h (by decide))
    rw [decide_eq_true hleast, decide_eq_true hend]
    rfl
  rw [value?, if_neg (by rw [hfirst _ _ rfl]; decide), if_neg (by rw [hfirst _ _ rfl]; decide),
    integer?_toDigits]
  dsimp only
  rw [ofInteger, if_pos hrange]
  rfl

end TomlWord

/-! ### Values -/

namespace Toml

/-- What may come right after a value: a comma, a bracket or a line end. -/
def EndsValue (rest : List Char) : Prop :=
  ∃ c more, rest = c :: more ∧ (c = ',' ∨ c = ']' ∨ c = '\n')

theorem EndsValue.noQuote {rest : List Char} (h : EndsValue rest) : NoQuote rest := by
  obtain ⟨c, more, rfl, rfl | rfl | rfl⟩ := h <;> simp [NoQuote]

/-- A character that is no blank and begins neither a comment nor the end of a line. -/
def IsMark (c : Char) : Prop := c ∉ [' ', '\t', '#', '\n', '\r']

instance (c : Char) : Decidable (IsMark c) :=
  inferInstanceAs (Decidable (c ∉ [' ', '\t', '#', '\n', '\r']))

theorem IsMark.isBlank {c : Char} (h : IsMark c) : isBlank c = false := by
  simp only [IsMark, List.mem_cons, List.not_mem_nil, or_false, not_or] at h
  obtain ⟨hspace, htab, -⟩ := h
  simp [Toml.isBlank, hspace, htab]

/-- What is written is read as a value, whatever comes next, if there is fuel for each of its
characters. -/
structure IsWritten (text : List Char) (v : TomlValue) : Prop where
  begins : ∃ c w, text = c :: w ∧ IsMark c
  read : ∀ fuel depth rest, text.length < fuel → 0 < depth → EndsValue rest →
    readValue fuel depth (text ++ rest) = some (v, rest)

/-- A string begins with a quote. -/
theorem exists_quoteChars (s : List Char) :
    ∃ c text, quoteChars s = c :: text ∧ IsMark c ∧ c ≠ ']' := by
  obtain ⟨quote, text, rfl | rfl, hform, -⟩ := exists_readString_quoteChars s
  · exact ⟨'"', text, hform, by decide, by decide⟩
  · exact ⟨'\'', text, hform, by decide, by decide⟩

/-- Strings. -/
theorem isWritten_quote (s : String) : IsWritten (quote s).toList (.string s) := by
  rw [quote, String.toList_ofList]
  obtain ⟨c, text, hform, hmark, -⟩ := exists_quoteChars s.toList
  refine ⟨⟨c, text, hform, hmark⟩, fun fuel depth rest hfuel _ hrest => ?_⟩
  obtain ⟨fuel, rfl⟩ : ∃ n, fuel = n + 1 := ⟨fuel - 1, by omega⟩
  rw [readValue_quoteChars s.toList hrest.noQuote, String.ofList_toList]

/-- A word goes on until the value ends. -/
theorem readWord_append {w rest : List Char} {v : TomlValue} (hw : ∀ c ∈ w, isWordChar c = true)
    (hv : TomlWord.value? w = some v) (hrest : EndsValue rest) :
    readWord (w ++ rest) = some (v, rest) := by
  obtain ⟨c, more, rfl, hc⟩ := hrest
  have hno : isWordChar c = false := by rcases hc with rfl | rfl | rfl <;> rfl
  have htake : (w ++ c :: more).takeWhile isWordChar = w := by
    rw [List.takeWhile_append_of_pos hw, List.takeWhile_cons_of_neg (by simp [hno]),
      List.append_nil]
  have hdrop : (w ++ c :: more).dropWhile isWordChar = c :: more := by
    rw [List.dropWhile_append_of_pos hw, List.dropWhile_cons_of_neg (by simp [hno])]
  rw [readWord, htake, hdrop]
  dsimp only
  split
  · rename_i heq
    obtain ⟨rfl, -⟩ := List.cons.inj heq
    rcases hc with hc | hc | hc <;> cases hc
  · rw [hv]
    rfl

/-- What begins like a word is a word. -/
theorem readValue_eq_readWord {d : Char} (hd : isWordChar d = true) (fuel depth : Nat)
    (s : List Char) : readValue (fuel + 1) depth (d :: s) = readWord (d :: s) := by
  rw [readValue.eq_def]
  dsimp only
  split
  · obtain ⟨rfl, -⟩ := List.cons.inj ‹_›
    cases hd
  · obtain ⟨rfl, -⟩ := List.cons.inj ‹_›
    cases hd
  · obtain ⟨rfl, -⟩ := List.cons.inj ‹_›
    cases hd
  · obtain ⟨rfl, -⟩ := List.cons.inj ‹_›
    cases hd
  · rfl

/-- Words. -/
theorem isWritten_word {w : List Char} {v : TomlValue} (hne : w ≠ [])
    (hall : w.all isWordChar = true) (hv : TomlWord.value? w = some v) : IsWritten w v := by
  have hw := List.all_eq_true.1 hall
  have hmark : ∀ c, isWordChar c = true → IsMark c := by
    intro c hc hmem
    simp only [List.mem_cons, List.not_mem_nil, or_false] at hmem
    rcases hmem with rfl | rfl | rfl | rfl | rfl <;> cases hc
  obtain ⟨d, w, rfl⟩ := List.exists_cons_of_ne_nil hne
  have hd := hw d List.mem_cons_self
  refine ⟨⟨d, w, rfl, hmark d hd⟩, fun fuel depth rest hfuel _ hrest => ?_⟩
  obtain ⟨fuel, rfl⟩ : ∃ n, fuel = n + 1 := ⟨fuel - 1, by omega⟩
  rw [List.cons_append, readValue_eq_readWord hd]
  exact readWord_append hw hv hrest

/-- Truth values. -/
theorem isWritten_true : IsWritten ['t', 'r', 'u', 'e'] (.boolean true) :=
  isWritten_word (by decide) (by decide) rfl

theorem isWritten_false : IsWritten ['f', 'a', 'l', 's', 'e'] (.boolean false) :=
  isWritten_word (by decide) (by decide) rfl

/-- Numbers. -/
theorem isWritten_toString {n : Nat} (h : n < 18446744073709551616) :
    IsWritten (toString n).toList (.integer n) := by
  rw [Nat.toString_eq_ofList_toDigits, String.toList_ofList]
  refine isWritten_word Nat.toDigits_ne_nil (List.all_eq_true.2 fun c hc => ?_)
    (TomlWord.value?_toDigits h)
  have hdigit := TomlWord.isDigit_of_isDigit (Nat.isDigit_of_mem_toDigits (by omega) (by omega) hc)
  rw [TomlWord.isDigit] at hdigit
  simp only [isWordChar, Word.isAsciiWord, hdigit, Bool.or_true, Bool.true_or]

/-! ### Arrays of strings -/

theorem dropBlanks_mark {c : Char} (h : IsMark c) (n : Nat) (rest : List Char) :
    dropBlanks (List.replicate n ' ' ++ c :: rest) = c :: rest := by
  have hspaces : ∀ d ∈ List.replicate n ' ', isBlank d = true := by
    intro d hd
    rw [List.eq_of_mem_replicate hd]
    rfl
  rw [dropBlanks, List.dropWhile_append_of_pos hspaces,
    List.dropWhile_cons_of_neg (by simp [h.isBlank])]

theorem dropComment_mark {c : Char} (h : IsMark c) (n : Nat) (rest : List Char) :
    dropComment (List.replicate n ' ' ++ c :: rest) = c :: rest := by
  rw [dropComment, dropBlanks_mark h]
  split
  · obtain ⟨rfl, -⟩ := List.cons.inj ‹_›
    exact absurd h (by decide)
  · rfl

/-- Blanks before something that is none. -/
theorem dropAll_mark {c : Char} (h : IsMark c) (n : Nat) (rest : List Char) :
    dropAll (List.replicate n ' ' ++ c :: rest) = c :: rest := by
  have hend : lineEnd? (c :: rest) = none := by
    refine lineEnd?_cons ?_ ?_ rest <;> rintro rfl <;> exact absurd h (by decide)
  rw [dropAll, dropLines, dropComment_mark h, hend]

/-- A line end. -/
theorem dropAll_feed (rest : List Char) : dropAll ('\n' :: rest) = dropAll rest := by
  have hfeed : dropComment ('\n' :: rest) = '\n' :: rest := rfl
  rw [dropAll, List.length_cons, dropLines, hfeed]
  rfl

/-- A string with blanks before it is read as an item of an array. -/
theorem readItems_quoteChars (fuel depth n : Nat) (s : List Char) {rest : List Char}
    (hrest : EndsValue rest) :
    readItems (fuel + 1 + 1) depth (List.replicate n ' ' ++ (quoteChars s ++ rest)) =
      match dropAll rest with
      | ',' :: rest => (readItems (fuel + 1) depth rest).map fun (items, left) =>
        (.string (String.ofList s) :: items, left)
      | ']' :: rest => some ([.string (String.ofList s)], rest)
      | _ => none := by
  have hread := readValue_quoteChars s hrest.noQuote fuel depth
  obtain ⟨c, text, hform, hmark, hbracket⟩ := exists_quoteChars s
  rw [hform, List.cons_append] at hread ⊢
  rw [readItems, dropAll_mark hmark]
  split
  · obtain ⟨rfl, -⟩ := List.cons.inj ‹_›
    exact absurd rfl hbracket
  · rw [hread]
    rfl

/-- An item with a comma after it. -/
theorem readItems_comma (fuel depth n : Nat) (s rest : List Char) :
    readItems (fuel + 1 + 1) depth (List.replicate n ' ' ++ (quoteChars s ++ ',' :: rest)) =
      (readItems (fuel + 1) depth rest).map fun (items, left) =>
        (.string (String.ofList s) :: items, left) := by
  have hdrop : dropAll (',' :: rest) = ',' :: rest := dropAll_mark (by decide) 0 rest
  rw [readItems_quoteChars fuel depth n s ⟨',', rest, rfl, Or.inl rfl⟩, hdrop]
  rfl

/-- The last item. -/
theorem readItems_bracket (fuel depth n : Nat) (s rest : List Char) :
    readItems (fuel + 1 + 1) depth (List.replicate n ' ' ++ (quoteChars s ++ ']' :: rest)) =
      some ([.string (String.ofList s)], rest) := by
  have hdrop : dropAll (']' :: rest) = ']' :: rest := dropAll_mark (by decide) 0 rest
  rw [readItems_quoteChars fuel depth n s ⟨']', rest, rfl, Or.inr (Or.inl rfl)⟩, hdrop]
  rfl

/-- The end of the items. -/
theorem readItems_end (fuel depth : Nat) (rest : List Char) :
    readItems (fuel + 1) depth (']' :: rest) = some ([], rest) := by
  have hdrop : dropAll (']' :: rest) = ']' :: rest := dropAll_mark (by decide) 0 rest
  rw [readItems, hdrop]
  rfl

/-- A line end before an item. -/
theorem readItems_feed (fuel depth : Nat) (rest : List Char) :
    readItems (fuel + 1) depth ('\n' :: rest) = readItems (fuel + 1) depth rest := by
  rw [readItems, dropAll_feed]
  rfl

/-- An array of strings on lines of their own. -/
theorem readItems_lines (s : List String) {fuel : Nat} (h : s.length < fuel) (depth : Nat)
    (rest : List Char) :
    readItems fuel depth
      ('\n' :: ((String.join (s.map fun t => "    " ++ quote t ++ ",\n")).toList ++ ']' :: rest)) =
      some (s.map .string, rest) := by
  induction s generalizing fuel with
  | nil =>
    obtain ⟨fuel, rfl⟩ : ∃ n, fuel = n + 1 := ⟨fuel - 1, by omega⟩
    show readItems (fuel + 1) depth ('\n' :: ']' :: rest) = _
    rw [readItems_feed, readItems_end]
    rfl
  | cons t s ih =>
    obtain ⟨fuel, rfl⟩ : ∃ n, fuel = n + 1 + 1 :=
      ⟨fuel - 2, by rw [List.length_cons] at h; omega⟩
    have hlen : s.length < fuel + 1 := by
      rw [List.length_cons] at h
      omega
    have hspaces : "    ".toList = List.replicate 4 ' ' := by decide
    have hcomma : ",\n".toList = [',', '\n'] := by decide
    have hline : (String.join ((t :: s).map fun t => "    " ++ quote t ++ ",\n")).toList ++
        ']' :: rest = List.replicate 4 ' ' ++ (quoteChars t.toList ++ ',' :: '\n' ::
          ((String.join (s.map fun t => "    " ++ quote t ++ ",\n")).toList ++ ']' :: rest)) := by
      rw [List.map_cons, String.join_cons]
      simp only [String.toList_append, quote, String.toList_ofList, hspaces, hcomma,
        List.append_assoc, List.cons_append, List.nil_append]
    rw [hline, readItems_feed, readItems_comma, ih hlen, String.ofList_toList]
    rfl

/-- An array is read as its items are. -/
theorem isWritten_array {text : List Char} {items : List TomlValue}
    (h : ∀ fuel depth rest, text.length < fuel →
      readItems fuel depth (text ++ ']' :: rest) = some (items, rest)) :
    IsWritten ('[' :: text ++ [']']) (.array items) := by
  refine ⟨⟨'[', text ++ [']'], rfl, by decide⟩, fun fuel depth rest hfuel hdepth _ => ?_⟩
  obtain ⟨fuel, rfl⟩ : ∃ n, fuel = n + 1 := ⟨fuel - 1, by omega⟩
  have hlen : text.length < fuel := by
    simp at hfuel
    omega
  have hform : '[' :: text ++ [']'] ++ rest = '[' :: (text ++ ']' :: rest) := by simp
  have hzero : (depth == 0) = false := by
    rw [beq_eq_false_iff_ne]
    omega
  rw [hform, readValue, hzero, h fuel (depth - 1) rest hlen]
  rfl

theorem isWritten_noItems : IsWritten ['[', ']'] (.array []) := by
  have hread : ∀ fuel depth rest, ([] : List Char).length < fuel →
      readItems fuel depth ([] ++ ']' :: rest) = some ([], rest) := by
    intro fuel depth rest hfuel
    obtain ⟨fuel, rfl⟩ : ∃ n, fuel = n + 1 := ⟨fuel - 1, by omega⟩
    exact readItems_end fuel depth rest
  exact isWritten_array hread

theorem isWritten_oneItem (t : String) :
    IsWritten ('[' :: (quote t).toList ++ [']']) (.array [.string t]) := by
  refine isWritten_array fun fuel depth rest hfuel => ?_
  have hpos : 0 < (quote t).toList.length := by
    obtain ⟨c, text, hform, -⟩ := exists_quoteChars t.toList
    rw [quote, String.toList_ofList, hform, List.length_cons]
    omega
  obtain ⟨fuel, rfl⟩ : ∃ n, fuel = n + 1 + 1 := ⟨fuel - 2, by omega⟩
  have hread := readItems_bracket fuel depth 0 t.toList rest
  rw [String.ofList_toList] at hread
  rw [quote, String.toList_ofList]
  exact hread

theorem isWritten_lines (s : List String) :
    IsWritten ('[' :: '\n' ::
      (String.join (s.map fun t => "    " ++ quote t ++ ",\n")).toList ++ [']'])
      (.array (s.map .string)) := by
  refine isWritten_array fun fuel depth rest hfuel => readItems_lines s ?_ depth rest
  have hle : s.length ≤
      (String.join (s.map fun t => "    " ++ quote t ++ ",\n")).toList.length := by
    clear hfuel
    induction s with
    | nil => exact Nat.zero_le _
    | cons t s ih =>
      have hcomma : ",\n".toList.length = 2 := by decide
      rw [List.map_cons, String.join_cons, String.toList_append, List.length_append,
        String.toList_append, List.length_append, hcomma, List.length_cons]
      omega
  rw [List.length_cons] at hfuel
  omega

end Toml

end KeyTrace
