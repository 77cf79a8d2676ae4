import KeyTrace.Json.Printer
import KeyTrace.Json.Reader
import KeyTrace.Proofs.Ascending
import KeyTrace.Proofs.Toml.Values

/-!
# Reading JSON that was printed

A printed document is read as the value that was printed, with the members of each object in the
order in which they are kept. Strings come back whatever characters they have; numbers are those
that fit into 64 bits; and values may be nested as deep as the reader goes.

## Main definitions

* `JsonValue.Printable`: the values that are read back, within a number of levels.
* `JsonValue.kept`: a value as it is kept when it is read.

## Main results

* `JsonValue.readString_json`: strings are read as they were written.
* `JsonValue.readNumber_toDigits`: so are numbers that fit into 64 bits.
* `JsonValue.Printable.readsBack`: so are values.
* `JsonValue.read?_pretty`: so are documents.
* `JsonValue.lookup_keptMembers`: members are found by their names.
-/

namespace KeyTrace

namespace Rounded

theorem round_le (n : Nat) : round n ≤ n + 2 ^ lowBits n := by
  have hdown : n / 2 ^ lowBits n * 2 ^ lowBits n ≤ n := Nat.div_mul_le_self ..
  have hunit : 0 < 2 ^ lowBits n := Nat.two_pow_pos _
  simp only [round, Nat.pow_eq]
  rw [Nat.add_mul]
  split <;> omega

/-- A number that fits into 64 bits is far from the end of the range. -/
theorem round_lt_rangeEnd {n : Nat} (h : n < 2 ^ 64) : round n < rangeEnd := by
  have hlow : lowBits n ≤ 11 := by
    rcases Nat.eq_zero_or_pos n with rfl | hn
    · decide
    · have hlog : n.log2 < 64 := (Nat.log2_lt (Nat.ne_of_gt hn)).2 h
      rw [lowBits]
      omega
  have hunit : 2 ^ lowBits n ≤ 2 ^ 11 := Nat.pow_le_pow_right (by omega) hlow
  have hend : 2 ^ 64 + 2 ^ 11 < rangeEnd := by decide +kernel
  have hround := round_le n
  omega

end Rounded

namespace JsonValue

/-! ### Blanks -/

theorem dropBlanks_cons {c : Char} (h : isBlank c = false) (s : List Char) :
    dropBlanks (c :: s) = c :: s := by
  rw [dropBlanks, List.dropWhile_cons, h]
  rfl

theorem dropBlanks_indent (level : Nat) (s : List Char) :
    dropBlanks ((indent level).toList ++ s) = dropBlanks s := by
  refine List.dropWhile_append_of_pos fun c hc => ?_
  rw [indent, String.toList_ofList] at hc
  rcases List.mem_cons.1 hc with rfl | hc
  · rfl
  · rw [List.eq_of_mem_replicate hc]
    rfl

theorem dropBlanks_dropBlanks (s : List Char) : dropBlanks (dropBlanks s) = dropBlanks s :=
  List.dropWhile_idempotent isBlank s

/-- Blanks before a value are skipped. -/
theorem readValue_dropBlanks (fuel depth : Nat) (s : List Char) :
    readValue fuel depth (dropBlanks s) = readValue fuel depth s := by
  cases fuel with
  | zero => rfl
  | succ fuel => rw [readValue, readValue, dropBlanks_dropBlanks]

/-! ### Strings -/

theorem hexPadded_four : ∀ n < 0x20,
    Quoted.hexPadded 4 n = ['0', '0', (n / 16).digitChar, (n % 16).digitChar] := by
  decide

theorem hexDigit?_digitChar : ∀ d < 16, Pattern.hexDigit? d.digitChar = some d := by decide

/-- The escape of a control character is read as that character. -/
theorem readCodePoint_hexPadded {n : Nat} (h : n < 0x20) (left : List Char) :
    readCodePoint (Quoted.hexPadded 4 n ++ left) = some (Char.ofNat n, left) := by
  have hunit : readUnit (Quoted.hexPadded 4 n ++ left) = some (n, left) := by
    have hzero : Pattern.hexDigit? '0' = some 0 := rfl
    have hvalue : 4096 * 0 + 256 * 0 + 16 * (n / 16) + n % 16 = n := by omega
    rw [hexPadded_four n h]
    simp only [List.cons_append, List.nil_append, readUnit, hzero,
      hexDigit?_digitChar (n / 16) (by omega), hexDigit?_digitChar (n % 16) (by omega), hvalue]
  have hhigh : (0xd800 ≤ n && n < 0xdc00) = false := by simp; omega
  have hlow : (0xdc00 ≤ n && n < 0xe000) = false := by simp; omega
  rw [readCodePoint, hunit, Option.bind_some]
  dsimp only
  rw [hhigh, hlow]
  rfl

/-- **A character is read as it was written.** -/
theorem readString_jsonChar (fuel : Nat) (c : Char) (left : List Char) :
    readString (fuel + 1) (Quoted.jsonChar c ++ left) =
      (readString fuel left).map fun (s, left) => (c :: s, left) := by
  rw [Quoted.jsonChar]
  split_ifs with hquote hslash hn hr ht hb hf hcontrol
  · rw [beq_iff_eq.1 hquote]; rfl
  · rw [beq_iff_eq.1 hslash]; rfl
  · rw [beq_iff_eq.1 hn]; rfl
  · rw [beq_iff_eq.1 hr]; rfl
  · rw [beq_iff_eq.1 ht]; rfl
  · rw [beq_iff_eq.1 hb]; rfl
  · rw [beq_iff_eq.1 hf]; rfl
  · have hread := readCodePoint_hexPadded hcontrol left
    rw [Char.ofNat_toNat] at hread
    have hstep : readString (fuel + 1) ('\\' :: 'u' :: (Quoted.hexPadded 4 c.toNat ++ left)) =
        (readCodePoint (Quoted.hexPadded 4 c.toNat ++ left)).bind fun p =>
          (readString fuel p.2).map fun q => (p.1 :: q.1, q.2) := rfl
    rw [hread] at hstep
    exact hstep
  · rw [List.singleton_append, readString.eq_def]
    dsimp only
    rw [if_neg hquote, if_neg hcontrol, if_neg hslash]
    rfl

/-- **A string is read as it was written.** -/
theorem readString_json (s : List Char) (left : List Char) {fuel : Nat} (h : s.length < fuel) :
    readString fuel (s.flatMap Quoted.jsonChar ++ '"' :: left) = some (s, left) := by
  induction s generalizing fuel with
  | nil =>
    obtain ⟨fuel, rfl⟩ := Nat.exists_eq_add_of_lt h
    rfl
  | cons c s ih =>
    cases fuel with
    | zero => cases h
    | succ fuel =>
      rw [List.flatMap_cons, List.append_assoc, readString_jsonChar,
        ih (Nat.lt_of_succ_lt_succ h)]
      rfl

/-! ### Numbers -/

/-- What may come right after a number: nothing that would belong to it. -/
def EndsNumber (left : List Char) : Prop :=
  ∀ c ∈ left.head?, isDigit c = false ∧ c ≠ '.' ∧ c ≠ 'e' ∧ c ≠ 'E'

variable {digits : List Char}

theorem readDigits_append (h : ∀ c ∈ digits, isDigit c = true) (hne : digits ≠ [])
    {left : List Char} (hleft : EndsNumber left) :
    readDigits (digits ++ left) = some (digits, left) := by
  have htake : left.takeWhile isDigit = [] := by
    cases left with
    | nil => rfl
    | cons c rest => exact List.takeWhile_cons_of_neg (by simp [(hleft c rfl).1])
  have hdrop : left.dropWhile isDigit = left := by
    cases left with
    | nil => rfl
    | cons c rest => exact List.dropWhile_cons_of_neg (by simp [(hleft c rfl).1])
  have hempty : digits.isEmpty = false := by simpa using hne
  rw [readDigits, List.takeWhile_append_of_pos h, List.dropWhile_append_of_pos h, htake, hdrop,
    List.append_nil, hempty]
  rfl

theorem le_ofDigitChars (s : List Char) (n : Nat) : n ≤ Nat.ofDigitChars 10 s n := by
  induction s generalizing n with
  | nil => exact le_rfl
  | cons c s ih =>
    rw [Nat.ofDigitChars_cons]
    exact Nat.le_trans (by omega) (ih _)

/-- Digits of a number that the significand has room for are all taken. -/
theorem takeDigits_eq (n : Nat) (h : Nat.ofDigitChars 10 digits n ≤ largestSignificand) :
    takeDigits n digits = (Nat.ofDigitChars 10 digits n, []) := by
  induction digits generalizing n with
  | nil => rfl
  | cons c rest ih =>
    rw [Nat.ofDigitChars_cons] at h ⊢
    have hroom : 10 * n + (c.toNat - 48) ≤ largestSignificand :=
      Nat.le_trans (le_ofDigitChars rest _) h
    rw [takeDigits, if_pos hroom]
    exact ih _ h

theorem isDigit_of_mem_toDigits {n : Nat} {c : Char} (h : c ∈ Nat.toDigits 10 n) :
    isDigit c = true :=
  TomlWord.isDigit_of_isDigit (Nat.isDigit_of_mem_toDigits (by omega) (by omega) h)

theorem readFraction_of_endsNumber {left : List Char} (h : EndsNumber left) :
    readFraction left = some ([], left) := by
  rw [readFraction.eq_def]
  split
  · exact absurd rfl (h _ rfl).2.1
  · rfl

theorem readExponent_of_endsNumber {left : List Char} (h : EndsNumber left) :
    readExponent left = some (([], 0), left) := by
  cases left with
  | nil => rfl
  | cons c rest =>
    obtain ⟨-, -, hlower, hupper⟩ := h c rfl
    exact if_neg (by simp [hlower, hupper])

theorem isInRange_toDigits {n : Nat} (h : n < 2 ^ 64) :
    isInRange (Nat.toDigits 10 n) [] 0 = true := by
  have hvalue : Nat.ofDigitChars 10 (Nat.toDigits 10 n) 0 = n :=
    Nat.ofDigitChars_toDigits (by omega) (by omega)
  have htake : takeDigits 0 (Nat.toDigits 10 n) = (n, []) := by
    rw [takeDigits_eq 0 (by rw [hvalue, largestSignificand]; omega), hvalue]
  have hpower : Rounded.round (Nat.pow 10 (0 : Int).toNat) = 1 := by decide
  have hrange : Rounded.round n * Rounded.round (Nat.pow 10 (0 : Int).toNat) <
      Rounded.rangeEnd := by
    rw [hpower, Nat.mul_one]
    exact Rounded.round_lt_rangeEnd h
  rw [isInRange, htake]
  show isScaledInRange n 0 = true
  rw [isScaledInRange]
  split
  · rfl
  · rw [if_neg (by decide)]
    exact decide_eq_true hrange

theorem toDigits_eq_cons (n : Nat) :
    ∃ c rest, Nat.toDigits 10 n = c :: rest ∧ isDigit c = true := by
  cases hcons : Nat.toDigits 10 n with
  | nil => exact absurd hcons Nat.toDigits_ne_nil
  | cons c rest => exact ⟨c, rest, rfl, isDigit_of_mem_toDigits (hcons ▸ List.mem_cons_self)⟩

theorem isBlank_of_isDigit {c : Char} (h : isDigit c = true) : isBlank c = false := by
  simp only [isBlank, Bool.or_eq_false_iff, beq_eq_false_iff_ne]
  refine ⟨⟨⟨?_, ?_⟩, ?_⟩, ?_⟩ <;>
    · rintro rfl
      cases h

/-- **A number that fits into 64 bits is read as it was written.** -/
theorem readNumber_toDigits {n : Nat} (h : n < 2 ^ 64) {left : List Char}
    (hleft : EndsNumber left) :
    readNumber (Nat.toDigits 10 n ++ left) = some (Nat.toDigits 10 n, left) := by
  have hdigits : ∀ c ∈ Nat.toDigits 10 n, isDigit c = true := fun c => isDigit_of_mem_toDigits
  have hsign : readSign ['-'] (Nat.toDigits 10 n ++ left) = ([], Nat.toDigits 10 n ++ left) := by
    obtain ⟨c, rest, hcons, hc⟩ := toDigits_eq_cons n
    have hminus : c ≠ '-' := by
      rintro rfl
      cases hc
    rw [hcons]
    exact if_neg (by simp [hminus])
  have hzero : (Nat.toDigits 10 n).head? = some '0' → (Nat.toDigits 10 n).length = 1 := by
    intro hhead
    rw [TomlWord.head?_toDigits n hhead]
    rfl
  simpa [readNumber, hsign, readDigits_append hdigits Nat.toDigits_ne_nil hleft,
    readFraction_of_endsNumber hleft, readExponent_of_endsNumber hleft, isInRange_toDigits h]
    using hzero

/-! ### Values -/

mutual

/-- A value as it is kept when it is read: each object has its members in the order of their names,
and of members with the same name the last one. -/
def kept : JsonValue → JsonValue
  | null => .null
  | bool b => .bool b
  | number text => .number text
  | string s => .string s
  | array items => .array (keptItems items)
  | object members => .object (keptMembers [] members)

/-- The items of an array as they are kept. -/
def keptItems : List JsonValue → List JsonValue
  | [] => []
  | v :: rest => kept v :: keptItems rest

/-- The members that are kept after further ones. -/
def keptMembers (members : List (String × JsonValue)) :
    List (String × JsonValue) → List (String × JsonValue)
  | [] => members
  | (name, v) :: rest => keptMembers (setMember name (kept v) members) rest

end

/-- The values that are read back: their numbers fit into 64 bits, and they are not nested deeper
than the given number of levels. -/
inductive Printable : Nat → JsonValue → Prop where
  | null (depth : Nat) : Printable depth .null
  | bool (depth : Nat) (b : Bool) : Printable depth (.bool b)
  | number (depth : Nat) {n : Nat} (h : n < 2 ^ 64) : Printable depth (.number (toString n))
  | string (depth : Nat) (s : String) : Printable depth (.string s)
  | array {depth : Nat} {items : List JsonValue} (h : ∀ v ∈ items, Printable depth v) :
      Printable (depth + 1) (.array items)
  | object {depth : Nat} {members : List (String × JsonValue)}
      (h : ∀ m ∈ members, Printable depth m.2) : Printable (depth + 1) (.object members)

/-! ### The text of values -/

theorem toList_printAt_string (level : Nat) (s : String) :
    (printAt level (.string s)).toList = '"' :: (s.toList.flatMap Quoted.jsonChar ++ ['"']) := by
  rw [printAt, Quoted.json, String.toList_ofList]
  rfl

theorem toList_printAt_number (level n : Nat) :
    (printAt level (.number (toString n))).toList = Nat.toDigits 10 n := by
  rw [printAt, Nat.toString_eq_ofList_toDigits, String.toList_ofList]

theorem toList_printAt_array (level : Nat) (v : JsonValue) (rest : List JsonValue) :
    (printAt level (.array (v :: rest))).toList =
      '[' :: ((indent (level + 1)).toList ++ ((printAt (level + 1) v).toList ++
        ((printItems (level + 1) rest).toList ++ ((indent level).toList ++ [']'])))) := by
  simp [printAt]

theorem toList_printItems_cons (level : Nat) (v : JsonValue) (rest : List JsonValue) :
    (printItems level (v :: rest)).toList =
      ',' :: ((indent level).toList ++ ((printAt level v).toList ++
        (printItems level rest).toList)) := by
  simp [printItems]

/-- The text of a member. -/
def memberText (level : Nat) (m : String × JsonValue) : List Char :=
  '"' :: (m.1.toList.flatMap Quoted.jsonChar ++ '"' :: ':' :: ' ' :: (printAt level m.2).toList)

theorem toList_printAt_object (level : Nat) (m : String × JsonValue)
    (rest : List (String × JsonValue)) :
    (printAt level (.object (m :: rest))).toList =
      '\x7b' :: ((indent (level + 1)).toList ++ (memberText (level + 1) m ++
        ((printMembers (level + 1) rest).toList ++ ((indent level).toList ++ ['\x7d'])))) := by
  simp [printAt, memberText, Quoted.json]

theorem toList_printMembers_cons (level : Nat) (m : String × JsonValue)
    (rest : List (String × JsonValue)) :
    (printMembers level (m :: rest)).toList =
      ',' :: ((indent level).toList ++ (memberText level m ++
        (printMembers level rest).toList)) := by
  simp [printMembers, memberText, Quoted.json]

/-- How the text of a value begins. -/
theorem Printable.exists_cons {depth : Nat} {v : JsonValue} (h : Printable depth v) (level : Nat) :
    ∃ c rest, (printAt level v).toList = c :: rest ∧ isBlank c = false ∧ c ≠ ']' := by
  cases h with
  | null => exact ⟨'n', ['u', 'l', 'l'], by rw [printAt_null]; rfl, by decide, by decide⟩
  | bool depth b =>
    cases b with
    | false => exact ⟨'f', ['a', 'l', 's', 'e'], by rw [printAt]; rfl, by decide, by decide⟩
    | true => exact ⟨'t', ['r', 'u', 'e'], by rw [printAt]; rfl, by decide, by decide⟩
  | @number depth n h =>
    obtain ⟨c, rest, hcons, hc⟩ := toDigits_eq_cons n
    rw [toList_printAt_number]
    exact ⟨c, rest, hcons, isBlank_of_isDigit hc, by rintro rfl; cases hc⟩
  | string depth s => exact ⟨'"', _, toList_printAt_string level s, by decide, by decide⟩
  | @array depth items h =>
    cases items with
    | nil => exact ⟨'[', [']'], by rw [printAt]; rfl, by decide, by decide⟩
    | cons v rest => exact ⟨'[', _, toList_printAt_array level v rest, by decide, by decide⟩
  | @object depth members h =>
    cases members with
    | nil => exact ⟨'\x7b', ['\x7d'], by rw [printAt]; rfl, by decide, by decide⟩
    | cons m rest => exact ⟨'\x7b', _, toList_printAt_object level m rest, by decide, by decide⟩

/-- What the reader does on the text of a value, wherever it stands. -/
def ReadsBack (depth : Nat) (v : JsonValue) : Prop :=
  ∀ level fuel left, EndsNumber left → (printAt level v).toList.length ≤ fuel →
    readValue fuel depth ((printAt level v).toList ++ left) = some (v.kept, left)

/-- A value whose text is the same at all levels. -/
theorem readsBack_word {depth : Nat} {v : JsonValue} (word : String)
    (hword : ∀ level, printAt level v = word)
    (hread : ∀ fuel left, readValue (fuel + word.toList.length) depth (word.toList ++ left) =
      some (v.kept, left)) : ReadsBack depth v := by
  intro level fuel left _ hfuel
  rw [hword] at hfuel ⊢
  obtain ⟨fuel, rfl⟩ := Nat.exists_eq_add_of_le' hfuel
  exact hread fuel left

theorem readsBack_null (depth : Nat) : ReadsBack depth .null :=
  readsBack_word "null" printAt_null fun _ _ => rfl

theorem readsBack_bool (depth : Nat) (b : Bool) : ReadsBack depth (.bool b) := by
  cases b with
  | false => exact readsBack_word "false" (fun _ => by rw [printAt]; rfl) fun _ _ => rfl
  | true => exact readsBack_word "true" (fun _ => by rw [printAt]; rfl) fun _ _ => rfl

theorem readsBack_noItems (depth : Nat) : ReadsBack (depth + 1) (.array []) :=
  readsBack_word "[]" (fun _ => by rw [printAt]) fun _ _ => rfl

theorem readsBack_noMembers (depth : Nat) : ReadsBack (depth + 1) (.object []) :=
  readsBack_word "\x7b\x7d" (fun _ => by rw [printAt]) fun _ _ => rfl

theorem length_le_length_flatMap (s : List Char) :
    s.length ≤ (s.flatMap Quoted.jsonChar).length := by
  induction s with
  | nil => exact le_rfl
  | cons c s ih =>
    have hne : 0 < (Quoted.jsonChar c).length := by
      rw [Quoted.jsonChar]
      split_ifs <;> simp
    rw [List.flatMap_cons, List.length_append, List.length_cons]
    omega

theorem readsBack_string (depth : Nat) (s : String) : ReadsBack depth (.string s) := by
  intro level fuel left _ hfuel
  have hlen := length_le_length_flatMap s.toList
  rw [toList_printAt_string] at hfuel ⊢
  obtain ⟨fuel, rfl⟩ := Nat.exists_eq_add_one.2 (Nat.lt_of_lt_of_le (Nat.succ_pos _) hfuel)
  rw [List.length_cons, List.length_append, List.length_singleton] at hfuel
  have hread : readString fuel (s.toList.flatMap Quoted.jsonChar ++ '"' :: left) =
      some (s.toList, left) := readString_json s.toList left (by omega)
  have hquote : ∀ more, readValue (fuel + 1) depth ('"' :: more) =
      (readString fuel more).map fun (t, left) => (.string (String.ofList t), left) := fun _ => rfl
  rw [List.cons_append, List.append_assoc, List.singleton_append, hquote, hread, kept]
  simp

theorem readValue_of_isDigit {c : Char} (hc : isDigit c = true) (fuel depth : Nat)
    (rest : List Char) :
    readValue (fuel + 1) depth (c :: rest) =
      (readNumber (c :: rest)).map fun (t, left) => (.number (String.ofList t), left) := by
  rw [readValue, dropBlanks_cons (isBlank_of_isDigit hc)]
  dsimp only
  split
  all_goals first | rfl | cases hc

theorem readsBack_number (depth : Nat) {n : Nat} (h : n < 2 ^ 64) :
    ReadsBack depth (.number (toString n)) := by
  intro level fuel left hleft hfuel
  obtain ⟨c, rest, hcons, hc⟩ := toDigits_eq_cons n
  have hread := readNumber_toDigits h hleft
  rw [toList_printAt_number, hcons] at hfuel
  obtain ⟨fuel, rfl⟩ := Nat.exists_eq_add_one.2 (Nat.lt_of_lt_of_le (Nat.succ_pos _) hfuel)
  rw [toList_printAt_number, hcons, List.cons_append, readValue_of_isDigit hc, ← List.cons_append,
    ← hcons, hread, kept, Nat.toString_eq_ofList_toDigits]
  rfl

/-! ### Arrays and objects -/

theorem readItems_dropBlanks (fuel depth : Nat) (s : List Char) :
    readItems fuel depth (dropBlanks s) = readItems fuel depth s := by
  cases fuel with
  | zero => rfl
  | succ fuel => rw [readItems, readItems, readValue_dropBlanks]

theorem readMembers_dropBlanks (fuel depth : Nat) (members : List (String × JsonValue))
    (s : List Char) :
    readMembers fuel depth members (dropBlanks s) = readMembers fuel depth members s := by
  cases fuel with
  | zero => rfl
  | succ fuel => rw [readMembers, readMembers, dropBlanks_dropBlanks]

theorem readItems_indent (fuel depth level : Nat) (s : List Char) :
    readItems fuel depth ((indent level).toList ++ s) = readItems fuel depth s := by
  rw [← readItems_dropBlanks, dropBlanks_indent, readItems_dropBlanks]

theorem readMembers_indent (fuel depth level : Nat) (members : List (String × JsonValue))
    (s : List Char) :
    readMembers fuel depth members ((indent level).toList ++ s) =
      readMembers fuel depth members s := by
  rw [← readMembers_dropBlanks, dropBlanks_indent, readMembers_dropBlanks]

/-- An array that does not end at once. -/
theorem readValue_bracket {s : List Char} (h : (dropBlanks s).head? ≠ some ']')
    (fuel depth : Nat) :
    readValue (fuel + 1) (depth + 1) ('[' :: s) =
      (readItems fuel depth s).map fun (items, left) => (.array items, left) := by
  rw [readValue, dropBlanks_cons (by decide), ← readItems_dropBlanks]
  simp only [Nat.add_one_ne_zero, beq_iff_eq, if_false, Nat.add_sub_cancel]
  split
  · rename_i heq
    rw [heq] at h
    exact absurd rfl h
  · rfl

/-- An object that does not end at once. -/
theorem readValue_brace {s : List Char} (h : (dropBlanks s).head? ≠ some '\x7d')
    (fuel depth : Nat) :
    readValue (fuel + 1) (depth + 1) ('\x7b' :: s) =
      (readMembers fuel depth [] s).map fun (members, left) => (.object members, left) := by
  rw [readValue, dropBlanks_cons (by decide), ← readMembers_dropBlanks]
  simp only [Nat.add_one_ne_zero, beq_iff_eq, if_false, Nat.add_sub_cancel]
  split
  · rename_i heq
    rw [heq] at h
    exact absurd rfl h
  · rfl

theorem endsNumber_comma (s : List Char) : EndsNumber (',' :: s) := by
  rintro c ⟨⟩
  decide

theorem endsNumber_indent (level : Nat) (s : List Char) :
    EndsNumber ((indent level).toList ++ s) := by
  rw [indent, String.toList_ofList]
  rintro c ⟨⟩
  decide

/-- **The items of an array are read one by one**, up to the closing bracket. -/
theorem readItems_printAt {depth : Nat} (level outer : Nat) (left : List Char) {v : JsonValue}
    {rest : List JsonValue} (h : ∀ w ∈ v :: rest, ReadsBack depth w) (fuel : Nat)
    (hfuel : (printAt level v).toList.length + (printItems level rest).toList.length < fuel) :
    readItems fuel depth ((printAt level v).toList ++ ((printItems level rest).toList ++
      ((indent outer).toList ++ ']' :: left))) = some (keptItems (v :: rest), left) := by
  -- Each item takes one unit of fuel besides its own, and at least one character of the text.
  induction rest generalizing v fuel with
  | nil =>
    obtain ⟨fuel, rfl⟩ := Nat.exists_eq_add_one.2 (Nat.zero_lt_of_lt hfuel)
    have hnone : (printItems level []).toList = [] := by rw [printItems]; rfl
    rw [hnone] at hfuel ⊢
    have hread := h v List.mem_cons_self level fuel _ (endsNumber_indent outer (']' :: left))
      (by omega)
    rw [readItems, List.nil_append, hread, Option.bind_some]
    dsimp only
    rw [dropBlanks_indent, dropBlanks_cons (by decide)]
    rfl
  | cons w rest ih =>
    obtain ⟨fuel, rfl⟩ := Nat.exists_eq_add_one.2 (Nat.zero_lt_of_lt hfuel)
    rw [toList_printItems_cons] at hfuel ⊢
    rw [List.length_cons, List.length_append, List.length_append] at hfuel
    have hread : ∀ s, readValue fuel depth ((printAt level v).toList ++ ',' :: s) =
        some (v.kept, ',' :: s) :=
      fun s => h v List.mem_cons_self level fuel _ (endsNumber_comma s) (by omega)
    have hrest := ih (fun u hu => h u (List.mem_cons_of_mem v hu)) fuel (by omega)
    rw [readItems, List.cons_append, hread, Option.bind_some]
    dsimp only
    rw [dropBlanks_cons (by decide), List.append_assoc, List.append_assoc]
    show (readItems fuel depth _).map _ = _
    rw [readItems_indent, hrest]
    rfl

theorem length_printAt_le (level : Nat) (m : String × JsonValue) :
    (printAt level m.2).toList.length ≤ (memberText level m).length := by
  simp only [memberText, List.length_cons, List.length_append]
  omega

/-- One member and what comes after it. -/
theorem readMembers_member {fuel depth level : Nat} {m : String × JsonValue} {s : List Char}
    (hfuel : (memberText level m).length < fuel + 1)
    (hread : readValue fuel depth ((printAt level m.2).toList ++ s) = some (m.2.kept, s))
    (members : List (String × JsonValue)) :
    readMembers (fuel + 1) depth members (memberText level m ++ s) =
      match dropBlanks s with
      | ',' :: more => readMembers fuel depth (setMember m.1 m.2.kept members) more
      | '\x7d' :: more => some (setMember m.1 m.2.kept members, more)
      | _ => none := by
  have hlen := length_le_length_flatMap m.1.toList
  simp only [memberText, List.length_cons, List.length_append] at hfuel
  have hname : readString fuel (m.1.toList.flatMap Quoted.jsonChar ++
      '"' :: (':' :: ' ' :: (printAt level m.2).toList ++ s)) =
        some (m.1.toList, ':' :: ' ' :: (printAt level m.2).toList ++ s) :=
    readString_json _ _ (by omega)
  have hspace : readValue fuel depth (' ' :: (printAt level m.2).toList ++ s) =
      some (m.2.kept, s) := by
    rw [← readValue_dropBlanks, ← hread, ← readValue_dropBlanks fuel depth (_ ++ s)]
    rfl
  have htext : memberText level m ++ s = '"' :: (m.1.toList.flatMap Quoted.jsonChar ++
      '"' :: (':' :: ' ' :: (printAt level m.2).toList ++ s)) := by simp [memberText]
  rw [htext, readMembers, dropBlanks_cons (by decide)]
  show (readString fuel _).bind _ = _
  rw [hname, Option.bind_some]
  show (readValue fuel depth (' ' :: (printAt level m.2).toList ++ s)).bind _ = _
  rw [String.ofList_toList, hspace]
  rfl

/-- **The members of an object are read one by one**, up to the closing brace. -/
theorem readMembers_printAt {depth : Nat} (level outer : Nat) (left : List Char)
    {m : String × JsonValue} {rest : List (String × JsonValue)}
    (h : ∀ w ∈ m :: rest, ReadsBack depth w.2) (members : List (String × JsonValue)) (fuel : Nat)
    (hfuel : (memberText level m).length + (printMembers level rest).toList.length < fuel) :
    readMembers fuel depth members (memberText level m ++ ((printMembers level rest).toList ++
      ((indent outer).toList ++ '\x7d' :: left))) =
      some (keptMembers members (m :: rest), left) := by
  have hvalue := length_printAt_le level m
  induction rest generalizing m members fuel with
  | nil =>
    obtain ⟨fuel, rfl⟩ := Nat.exists_eq_add_one.2 (Nat.zero_lt_of_lt hfuel)
    have hnone : (printMembers level []).toList = [] := by rw [printMembers]; rfl
    rw [hnone] at hfuel ⊢
    have hread := h m List.mem_cons_self level fuel _ (endsNumber_indent outer ('\x7d' :: left))
      (by omega)
    rw [List.nil_append, readMembers_member (by omega) hread, dropBlanks_indent,
      dropBlanks_cons (by decide)]
    rfl
  | cons w rest ih =>
    obtain ⟨fuel, rfl⟩ := Nat.exists_eq_add_one.2 (Nat.zero_lt_of_lt hfuel)
    rw [toList_printMembers_cons] at hfuel ⊢
    rw [List.length_cons, List.length_append, List.length_append] at hfuel
    have hread := fun s => h m List.mem_cons_self level fuel _ (endsNumber_comma s) (by omega)
    have hrest := ih (fun u hu => h u (List.mem_cons_of_mem m hu))
      (setMember m.1 m.2.kept members) fuel (by omega)
      (length_printAt_le level w)
    rw [List.cons_append, readMembers_member (by omega) (hread _), dropBlanks_cons (by decide)]
    show readMembers fuel depth _ _ = _
    rw [List.append_assoc, List.append_assoc, readMembers_indent, hrest]
    rfl

/-- **A value is read as it was printed**, whatever comes after it. -/
theorem Printable.readsBack {depth : Nat} {v : JsonValue} (h : Printable depth v) :
    ReadsBack depth v := by
  induction h with
  | null depth => exact readsBack_null depth
  | bool depth b => exact readsBack_bool depth b
  | number depth h => exact readsBack_number depth h
  | string depth s => exact readsBack_string depth s
  | @array depth items h ih =>
    cases items with
    | nil => exact readsBack_noItems depth
    | cons v rest =>
      intro level fuel left _ hfuel
      rw [toList_printAt_array] at hfuel ⊢
      obtain ⟨fuel, rfl⟩ := Nat.exists_eq_add_one.2 (Nat.lt_of_lt_of_le (Nat.succ_pos _) hfuel)
      simp only [List.length_cons, List.length_append] at hfuel
      have hread := readItems_printAt (level + 1) level left ih fuel (by omega)
      obtain ⟨c, more, hcons, hblank, hbracket⟩ :=
        (h v List.mem_cons_self).exists_cons (level + 1)
      have hhead : ∀ s, (dropBlanks ((indent (level + 1)).toList ++
          ((printAt (level + 1) v).toList ++ s))).head? ≠ some ']' := by
        intro s
        rw [dropBlanks_indent, hcons, List.cons_append, dropBlanks_cons hblank]
        simpa using hbracket
      simp only [List.cons_append, List.append_assoc, List.nil_append]
      rw [readValue_bracket (hhead _), readItems_indent, hread, kept]
      rfl
  | @object depth members h ih =>
    cases members with
    | nil => exact readsBack_noMembers depth
    | cons m rest =>
      intro level fuel left _ hfuel
      rw [toList_printAt_object] at hfuel ⊢
      obtain ⟨fuel, rfl⟩ := Nat.exists_eq_add_one.2 (Nat.lt_of_lt_of_le (Nat.succ_pos _) hfuel)
      simp only [List.length_cons, List.length_append] at hfuel
      have hread := readMembers_printAt (level + 1) level left ih [] fuel (by omega)
      have hhead : ∀ s, (dropBlanks ((indent (level + 1)).toList ++
          (memberText (level + 1) m ++ s))).head? ≠ some '\x7d' := by
        intro s
        rw [dropBlanks_indent, memberText, List.cons_append, dropBlanks_cons (by decide)]
        simp
      simp only [List.cons_append, List.append_assoc, List.nil_append]
      rw [readValue_brace (hhead _), readMembers_indent, hread, kept]
      rfl

/-- **A printed document is read as the value that was printed.** -/
theorem read?_pretty {v : JsonValue} (h : Printable nestingLimit v) :
    read? v.pretty.toList = some v.kept := by
  rw [read?, pretty]
  have hread := h.readsBack 0 (2 * (printAt 0 v).toList.length + 2) [] nofun (by omega)
  rw [List.append_nil] at hread
  rw [hread]
  rfl

/-! ### Members by name -/

theorem lookup_setMember (name n : String) (v : JsonValue) (members : List (String × JsonValue)) :
    (setMember n v members).lookup name = if name = n then some v else members.lookup name :=
  lookup_insert (n, v) members name

/-- Where all names are different, each member is found by its name. -/
theorem lookup_keptMembers {name : String} {more : List (String × JsonValue)}
    (h : (more.map Prod.fst).Nodup) (members : List (String × JsonValue)) :
    (keptMembers members more).lookup name =
      ((more.lookup name).map kept).or (members.lookup name) := by
  induction more generalizing members with
  | nil => rfl
  | cons m rest ih =>
    obtain ⟨n, v⟩ := m
    rw [List.map_cons, List.nodup_cons] at h
    obtain ⟨hn, hrest⟩ := h
    rw [keptMembers, ih hrest, lookup_setMember, lookup_cons_eq_ite]
    by_cases hname : name = n
    · have hnone : rest.lookup name = none := by
        rw [List.lookup_eq_none_iff]
        intro p hp
        have hne : name ≠ p.1 := fun heq => hn (List.mem_map.2 ⟨p, hp, heq ▸ hname⟩)
        simpa using hne
      rw [hnone, if_pos hname, if_pos hname]
      rfl
    · rw [if_neg hname, if_neg hname]

theorem keptItems_eq_map (items : List JsonValue) : keptItems items = items.map kept := by
  induction items with
  | nil => rfl
  | cons v rest ih => rw [keptItems, ih, List.map_cons]

end JsonValue

end KeyTrace
