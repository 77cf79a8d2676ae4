import KeyTrace.Index.Token
import KeyTrace.Text.Lowercase
import Mathlib

/-!
# Tokens of a text

Tokens are made of ASCII word characters only, so their lower case is that of ASCII. A character
that is no word character cuts a text into two whose tokens have nothing to do with each other; a
text between two such characters therefore keeps all of its tokens.

## Main definitions

* `Token.Apart`: a key stands in a text between characters that are in no token.

## Main results

* `Token.isAsciiWord_of_mem`: tokens are made of ASCII word characters.
* `Token.tokens_append`: the tokens on both sides of another character.
* `Token.Apart.tokens_subset`: a key that stands apart has its tokens in the text.
* `Token.probe_mem`, `Token.exists_probe`: the probe of a key.
* `Lowercase.lowerChars_of_ascii`: the lower case of ASCII.
-/

namespace KeyTrace

namespace Pieces

variable {α : Type} {sep : α → Bool} {a : α}

theorem cut_ne_nil (sep : α → Bool) (s : List α) : cut sep s ≠ [] := by
  cases s with
  | nil => exact List.cons_ne_nil _ _
  | cons a rest =>
    rw [cut]
    split
    · exact List.cons_ne_nil _ _
    · cases cut sep rest with
      | nil => exact List.cons_ne_nil _ _
      | cons p ps => exact List.cons_ne_nil _ _

theorem push_append (a : α) {s : List (List α)} (h : s ≠ []) (t : List (List α)) :
    push a (s ++ t) = push a s ++ t := by
  cases s with
  | nil => exact absurd rfl h
  | cons p rest => rfl

/-- A separator keeps the pieces before it apart from those after it. -/
theorem cut_append (h : sep a = true) (s t : List α) :
    cut sep (s ++ a :: t) = cut sep s ++ cut sep t := by
  induction s with
  | nil => simp [cut, h]
  | cons b rest ih =>
    rw [List.cons_append, cut, cut, ih]
    split
    · rfl
    · exact push_append b (cut_ne_nil sep rest) _

/-- There are no separators in a piece. -/
theorem sep_eq_false_of_mem {s p : List α} (hp : p ∈ cut sep s) : ∀ x ∈ p, sep x = false := by
  induction s generalizing p with
  | nil =>
    obtain rfl := List.mem_singleton.1 hp
    exact nofun
  | cons b rest ih =>
    rw [cut] at hp
    split at hp
    · rcases List.mem_cons.1 hp with rfl | hp
      · exact nofun
      · exact ih hp
    · rename_i hb
      have hb : sep b = false := by simpa using hb
      cases hcut : cut sep rest with
      | nil => exact absurd hcut (cut_ne_nil sep rest)
      | cons q qs =>
        rw [hcut, push] at hp
        rcases List.mem_cons.1 hp with rfl | hp
        · intro x hx
          rcases List.mem_cons.1 hx with rfl | hx
          · exact hb
          · exact ih (hcut ▸ List.mem_cons_self ..) x hx
        · exact ih (hcut ▸ List.mem_cons_of_mem q hp)

/-- Each element that is no separator is in some piece. -/
theorem exists_mem_cut (sep : α → Bool) {s : List α} (ha : a ∈ s) (h : sep a = false) :
    ∃ p ∈ cut sep s, a ∈ p := by
  induction s with
  | nil => cases ha
  | cons b rest ih =>
    rw [cut]
    split
    · rename_i hb
      rcases List.mem_cons.1 ha with rfl | ha
      · simp [h] at hb
      · obtain ⟨p, hp, hap⟩ := ih ha
        exact ⟨p, List.mem_cons_of_mem _ hp, hap⟩
    · cases hcut : cut sep rest with
      | nil => exact absurd hcut (cut_ne_nil sep rest)
      | cons q qs =>
        rcases List.mem_cons.1 ha with rfl | ha
        · exact ⟨a :: q, List.mem_cons_self .., List.mem_cons_self ..⟩
        · obtain ⟨p, hp, hap⟩ := ih ha
          rw [hcut] at hp
          rcases List.mem_cons.1 hp with rfl | hp
          · exact ⟨b :: p, List.mem_cons_self .., List.mem_cons_of_mem b hap⟩
          · exact ⟨p, List.mem_cons_of_mem _ hp, hap⟩

end Pieces

namespace Token

theorem isAsciiWord_of_mem {s t : List Char} (h : t ∈ tokens s) :
    ∀ c ∈ t, Word.isAsciiWord c = true := by
  intro c hc
  simpa using Pieces.sep_eq_false_of_mem (List.mem_filter.1 h).1 c hc

/-- **A character that is in no token cuts the tokens of a text.** -/
theorem tokens_append {c : Char} (h : Word.isAsciiWord c = false) (s t : List Char) :
    tokens (s ++ c :: t) = tokens s ++ tokens t := by
  rw [tokens, Pieces.cut_append (by simp [h]), List.filter_append, tokens, tokens]

theorem tokens_cons {c : Char} (h : Word.isAsciiWord c = false) (s : List Char) :
    tokens (c :: s) = tokens s :=
  tokens_append h [] s

/-- A key stands in a text with a character on either side that is in no token. -/
def Apart (key text : List Char) : Prop :=
  ∃ a c d b, text = a ++ c :: (key ++ d :: b) ∧
    Word.isAsciiWord c = false ∧ Word.isAsciiWord d = false

theorem Apart.mono {key w text : List Char} (h : Apart key w) (hw : w <:+: text) :
    Apart key text := by
  obtain ⟨a, c, d, b, rfl, hc, hd⟩ := h
  obtain ⟨s, t, rfl⟩ := hw
  exact ⟨s ++ a, c, d, b ++ t, by simp, hc, hd⟩

/-- **A key that stands apart in a text has all its tokens there.** -/
theorem Apart.tokens_subset {key text : List Char} (h : Apart key text) :
    tokens key ⊆ tokens text := by
  obtain ⟨a, c, d, b, rfl, hc, hd⟩ := h
  rw [tokens_append hc, tokens_append hd]
  intro t ht
  exact List.mem_append_right _ (List.mem_append_left _ ht)

/-- Spaces around a text make no difference. -/
theorem tokens_padded (s : List Char) : tokens (' ' :: s ++ [' ']) = tokens s := by
  have hspace : Word.isAsciiWord ' ' = false := rfl
  rw [List.cons_append, tokens_cons hspace, tokens_append hspace]
  exact List.append_nil _

/-- An ASCII word character is in some token. -/
theorem exists_mem_tokens {s : List Char} {c : Char} (hc : c ∈ s) (h : Word.isAsciiWord c = true) :
    ∃ t ∈ tokens s, c ∈ t := by
  obtain ⟨t, ht, hct⟩ := Pieces.exists_mem_cut (fun c => !Word.isAsciiWord c) hc (by simp [h])
  exact ⟨t, List.mem_filter.2 ⟨ht, by simpa using List.ne_nil_of_mem hct⟩, hct⟩

/-- The longest of some tokens is one of them. -/
theorem mem_of_foldl_longer {ts : List (List Char)} {best : Option (List Char)} {p : List Char}
    (h : ts.foldl longer best = some p) : best = some p ∨ p ∈ ts := by
  induction ts generalizing best with
  | nil => exact Or.inl h
  | cons t rest ih =>
    rcases ih h with h | h
    · cases best with
      | none => exact Or.inr (Option.some.inj h ▸ List.mem_cons_self ..)
      | some b =>
        rw [longer] at h
        split at h
        · exact Or.inl h
        · exact Or.inr (Option.some.inj h ▸ List.mem_cons_self ..)
    · exact Or.inr (List.mem_cons_of_mem t h)

theorem isSome_foldl_longer (ts : List (List Char)) {best : Option (List Char)}
    (h : best.isSome = true) : (ts.foldl longer best).isSome = true := by
  induction ts generalizing best with
  | nil => exact h
  | cons t rest ih =>
    refine ih ?_
    cases best with
    | none => rfl
    | some b =>
      rw [longer]
      split <;> rfl

/-- The probe of a key is one of its tokens. -/
theorem probe_mem {key p : List Char} (h : probe key = some p) : p ∈ tokens key :=
  (mem_of_foldl_longer h).resolve_left nofun

/-- A key with an ASCII word character has a probe. -/
theorem exists_probe {key : List Char} {c : Char} (hc : c ∈ key) (h : Word.isAsciiWord c = true) :
    ∃ p, probe key = some p := by
  obtain ⟨t, ht, -⟩ := exists_mem_tokens hc h
  refine Option.isSome_iff_exists.1 ?_
  rw [probe]
  cases htokens : tokens key with
  | nil => rw [htokens] at ht; cases ht
  | cons t rest => exact isSome_foldl_longer rest rfl

end Token

namespace Lowercase

theorem lowerFrom_of_ascii (before : List Char) {s : List Char} (h : ∀ c ∈ s, c.toNat < 0x80) :
    lowerFrom before s = s.map lowerAscii := by
  induction s generalizing before with
  | nil => rfl
  | cons c rest ih =>
    have hc := h c (List.mem_cons_self ..)
    have hrest := ih (c :: before) fun d hd => h d (List.mem_cons_of_mem c hd)
    rw [lowerFrom, hrest, List.map_cons, lowerChar, if_pos hc]
    unfold lowerAscii
    split <;> rfl

/-- The lower case of ASCII takes one character at a time. -/
theorem lowerChars_of_ascii {s : List Char} (h : ∀ c ∈ s, c.toNat < 0x80) :
    lowerChars s = s.map lowerAscii :=
  lowerFrom_of_ascii [] h

end Lowercase

theorem Word.toNat_of_isAsciiWord {c : Char} (h : isAsciiWord c = true) : c.toNat < 0x80 := by
  simp only [isAsciiWord, Bool.or_eq_true, Bool.and_eq_true, decide_eq_true_eq, beq_iff_eq] at h
  rcases h with ((⟨-, h⟩ | ⟨-, h⟩) | ⟨-, h⟩) | rfl
  · exact Nat.lt_of_le_of_lt h (by decide)
  · exact Nat.lt_of_le_of_lt h (by decide)
  · exact Nat.lt_of_le_of_lt h (by decide)
  · decide

/-- The lower case of a token. -/
theorem Token.lowerChars_of_mem {s t : List Char} (h : t ∈ tokens s) :
    Lowercase.lowerChars t = t.map Lowercase.lowerAscii :=
  Lowercase.lowerChars_of_ascii fun c hc => Word.toNat_of_isAsciiWord (isAsciiWord_of_mem h c hc)

end KeyTrace
