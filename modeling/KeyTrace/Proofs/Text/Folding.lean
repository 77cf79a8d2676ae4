import KeyTrace.Proofs.Text.Token
import KeyTrace.Text.Folding

/-!
# Case folding and tokens

Patterns and tokens do not agree on what differs in case only. Tokens know the letters of ASCII;
case folding has two more characters for them, the long s and the sign for kelvin, which are in no
token. Apart from these two strays, characters that fold to the same letter are either both in no
token or have the same lower case.

## Main definitions

* `Folding.strays`: the two characters that fold to an ASCII letter and are none.
* `Word.Alike`: characters that are the same for tokens, up to case.

## Main results

* `Folding.alike_of_mem_orbit`: characters of one group are alike, unless one of them is a stray.
* `Folding.eq_space_of_mem_orbit`: only the space folds to the same as the space.
* `Token.exists_token_of_alike`: alike texts have the same tokens, up to case.
-/

namespace KeyTrace

namespace Word

/-- Two characters are both in no token, or both in tokens with the same lower case. -/
structure Alike (c d : Char) : Prop where
  word : isAsciiWord c = isAsciiWord d
  lower : isAsciiWord c = true → Lowercase.lowerAscii c = Lowercase.lowerAscii d

namespace Alike

variable {c d e : Char}

theorem refl (c : Char) : Alike c c := ⟨rfl, fun _ => rfl⟩

theorem symm (h : Alike c d) : Alike d c :=
  ⟨h.word.symm, fun hd => (h.lower (h.word.trans hd)).symm⟩

theorem trans (h : Alike c d) (h' : Alike d e) : Alike c e :=
  ⟨h.word.trans h'.word, fun hc => (h.lower hc).trans (h'.lower (h.word.symm.trans hc))⟩

theorem of_not_word (hc : isAsciiWord c = false) (hd : isAsciiWord d = false) : Alike c d := by
  constructor
  · rw [hc, hd]
  · intro hword
    rw [hc] at hword
    cases hword

end Alike

/-- No character beyond ASCII is in a token. -/
theorem isAsciiWord_ofNat {n : Nat} (h : 0x80 ≤ n) : isAsciiWord (Char.ofNat n) = false := by
  by_contra hword
  rw [Bool.not_eq_false] at hword
  have hlt := toNat_of_isAsciiWord hword
  by_cases hvalid : n.isValidChar
  · rw [Char.toNat_ofNat, if_pos hvalid] at hlt
    omega
  · have hzero : Char.ofNat n = '\x00' := by rw [Char.ofNat, dif_neg hvalid]; rfl
    rw [hzero] at hword
    cases hword

end Word

namespace Folding

open Word

/-- The characters that fold to an ASCII letter and are in no token: the long s and the sign for
kelvin. -/
def strays : List Char := ['\u017f', '\u212a']

theorem not_word_of_stray : ∀ c ∈ strays, isAsciiWord c = false := by
  intro c hc
  fin_cases hc
  · rfl
  · rfl

/-- A shift is that of the capital letters of ASCII, or it moves a stray, or all that it moves is
beyond ASCII and stays there. -/
theorem shifts_beyond_ascii : ∀ s ∈ shifts, s = ⟨0x41, 0x5a, 1, 32⟩ ∨
    0x80 ≤ s.first ∧
      (s.first = s.last ∧ Char.ofNat s.first ∈ strays ∨ 0x80 ≤ Int.ofNat s.first + s.delta) := by
  decide +kernel

/-- A shift moves a character to one that is alike, unless it is a stray. -/
theorem alike_of_moves {s : CaseShift} (hs : s ∈ shifts) {n : Nat} (hn : s.moves n = true)
    (hstray : Char.ofNat n ∉ strays) : Alike (Char.ofNat n) (Char.ofNat (s.apply n)) := by
  simp only [CaseShift.moves, Bool.and_eq_true, decide_eq_true_eq] at hn
  obtain ⟨⟨hfirst, hlast⟩, -⟩ := hn
  rcases shifts_beyond_ascii s hs with rfl | ⟨hbeyond, ⟨heq, hmem⟩ | hdelta⟩
  · have hcapitals : ∀ n < 0x5b, 0x41 ≤ n → isAsciiWord (Char.ofNat n) =
        isAsciiWord (Char.ofNat (n + 32)) ∧ Lowercase.lowerAscii (Char.ofNat n) =
        Lowercase.lowerAscii (Char.ofNat (n + 32)) := by decide
    dsimp only at hfirst hlast
    obtain ⟨hword, hlower⟩ := hcapitals n (by omega) hfirst
    exact ⟨hword, fun _ => hlower⟩
  · obtain rfl : s.first = n := by omega
    exact absurd hmem hstray
  · have happly : 0x80 ≤ s.apply n := by
      rw [CaseShift.apply]
      simp only [Int.ofNat_eq_natCast] at hdelta ⊢
      omega
    exact .of_not_word (isAsciiWord_ofNat (by omega)) (isAsciiWord_ofNat happly)

theorem alike_fold {c : Char} (h : c ∉ strays) : Alike c (fold c) := by
  rw [fold, CaseMap.image]
  split
  · rename_i s hs
    have hmoves : s.moves c.toNat = true := by simpa using List.find?_some hs
    have halike := alike_of_moves (List.mem_of_find?_eq_some hs) hmoves
    rw [Char.ofNat_toNat] at halike
    exact halike h
  · exact .refl c

theorem alike_of_mem_sources {c d : Char} (hd : d ∈ shifts.sources c) (h : d ∉ strays) :
    Alike d c := by
  obtain ⟨s, hs, hsource⟩ := List.mem_filterMap.1 hd
  obtain ⟨n, hn, rfl⟩ := Option.map_eq_some_iff.1 hsource
  simp only [CaseShift.source?] at hn
  split at hn
  · rename_i hmoves
    obtain rfl := Option.some.inj hn
    obtain ⟨hmoves, happly⟩ := Bool.and_eq_true_iff.1 hmoves
    have halike := alike_of_moves hs hmoves h
    rwa [beq_iff_eq.1 happly, Char.ofNat_toNat] at halike
  · cases hn

/-- **Characters that fold to the same letter are alike** for tokens, if both are strays or
neither is one. -/
theorem alike_of_mem_orbit {c d : Char} (hd : d ∈ orbit c) (h : c ∈ strays ↔ d ∈ strays) :
    Alike c d := by
  by_cases hc : c ∈ strays
  · exact .of_not_word (not_word_of_stray c hc) (not_word_of_stray d (h.1 hc))
  · have hd' : d ∉ strays := fun hmem => hc (h.2 hmem)
    rcases List.mem_cons.1 hd with rfl | hsource
    · exact alike_fold hc
    · exact (alike_fold hc).trans (alike_of_mem_sources hsource hd').symm

/-- No shift moves a character to the space, or from it. -/
theorem shifts_beyond_space : ∀ s ∈ shifts,
    0x20 < s.first ∧ 0x20 < Int.ofNat s.first + s.delta := by
  decide +kernel

theorem lt_of_moves {s : CaseShift} (hs : s ∈ shifts) {n : Nat} (hn : s.moves n = true) :
    0x20 < n ∧ 0x20 < s.apply n := by
  obtain ⟨hfirst, hdelta⟩ := shifts_beyond_space s hs
  simp only [CaseShift.moves, Bool.and_eq_true, decide_eq_true_eq] at hn
  simp only [CaseShift.apply, Int.ofNat_eq_natCast] at hdelta ⊢
  omega

theorem ofNat_ne_space {n : Nat} (h : 0x20 < n) : Char.ofNat n ≠ ' ' := by
  intro heq
  have hcode : (Char.ofNat n).toNat = 0x20 := by rw [heq]; rfl
  rw [Char.toNat_ofNat] at hcode
  split at hcode
  · omega
  · cases hcode

/-- **Only the space folds to the same as the space.** -/
theorem eq_space_of_mem_orbit {c : Char} (h : ' ' ∈ orbit c) : c = ' ' := by
  rcases List.mem_cons.1 h with hfold | hsource
  · rw [fold, CaseMap.image] at hfold
    split at hfold
    · rename_i s hs
      have hmoves : s.moves c.toNat = true := by simpa using List.find?_some hs
      have hlt := lt_of_moves (List.mem_of_find?_eq_some hs) hmoves
      exact absurd hfold.symm (ofNat_ne_space hlt.2)
    · exact hfold.symm
  · obtain ⟨s, hs, hsource⟩ := List.mem_filterMap.1 hsource
    obtain ⟨n, hn, hspace⟩ := Option.map_eq_some_iff.1 hsource
    simp only [CaseShift.source?] at hn
    split at hn
    · rename_i hmoves
      obtain rfl := Option.some.inj hn
      have hlt := lt_of_moves hs (Bool.and_eq_true_iff.1 hmoves).1
      exact absurd hspace (ofNat_ne_space hlt.1)
    · cases hn

end Folding

/-! ### Tokens of alike texts -/

/-- Texts that agree on where to cut have pieces that agree. -/
theorem Pieces.forall₂_cut {α : Type} {R : α → α → Prop} {sep : α → Bool} {s t : List α}
    (h : List.Forall₂ R s t) (hsep : ∀ a b, R a b → sep a = sep b) :
    List.Forall₂ (List.Forall₂ R) (cut sep s) (cut sep t) := by
  induction h with
  | nil => exact .cons .nil .nil
  | @cons a b s t hab _ ih =>
    rw [cut, cut, hsep a b hab]
    split
    · exact .cons .nil ih
    · generalize cut sep s = p at ih
      generalize cut sep t = q at ih
      cases ih with
      | nil => exact .cons (.cons hab .nil) .nil
      | cons hhead htail => exact .cons (.cons hab hhead) htail

theorem exists_of_forall₂ {α β : Type} {R : α → β → Prop} {s : List α} {t : List β}
    (h : List.Forall₂ R s t) {a : α} (ha : a ∈ s) : ∃ b ∈ t, R a b := by
  induction h with
  | nil => cases ha
  | @cons a' b s t hab _ ih =>
    rcases List.mem_cons.1 ha with rfl | ha
    · exact ⟨b, List.mem_cons_self .., hab⟩
    · obtain ⟨b', hb', hab'⟩ := ih ha
      exact ⟨b', List.mem_cons_of_mem b hb', hab'⟩

theorem Word.map_lowerAscii_of_alike {s t : List Char} (h : List.Forall₂ Alike s t)
    (hs : ∀ c ∈ s, isAsciiWord c = true) :
    s.map Lowercase.lowerAscii = t.map Lowercase.lowerAscii := by
  induction h with
  | nil => rfl
  | @cons c d s t hcd _ ih =>
    rw [List.map_cons, List.map_cons, hcd.lower (hs c (List.mem_cons_self ..)),
      ih fun e he => hs e (List.mem_cons_of_mem c he)]

/-- **Alike texts have the same tokens**, up to case. -/
theorem Token.exists_token_of_alike {s t p : List Char} (h : List.Forall₂ Word.Alike s t)
    (hp : p ∈ tokens s) :
    ∃ q ∈ tokens t, p.map Lowercase.lowerAscii = q.map Lowercase.lowerAscii := by
  obtain ⟨hcut, hne⟩ := List.mem_filter.1 hp
  have hpieces : List.Forall₂ (List.Forall₂ Word.Alike)
      (Pieces.cut (fun c => !Word.isAsciiWord c) s) (Pieces.cut (fun c => !Word.isAsciiWord c) t) :=
    Pieces.forall₂_cut h fun a b hab => congrArg Bool.not hab.word
  obtain ⟨q, hq, halike⟩ := exists_of_forall₂ hpieces hcut
  have hne' : (!q.isEmpty) = true := by
    cases halike with
    | nil => exact hne
    | cons => rfl
  exact ⟨q, List.mem_filter.2 ⟨hq, hne'⟩,
    Word.map_lowerAscii_of_alike halike (isAsciiWord_of_mem hp)⟩

end KeyTrace
