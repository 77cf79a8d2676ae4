import KeyTrace.Pattern.ClassReader
import Mathlib.Data.List.Basic
import Mathlib.Data.List.TakeWhile
import Mathlib.Tactic.FinCases

/-!
# How far an item reaches

An item of a pattern is read up to its end, and what stands behind the end is seldom looked at. So
what is read from a text is read as well where more text follows, if the text was not left at a
point where what follows would still count: a question mark or a brace would be taken as part of the
item, and blanks that mean nothing may be the start of a comment. The same is said of letters that
match in either case, which never change where an item ends.

Readers are put together from smaller ones, and so are these statements.

## Main definitions

* `Pattern.Follows`: a text may stand where another one was left.
* `Pattern.ExtendsBy`, `Pattern.Extends`: what is read is read where more text follows, too.
* `Flags.folding`, `Atom.Alike`: switches and items that differ in case only.

## Main results

* `Pattern.skip_append`: blanks are passed over alike.
* `ExtendsBy.bind`, `ExtendsBy.skip`, `ExtendsBy.of_skip`: one reader after another.
* `Pattern.extends_readEscape`: escapes are read alike.
-/

namespace KeyTrace

namespace Pattern

/-! ### Reading where more text follows -/

/-- The text `w` may stand where `rest` was left: behind the end of what was read, blanks must mean
something, and no sign may follow that would be taken as part of the item before it. -/
def Follows (spaced : Bool) (rest w : List Char) : Prop :=
  rest = [] → ∀ c ∈ w.head?, spaced = false ∧ c ≠ '?' ∧ c ≠ '\x7b'

theorem Follows.mono {spaced : Bool} {s rest w : List Char} (h : Follows spaced rest w)
    (hsuffix : rest <:+ s) : Follows spaced s w := by
  rintro rfl
  exact h (List.suffix_nil.1 hsuffix)

theorem Follows.of_ne_nil {spaced : Bool} {rest w : List Char} (h : rest ≠ []) :
    Follows spaced rest w := fun hnil => absurd hnil h

/-- What is read from `s` is read where more text follows, too: `r` is what is read from `s` alone,
`more w` what is read from `s` with `w` behind it, and `spaced a` whether blanks mean nothing once
`a` was read. -/
def ExtendsBy {α β : Type} (spaced : α → Bool) (rel : α → β → Prop) (s : List Char)
    (r : Option (α × List Char)) (more : List Char → Option (β × List Char)) : Prop :=
  ∀ a rest, r = some (a, rest) → rest <:+ s ∧
    ∀ w, Follows (spaced a) rest w → ∃ b, more w = some (b, rest ++ w) ∧ rel a b

/-- The same, where what is read does not change whether blanks mean something. -/
abbrev Extends {α β : Type} (spaced : Bool) : (α → β → Prop) → List Char →
    Option (α × List Char) → (List Char → Option (β × List Char)) → Prop :=
  ExtendsBy fun _ => spaced

theorem dropBlank_suffix (inComment : Bool) (s : List Char) : dropBlank inComment s <:+ s := by
  induction s generalizing inComment with
  | nil => exact List.suffix_refl _
  | cons c rest ih =>
    rw [dropBlank]
    split
    · exact (ih _).trans (List.suffix_cons c rest)
    · split
      · exact (ih _).trans (List.suffix_cons c rest)
      · split
        · exact (ih _).trans (List.suffix_cons c rest)
        · exact List.suffix_refl _

theorem skip_suffix (spaced : Bool) (s : List Char) : skip spaced s <:+ s := by
  rw [skip]
  split
  · exact dropBlank_suffix false s
  · exact List.suffix_refl s

theorem dropBlank_append {inComment : Bool} {s : List Char} (h : dropBlank inComment s ≠ [])
    (w : List Char) : dropBlank inComment (s ++ w) = dropBlank inComment s ++ w := by
  induction s generalizing inComment with
  | nil => exact absurd rfl h
  | cons c rest ih =>
    rw [dropBlank] at h
    rw [List.cons_append, dropBlank, dropBlank]
    split_ifs at h ⊢
    · exact ih h
    · exact ih h
    · exact ih h
    · rfl

/-- Blanks are passed over alike where something is left behind them. -/
theorem skip_append {spaced : Bool} {s w : List Char} (h : Follows spaced (skip spaced s) w) :
    skip spaced (s ++ w) = skip spaced s ++ w := by
  cases spaced with
  | false => rfl
  | true =>
    by_cases hnil : dropBlank false s = []
    · cases w with
      | nil => simp
      | cons c w => exact absurd (h hnil c rfl).1 (by decide)
    · exact dropBlank_append hnil w

theorem suffix_cons_of_skip {spaced : Bool} {s t : List Char} (h : t <:+ skip spaced s) (c : Char) :
    t <:+ c :: s := (h.trans (skip_suffix spaced s)).trans (List.suffix_cons c s)

theorem skip_append_of_suffix {spaced : Bool} {s t : List Char} {c : Char}
    (h : c :: t <:+ skip spaced s) (w : List Char) :
    skip spaced (s ++ w) = skip spaced s ++ w := by
  refine skip_append (.of_ne_nil fun hnil => ?_)
  rw [hnil] at h
  cases List.suffix_nil.1 h

theorem length_append_add (s w : List Char) (n : Nat) :
    (s ++ w).length + n = s.length + n + w.length := by
  rw [List.length_append, Nat.add_right_comm]

theorem add_length_succ (fuel : Nat) (w : List Char) :
    fuel + 1 + w.length = fuel + w.length + 1 := Nat.add_right_comm fuel 1 w.length

section Combinators

variable {α β γ δ : Type} {x : Bool} {spaced : α → Bool} {spaced' : γ → Bool} {P : α → β → Prop}
  {Q : γ → δ → Prop} {s : List Char} {r : Option (α × List Char)}
  {more : List Char → Option (β × List Char)}

namespace ExtendsBy

theorem none : ExtendsBy spaced P s Option.none more := nofun

/-- The text is left as it is. -/
theorem some {a : α} {b : β} (h : P a b) :
    ExtendsBy spaced P s (some (a, s)) fun w => some (b, s ++ w) := by
  rintro _ _ ⟨⟩
  exact ⟨List.suffix_refl s, fun w _ => ⟨b, rfl, h⟩⟩

/-- Something has been read already. -/
theorem of_suffix {t : List Char} (ht : t <:+ s) (h : ExtendsBy spaced P t r more) :
    ExtendsBy spaced P s r more := by
  intro a rest hr
  obtain ⟨hsuffix, hmore⟩ := h a rest hr
  exact ⟨hsuffix.trans ht, hmore⟩

theorem cons (c : Char) (h : ExtendsBy spaced P s r more) : ExtendsBy spaced P (c :: s) r more :=
  h.of_suffix (List.suffix_cons c s)

/-- Blanks are passed over first, and what is done then is said of the text behind them. -/
theorem of_skip {c : Char} {t : List Char} {m : List Char → Option (β × List Char)}
    (ht : skip x s = c :: t) (h : ExtendsBy spaced P (c :: t) r m)
    (hmore : ∀ w, skip x (s ++ w) = c :: t ++ w → more w = m w) :
    ExtendsBy spaced P s r more := by
  intro a rest hr
  obtain ⟨hsuffix, hrest⟩ := h a rest hr
  refine ⟨hsuffix.trans (ht ▸ skip_suffix x s), fun w hw => ?_⟩
  rw [hmore w (by rw [skip_append (.of_ne_nil (by simp [ht])), ht])]
  exact hrest w hw

/-- Only what is read matters. -/
theorem of_read (h : ∀ a rest, r = Option.some (a, rest) → ExtendsBy spaced P s r more) :
    ExtendsBy spaced P s r more := fun a rest hr => h a rest hr a rest hr

/-- Something is worked out before reading goes on. -/
theorem of_bind {a : Option γ} {b : Option δ} {K : γ → Option (α × List Char)}
    {L : List Char → δ → Option (β × List Char)}
    (h : ∀ c, a = Option.some c →
      ∃ d, b = Option.some d ∧ ExtendsBy spaced P s (K c) fun w => L w d) :
    ExtendsBy spaced P s (a.bind K) fun w => b.bind (L w) := by
  intro e rest hr
  obtain ⟨c, rfl, he⟩ := Option.bind_eq_some_iff.1 hr
  obtain ⟨d, rfl, hext⟩ := h c rfl
  exact hext e rest he

/-- What was read is taken for something, if it can be. -/
theorem ofOption {a : Option γ} {b : Option δ} {f : γ → α} {g : δ → β}
    (h : ∀ c, a = Option.some c → ∃ d, b = Option.some d ∧ P (f c) (g d)) :
    ExtendsBy spaced P s (a.map fun c => (f c, s)) fun w => b.map fun d => (g d, s ++ w) := by
  intro _ _ hr
  obtain ⟨c, rfl, heq⟩ := Option.map_eq_some_iff.1 hr
  obtain ⟨rfl, rfl⟩ := Prod.mk.inj heq
  obtain ⟨d, rfl, hrel⟩ := h c rfl
  exact ⟨List.suffix_refl s, fun w _ => ⟨g d, rfl, hrel⟩⟩

/-- Blanks are passed over first. -/
theorem skip {R : List Char → List Char → Option (β × List Char)}
    (h : Extends x P (Pattern.skip x s) r fun w => R w (Pattern.skip x s ++ w)) :
    Extends x P s r fun w => R w (Pattern.skip x (s ++ w)) := by
  intro a rest hr
  obtain ⟨hsuffix, hmore⟩ := h a rest hr
  refine ⟨hsuffix.trans (skip_suffix x s), fun w hw => ?_⟩
  have hskip : Pattern.skip x (s ++ w) = Pattern.skip x s ++ w := skip_append (hw.mono hsuffix)
  simp only [hskip]
  exact hmore w hw

/-- One reader after another. -/
theorem bind {K : α × List Char → Option (γ × List Char)}
    {L : List Char → β × List Char → Option (δ × List Char)} (h : Extends x P s r more)
    (hK : ∀ a b t, P a b → Extends x Q t (K (a, t)) fun w => L w (b, t ++ w)) :
    Extends x Q s (r.bind K) fun w => (more w).bind (L w) := by
  intro c rest hr
  obtain ⟨⟨a, t⟩, ha, hc⟩ := Option.bind_eq_some_iff.1 hr
  obtain ⟨hsuffix, hmore⟩ := h a t ha
  obtain ⟨b₀, -, hb₀⟩ := hmore [] fun _ _ => nofun
  obtain ⟨hrest, -⟩ := hK a b₀ t hb₀ c rest hc
  refine ⟨hrest.trans hsuffix, fun w hw => ?_⟩
  obtain ⟨b, hb, hab⟩ := hmore w (hw.mono hrest)
  obtain ⟨d, hd, hcd⟩ := (hK a b t hab c rest hc).2 w hw
  exact ⟨d, Option.bind_eq_some_iff.2 ⟨(b, t ++ w), hb, hd⟩, hcd⟩

/-- What was read is taken for something else. -/
theorem map {f : α → γ} {g : β → δ} (h : Extends x P s r more)
    (hfg : ∀ a b, P a b → Q (f a) (g b)) :
    Extends x Q s (r.map fun p => (f p.1, p.2)) fun w => (more w).map fun p => (g p.1, p.2) := by
  intro c rest hr
  obtain ⟨⟨a, t⟩, ha, heq⟩ := Option.map_eq_some_iff.1 hr
  obtain ⟨rfl, rfl⟩ := Prod.mk.inj heq
  obtain ⟨hsuffix, hmore⟩ := h a t ha
  refine ⟨hsuffix, fun w hw => ?_⟩
  obtain ⟨b, hb, hab⟩ := hmore w hw
  exact ⟨g b, Option.map_eq_some_iff.2 ⟨_, hb, rfl⟩, hfg a b hab⟩

end ExtendsBy

end Combinators

/-! ### Escapes -/

/-- The switches, with letters matching in either case or not. -/
def Flags.folding (f : Flags) (ignoreCase : Bool) : Flags := { f with ignoreCase := ignoreCase }

/-- Items that are of one kind, and the same character or the same assertion. -/
inductive Atom.Alike : Atom → Atom → Prop
  | literal (c : Char) (isByte : Bool) : Alike (.literal c isByte) (.literal c isByte)
  | set (k k' : CharClass) : Alike (.set k) (.set k')
  | look (l : Look) : Alike (.look l) (.look l)

/-- Whether a class can be closed does not depend on case. -/
theorem exists_closeSet {f : Flags} {negated : Bool} {k k₁ : CharClass}
    (h : closeSet f negated k = some k₁) (ignoreCase : Bool) (k' : CharClass) :
    ∃ k₂, closeSet (f.folding ignoreCase) negated k' = some k₂ := by
  have hclosed : (negated && !f.unicode) = false := by
    rw [closeSet, CharClass.close] at h
    split at h
    · cases h
    · rename_i hfalse
      simpa using hfalse
  have hfolding : (negated && !(f.folding ignoreCase).unicode) = false := hclosed
  rw [closeSet, CharClass.close, hfolding]
  exact ⟨_, rfl⟩

section Escapes

variable {x : Bool} {s : List Char}

theorem extends_readHexDigits (value n : Nat) :
    Extends x Eq s (readHexDigits x value n s) fun w => readHexDigits x value n (s ++ w) := by
  induction n generalizing value s with
  | zero => exact .some rfl
  | succ n ih =>
    cases s with
    | nil => exact .none
    | cons c s =>
      simp only [readHexDigits, List.cons_append]
      cases hexDigit? c with
      | none => exact .none
      | some d => exact .cons c (.skip (R := fun _ => readHexDigits x (16 * value + d) n) (ih _))

theorem extends_readHexBraced (fuel value count : Nat) :
    Extends x Eq s (readHexBraced x fuel value count s)
      fun w => readHexBraced x (fuel + w.length) value count (s ++ w) := by
  induction fuel generalizing value count s with
  | zero => exact .none
  | succ fuel ih =>
    cases s with
    | nil => exact .none
    | cons c s =>
      simp only [readHexBraced, List.cons_append, add_length_succ]
      refine .cons c ?_
      split
      · split
        · exact .none
        · exact .skip (R := fun _ s => some (value, s)) (.some rfl)
      · cases hexDigit? c with
        | none => exact .none
        | some d =>
          exact .skip (R := fun w => readHexBraced x (fuel + w.length) (16 * value + d) (count + 1))
            (ih _ _)

theorem extends_readHex {digits : Nat} (hdigits : digits ≠ 0) :
    Extends x Atom.Alike s (readHex x digits s) fun w => readHex x digits (s ++ w) := by
  have hscalar : ∀ (isByte : Bool) (n m : Nat) (t : List Char), n = m →
      Extends x Atom.Alike t ((scalar? n).map fun c => (Atom.literal c isByte, t))
        fun w => (scalar? m).map fun c => (Atom.literal c isByte, t ++ w) := by
    rintro isByte n _ t rfl
    exact .ofOption fun c hc => ⟨c, hc, .literal c isByte⟩
  have hplain : Extends x Atom.Alike s
      ((readHexDigits x 0 digits s).bind fun p =>
        (scalar? p.1).map fun c => (Atom.literal c (digits == 2), p.2))
      fun w => (readHexDigits x 0 digits (s ++ w)).bind fun p =>
        (scalar? p.1).map fun c => (Atom.literal c (digits == 2), p.2) :=
    (extends_readHexDigits 0 digits).bind fun n m t h => hscalar _ n m t h
  cases s with
  | nil =>
    obtain ⟨n, rfl⟩ := Nat.exists_eq_succ_of_ne_zero hdigits
    exact .none
  | cons c s =>
    by_cases hc : c = '\x7b'
    · obtain rfl := hc
      simp only [readHex, List.cons_append, length_append_add]
      refine .cons _ (ExtendsBy.bind ?_ fun n m t h => hscalar _ n m t h)
      exact .skip (R := fun w => readHexBraced x (s.length + 1 + w.length) 0 0)
        (extends_readHexBraced _ _ _)
    · have hread : ∀ t, readHex x digits (c :: t) =
          (readHexDigits x 0 digits (c :: t)).bind fun p =>
            (scalar? p.1).map fun c => (Atom.literal c (digits == 2), p.2) := by
        intro t
        rw [readHex]
        simpa using hc
      simp only [List.cons_append, hread]
      exact hplain

theorem extends_readName (acc : List Char) (fuel : Nat) :
    Extends x Eq s (readName x acc fuel s) fun w => readName x acc (fuel + w.length) (s ++ w) := by
  induction fuel generalizing acc s with
  | zero => exact .none
  | succ fuel ih =>
    cases s with
    | nil => exact .none
    | cons c s =>
      simp only [readName, List.cons_append, add_length_succ]
      refine .cons c ?_
      split
      · exact .some rfl
      · exact .skip (R := fun w => readName x (c :: acc) (fuel + w.length)) (ih _)

theorem extends_readProperty (f : Flags) (ignoreCase negated : Bool) :
    Extends f.spaced Atom.Alike s (readProperty f negated s)
      fun w => readProperty (f.folding ignoreCase) negated (s ++ w) := by
  have hclose : ∀ (n : Bool) (k : CharClass) (t : List Char), Extends f.spaced Atom.Alike t
      ((closeSet f n k).map fun k => (Atom.set k, t))
      fun w => (closeSet (f.folding ignoreCase) n k).map fun k => (Atom.set k, t ++ w) := by
    intro n k t
    refine .ofOption fun k₁ hk₁ => ?_
    obtain ⟨k₂, hk₂⟩ := exists_closeSet hk₁ ignoreCase k
    exact ⟨k₂, hk₂, .set k₁ k₂⟩
  have hfolding : (f.folding ignoreCase).unicode = f.unicode := rfl
  have hspaced : (f.folding ignoreCase).spaced = f.spaced := rfl
  cases hunicode : f.unicode with
  | false =>
    rw [readProperty, hunicode]
    exact .none
  | true =>
    cases hskip : skip f.spaced s with
    | nil =>
      rw [readProperty, hunicode, hskip]
      exact .none
    | cons c t =>
      by_cases hc : c = '\x7b'
      · obtain rfl := hc
        have hname := ExtendsBy.skip (R := fun w => readName f.spaced [] (t.length + 1 + w.length))
          (extends_readName (s := skip f.spaced t) [] (t.length + 1))
        have h := hname.bind (K := fun p => (propertyOf p.1).bind fun q =>
            (closeSet f (negated != q.2) q.1).map fun k => (Atom.set k, p.2))
          (L := fun _ p => (propertyOf p.1).bind fun q =>
            (closeSet (f.folding ignoreCase) (negated != q.2) q.1).map fun k => (Atom.set k, p.2))
          (Q := Atom.Alike) ?_
        · rw [readProperty, hunicode, hskip]
          refine .of_skip hskip (h.cons _) fun w hw => ?_
          rw [readProperty, hfolding, hunicode, hspaced, hw, ← length_append_add]
          rfl
        · rintro name _ u rfl
          dsimp only
          cases propertyOf name with
          | none => exact .none
          | some q => exact hclose _ _ u
      · have hread : ∀ (g : Flags) (u v : List Char), g.unicode = true →
            skip g.spaced u = c :: v → readProperty g negated u =
              if c == '\\' then none
              else (CharClass.named? [c]).bind fun k =>
                (closeSet g negated k).map fun k => (Atom.set k, v) := by
          intro g u v hg hu
          rw [readProperty, hg, hu]
          simp
        rw [hread f s t hunicode hskip]
        refine .of_skip hskip (m := fun w => if c == '\\' then none
          else (CharClass.named? [c]).bind fun k =>
            (closeSet (f.folding ignoreCase) negated k).map fun k => (Atom.set k, t ++ w)) ?_
          fun w hw => hread _ _ _ hunicode hw
        refine .cons c ?_
        cases c == '\\' with
        | true => exact .none
        | false =>
          cases CharClass.named? [c] with
          | none => exact .none
          | some k => exact hclose negated k t

/-- A name that something is left behind ends there. -/
theorem readBoundaryName_append {acc name left : List Char} {fuel : Nat} {c : Char}
    (hfuel : s.length < fuel) (h : readBoundaryName x acc fuel s = (name, c :: left)) :
    c :: left <:+ s ∧ ∀ w, readBoundaryName x acc (fuel + w.length) (s ++ w) =
      (name, c :: left ++ w) := by
  induction fuel generalizing acc s with
  | zero => cases hfuel
  | succ fuel ih =>
    cases s with
    | nil => cases h
    | cons d s =>
      rw [readBoundaryName] at h
      split at h
      · rename_i hd
        have hlength : (skip x s).length < fuel :=
          Nat.lt_of_le_of_lt (skip_suffix x s).length_le (Nat.lt_of_succ_lt_succ hfuel)
        obtain ⟨hsuffix, hmore⟩ := ih hlength h
        refine ⟨suffix_cons_of_skip hsuffix d, fun w => ?_⟩
        rw [add_length_succ, List.cons_append, readBoundaryName, if_pos hd,
          skip_append_of_suffix hsuffix, hmore]
      · rename_i hd
        obtain ⟨rfl, hrest⟩ := Prod.mk.inj h
        obtain ⟨rfl, rfl⟩ := List.cons.inj hrest
        refine ⟨List.suffix_refl _, fun w => ?_⟩
        rw [add_length_succ, List.cons_append, readBoundaryName, if_neg hd]

/-- The special boundary of a name. -/
def specialLook (unicode : Bool) (name : String) : Option Look :=
  match name with
  | "start" => some (.wordStart unicode)
  | "end" => some (.wordEnd unicode)
  | "start-half" => some (.wordStartHalf unicode)
  | "end-half" => some (.wordEndHalf unicode)
  | _ => none

theorem readBoundary_special {f : Flags} {c : Char} {more name left : List Char}
    (hskip : skip f.spaced s = c :: more) (hc : isBoundaryChar c = true)
    (hname : readBoundaryName f.spaced [] (more.length + 2) (c :: more) = (name, '\x7d' :: left)) :
    readBoundary f ('\x7b' :: s) =
      (specialLook f.unicode (String.ofList name)).map fun l => (.look l, left) := by
  rw [readBoundary, hskip]
  dsimp only
  rw [if_pos hc, hname]
  generalize String.ofList name = text
  unfold specialLook
  split
  · rename_i heq
    obtain ⟨-, rfl⟩ := List.cons.inj heq
    split
    all_goals simp_all
  · exact absurd rfl (‹∀ left', '\x7d' :: left = '\x7d' :: left' → False› left)

/-- A special boundary is closed by a brace. -/
theorem exists_left_of_readBoundary {f : Flags} {c : Char} {more rest : List Char} {a : Atom}
    (hskip : skip f.spaced s = c :: more) (hc : isBoundaryChar c = true)
    (h : readBoundary f ('\x7b' :: s) = some (a, rest)) : ∃ name left,
      readBoundaryName f.spaced [] (more.length + 2) (c :: more) = (name, '\x7d' :: left) := by
  rw [readBoundary, hskip] at h
  dsimp only at h
  rw [if_pos hc] at h
  generalize hname : readBoundaryName f.spaced [] (more.length + 2) (c :: more) = p at h
  obtain ⟨name, left⟩ := p
  dsimp only at h
  split at h
  · exact ⟨_, _, rfl⟩
  · cases h

/-- A boundary that is no special one. -/
theorem readBoundary_plain {f : Flags} (h : ∀ t, s = '\x7b' :: t →
    ∃ c more, skip f.spaced t = c :: more ∧ isBoundaryChar c = false) :
    readBoundary f s = some (.look (.wordBoundary f.unicode), s) := by
  unfold readBoundary
  split
  · obtain ⟨c, more, hskip, hc⟩ := h _ rfl
    simp [hskip, hc]
  · rfl

theorem extends_readBoundary (f : Flags) (ignoreCase : Bool) :
    Extends f.spaced Atom.Alike s (readBoundary f s)
      fun w => readBoundary (f.folding ignoreCase) (s ++ w) := by
  by_cases hbrace : ∃ t, s = '\x7b' :: t
  · obtain ⟨t, rfl⟩ := hbrace
    cases hskip : skip f.spaced t with
    | nil =>
      rw [readBoundary, hskip]
      exact .none
    | cons c more =>
      have hmore : ∀ w, skip (f.folding ignoreCase).spaced (t ++ w) = c :: (more ++ w) := by
        intro w
        change skip f.spaced (t ++ w) = _
        rw [skip_append (.of_ne_nil (by simp [hskip])), hskip, List.cons_append]
      intro a rest hr
      cases hc : isBoundaryChar c with
      | false =>
        have hplain : ∀ {g : Flags} {u v : List Char}, skip g.spaced u = c :: v →
            readBoundary g ('\x7b' :: u) = some (.look (.wordBoundary g.unicode), '\x7b' :: u) :=
          fun hu => readBoundary_plain fun _ heq => ⟨c, _, (List.cons.inj heq).2 ▸ hu, hc⟩
        obtain ⟨rfl, rfl⟩ := Prod.mk.inj (Option.some.inj ((hplain hskip).symm.trans hr))
        exact ⟨List.suffix_refl _, fun w _ => ⟨_, hplain (hmore w), .look _⟩⟩
      | true =>
        obtain ⟨name, left, hname⟩ := exists_left_of_readBoundary hskip hc hr
        obtain ⟨hsuffix, happend⟩ := readBoundaryName_append (by simp) hname
        rw [readBoundary_special hskip hc hname] at hr
        obtain ⟨l, hl, heq⟩ := Option.map_eq_some_iff.1 hr
        obtain ⟨rfl, rfl⟩ := Prod.mk.inj heq
        have hstart : c :: more <:+ '\x7b' :: t :=
          hskip ▸ (skip_suffix f.spaced t).trans (List.suffix_cons _ t)
        refine ⟨((List.suffix_cons _ left).trans hsuffix).trans hstart, fun w _ => ⟨.look l, ?_,
          .look l⟩⟩
        exact (readBoundary_special (hmore w) hc (length_append_add more w 2 ▸ happend w)).trans
          (congrArg (Option.map _) hl)
  · have hplain : ∀ {g : Flags} {u : List Char}, (∀ c ∈ u.head?, c ≠ '\x7b') →
        readBoundary g u = some (.look (.wordBoundary g.unicode), u) := by
      intro g u hu
      refine readBoundary_plain fun t ht => absurd rfl (hu '\x7b' ?_)
      rw [ht]
      rfl
    have hs : ∀ c ∈ s.head?, c ≠ '\x7b' := by
      rintro c hc rfl
      obtain ⟨t, rfl⟩ := List.head?_eq_some_iff.1 hc
      exact hbrace ⟨t, rfl⟩
    intro a rest hr
    obtain ⟨rfl, rfl⟩ := Prod.mk.inj (Option.some.inj ((hplain hs).symm.trans hr))
    refine ⟨List.suffix_refl _, fun w hw => ⟨_, hplain fun c hc => ?_, .look _⟩⟩
    cases s with
    | nil => exact (hw rfl c hc).2.2
    | cons d s => exact hs c hc

theorem extends_readEscape (f : Flags) (ignoreCase : Bool) :
    Extends f.spaced Atom.Alike s (readEscape f s)
      fun w => readEscape (f.folding ignoreCase) (s ++ w) := by
  cases s with
  | nil => exact .none
  | cons c s =>
    have hliteral : ∀ k : Char, Extends f.spaced Atom.Alike s (some (.literal k false, s))
        fun w => some (.literal k false, s ++ w) := fun k => .some (.literal k false)
    have hlook : ∀ l : Look, Extends f.spaced Atom.Alike s (some (.look l, s))
        fun w => some (.look l, s ++ w) := fun l => .some (.look l)
    have hhex : ∀ {n : Nat}, n ≠ 0 → Extends f.spaced Atom.Alike s
        (readHex f.spaced n (skip f.spaced s))
        fun w => readHex f.spaced n (skip f.spaced (s ++ w)) :=
      fun hn => .skip (R := fun _ => readHex f.spaced _) (extends_readHex hn)
    refine .cons c ?_
    by_cases hmark : c ∈ ['x', 'u', 'U', 'p', 'P', 'a', 'f', 't', 'n', 'r', 'v', 'A', 'z', 'b',
        'B', '<', '>']
    · fin_cases hmark
      · exact hhex (n := 2) (by decide)
      · exact hhex (n := 4) (by decide)
      · exact hhex (n := 8) (by decide)
      · exact extends_readProperty f ignoreCase false
      · exact extends_readProperty f ignoreCase true
      · exact hliteral _
      · exact hliteral _
      · exact hliteral _
      · exact hliteral _
      · exact hliteral _
      · exact hliteral _
      · exact hlook _
      · exact hlook _
      · exact extends_readBoundary f ignoreCase
      · exact hlook _
      · exact hlook _
      · exact hlook _
    · have hread : ∀ (g : Flags) (t : List Char), readEscape g (c :: t) =
          if '0' ≤ c && c ≤ '9' then none
          else if isEscapable c then some (.literal c false, t)
          else (letterClass g c).map fun k => (.set k, t) := by
        intro g t
        rw [readEscape]
        all_goals
          rintro rfl
          exact hmark (by decide)
      simp only [List.cons_append, hread]
      split
      · exact .none
      · split
        · exact hliteral c
        · exact .ofOption fun k hk => ⟨k, hk, .set k k⟩

end Escapes

end Pattern

end KeyTrace
