import KeyTrace.Proofs.Pattern.Extent

/-!
# How far a class reaches

What stands between brackets is read alike where more text follows: a class ends with a bracket, and
all that is looked at to read it stands before that bracket. A class of ASCII, which is tried first
at an inner bracket, is decided by then as well, since no name of one has a bracket in it. What the
items of a class are made of makes no difference to where the class ends and how deep it is nested.

## Main definitions

* `OpenClass.Alike`: classes opened alike and nested as deep.
* `Pattern.ClassText`: what may come next in a class.

## Main results

* `Pattern.extends_readClassRange`: items and ranges are read alike.
* `Pattern.suffix_of_readClassFrom`: a class that is read ends with a closing bracket.
* `Pattern.extends_readClassFrom`, `Pattern.extends_readClass`: classes are read alike.
-/

namespace KeyTrace

namespace Pattern

/-! ### Items of classes -/

section Classes

variable {s : List Char}

theorem extends_readClassAtom (f : Flags) (ignoreCase : Bool) :
    Extends f.spaced Atom.Alike s (readClassAtom f s)
      fun w => readClassAtom (f.folding ignoreCase) (s ++ w) := by
  cases s with
  | nil => exact .none
  | cons c s =>
    by_cases hc : c = '\\'
    · obtain rfl := hc
      exact .cons _ (extends_readEscape f ignoreCase)
    · have hread : ∀ (g : Flags) (t : List Char),
          readClassAtom g (c :: t) = some (.literal c false, t) := by
        intro g t
        rw [readClassAtom]
        exact hc
      simp only [List.cons_append, hread]
      exact .cons c (.some (.literal c false))

/-- Nothing but blanks is dropped to its end, in a comment or not. -/
theorem dropBlank_eq_nil {s : List Char} (h : ∀ c ∈ s, Blank.isBlank c = true)
    (inComment : Bool) : dropBlank inComment s = [] := by
  induction s generalizing inComment with
  | nil => rfl
  | cons c s ih =>
    have hs := ih fun d hd => h d (List.mem_cons_of_mem c hd)
    rw [dropBlank, if_pos (h c List.mem_cons_self), hs, hs, ite_self]

theorem dropBlank_dropWhile (s : List Char) :
    dropBlank false (s.dropWhile Blank.isBlank) = dropBlank false s := by
  induction s with
  | nil => rfl
  | cons c s ih =>
    cases hc : Blank.isBlank c with
    | true => simp [dropBlank, hc, ih]
    | false => simp [hc]

/-- What is found behind a beginning is found there where more text follows, too. -/
theorem dropWhile_append_of_cons {p : Char → Bool} {c : Char} {t : List Char}
    (h : s.dropWhile p = c :: t) (w : List Char) :
    (s ++ w).dropWhile p = c :: t ++ w ∧ (s ++ w).takeWhile p = s.takeWhile p := by
  induction s with
  | nil => cases h
  | cons d s ih =>
    cases hd : p d with
    | true =>
      rw [List.dropWhile_cons_of_pos hd] at h
      obtain ⟨hdrop, htake⟩ := ih h
      rw [List.cons_append, List.dropWhile_cons_of_pos hd, List.takeWhile_cons_of_pos hd,
        List.takeWhile_cons_of_pos hd, htake]
      exact ⟨hdrop, rfl⟩
    | false =>
      have hne : ¬p d = true := by simp [hd]
      rw [List.dropWhile_cons_of_neg hne] at h
      rw [List.cons_append, List.dropWhile_cons_of_neg hne, List.takeWhile_cons_of_neg hne,
        List.takeWhile_cons_of_neg hne, ← h]
      exact ⟨rfl, rfl⟩

/-- The next character is found in the text, or only blanks and a sign of a comment are there. -/
theorem peek_cases (spaced : Bool) (c : Char) (s : List Char) :
    (∀ w, peek spaced (c :: s ++ w) = peek spaced (c :: s)) ∨
      next spaced (c :: s) = [] ∧ ∀ d ∈ peek spaced (c :: s), d ≠ ']' ∧ d ≠ '-' := by
  have hblank : ∀ d, Blank.isBlank d = true ∨ d = '#' → d ≠ ']' ∧ d ≠ '-' := by
    rintro d hd
    refine ⟨?_, ?_⟩
    · rintro rfl
      exact absurd hd (by decide)
    · rintro rfl
      exact absurd hd (by decide)
  cases spaced with
  | false =>
    cases s with
    | nil => exact Or.inr ⟨rfl, nofun⟩
    | cons d s => exact Or.inl fun w => rfl
  | true =>
    cases hdrop : s.dropWhile Blank.isBlank with
    | nil =>
      have hall : ∀ d ∈ s, Blank.isBlank d = true := List.dropWhile_eq_nil_iff.1 hdrop
      have hpeek : peek true (c :: s) = s.head? := by simp [peek, hdrop]
      refine Or.inr ⟨dropBlank_eq_nil hall false, fun d hd => hblank d (Or.inl (hall d ?_))⟩
      rw [hpeek] at hd
      exact List.mem_of_mem_head? hd
    | cons d rest =>
      have happend : ∀ w, (s ++ w).dropWhile Blank.isBlank = d :: rest ++ w :=
        fun w => (dropWhile_append_of_cons hdrop w).1
      by_cases hd : d = '#'
      · obtain rfl := hd
        cases hrest : rest.dropWhile Blank.isBlank with
        | nil =>
          have hall : ∀ d ∈ rest, Blank.isBlank d = true := List.dropWhile_eq_nil_iff.1 hrest
          have hpeek : peek true (c :: s) = s.head? := by simp [peek, hdrop, hrest]
          have hnext : next true (c :: s) = dropBlank true rest := by
            change dropBlank false s = _
            rw [← dropBlank_dropWhile, hdrop]
            rfl
          refine Or.inr ⟨hnext.trans (dropBlank_eq_nil hall true), fun d hd => hblank d ?_⟩
          rw [hpeek] at hd
          obtain ⟨more, rfl⟩ := List.head?_eq_some_iff.1 hd
          cases hb : Blank.isBlank d with
          | true => exact Or.inl rfl
          | false =>
            rw [List.dropWhile_cons_of_neg (by simp [hb])] at hdrop
            exact Or.inr (List.cons.inj hdrop).1
        | cons e more =>
          have hrestAppend : ∀ w, (rest ++ w).dropWhile Blank.isBlank = e :: more ++ w :=
            fun w => (dropWhile_append_of_cons hrest w).1
          exact Or.inl fun w => by simp [peek, hdrop, hrest, happend, hrestAppend]
      · exact Or.inl fun w => by simp [peek, hdrop, happend]

/-- One item of a class as a whole. -/
def classItem (f : Flags) (s : List Char) : Atom → Option (CharClass × List Char)
  | .literal c _ => if classLiteral f c then some (CharClass.single c, s) else none
  | .set k => some (k, s)
  | .look _ => none

/-- A range as a whole. -/
def classRange (f : Flags) (s : List Char) : Atom → Atom → Option (CharClass × List Char)
  | .literal a _, .literal b _ =>
    if a ≤ b && classLiteral f a && classLiteral f b then some (CharClass.range a b, s) else none
  | _, _ => none

/-- Whether no range begins at the text behind an item. -/
def standsAlone (spaced : Bool) (s : List Char) : Bool :=
  s.head? != some '-' || peek spaced s == some ']' || peek spaced s == some '-'

/-- What is read behind the first item: the end of a range, if there is one. -/
def readRangeEnd (f : Flags) (first : Atom) (s : List Char) : Option (CharClass × List Char) :=
  if s.isEmpty then none
  else if standsAlone f.spaced s then classItem f s first
  else if (next f.spaced s).isEmpty then none
  else (readClassAtom f (next f.spaced s)).bind fun (last, left) => classRange f left first last

theorem readClassRange_eq (f : Flags) (s : List Char) : readClassRange f s =
    (readClassAtom f s).bind fun p => readRangeEnd f p.1 (skip f.spaced p.2) := by
  rw [readClassRange]
  refine congrArg _ (funext fun p => ?_)
  obtain ⟨first, t⟩ := p
  dsimp only
  rw [readRangeEnd]
  cases first <;> rfl

theorem extends_classItem (f : Flags) (ignoreCase : Bool) {a a' : Atom} (h : a.Alike a') :
    Extends f.spaced (fun _ _ => True) s (classItem f s a)
      fun w => classItem (f.folding ignoreCase) (s ++ w) a' := by
  cases h with
  | set k k' => exact .some trivial
  | look l => exact .none
  | literal c isByte =>
    have hliteral : classLiteral (f.folding ignoreCase) c = classLiteral f c := rfl
    simp only [classItem, hliteral]
    split
    · exact .some trivial
    · exact .none

theorem extends_classRange (f : Flags) (ignoreCase : Bool) {a a' b b' : Atom} (ha : a.Alike a')
    (hb : b.Alike b') : Extends f.spaced (fun _ _ => True) s (classRange f s a b)
      fun w => classRange (f.folding ignoreCase) (s ++ w) a' b' := by
  cases ha with
  | set k k' => exact .none
  | look l => exact .none
  | literal c isByte =>
    cases hb with
    | set k k' => exact .none
    | look l => exact .none
    | literal d isByte' =>
      have hliteral : ∀ e, classLiteral (f.folding ignoreCase) e = classLiteral f e := fun _ => rfl
      simp only [classRange, hliteral]
      split
      · exact .some trivial
      · exact .none

/-- Whether a range begins is decided within the text, unless the text ends first. -/
theorem standsAlone_cases (spaced : Bool) (c : Char) (s : List Char) :
    (∀ w, standsAlone spaced (c :: s ++ w) = standsAlone spaced (c :: s)) ∨
      standsAlone spaced (c :: s) = false ∧ next spaced (c :: s) = [] := by
  rcases peek_cases spaced c s with hpeek | ⟨hnext, hpeek⟩
  · exact Or.inl fun w => by rw [standsAlone, hpeek, standsAlone]; rfl
  · by_cases hc : c = '-'
    · obtain rfl := hc
      refine Or.inr ⟨?_, hnext⟩
      cases hp : peek spaced ('-' :: s) with
      | none => simp [standsAlone, hp]
      | some d =>
        obtain ⟨hbracket, hhyphen⟩ := hpeek d hp
        simp [standsAlone, hp, hbracket, hhyphen]
    · have hhead : (some c != some '-') = true := bne_iff_ne.2 fun heq => hc (Option.some.inj heq)
      exact Or.inl fun w => by simp only [standsAlone, List.cons_append, List.head?_cons, hhead,
        Bool.true_or]

theorem extends_readRangeEnd (f : Flags) (ignoreCase : Bool) {a a' : Atom} (h : a.Alike a') :
    Extends f.spaced (fun _ _ => True) s (readRangeEnd f a s)
      fun w => readRangeEnd (f.folding ignoreCase) a' (s ++ w) := by
  cases s with
  | nil => exact .none
  | cons c s =>
    have hspaced : (f.folding ignoreCase).spaced = f.spaced := rfl
    rcases standsAlone_cases f.spaced c s with halone | ⟨halone, hnext⟩
    · cases hc : standsAlone f.spaced (c :: s) with
      | true =>
        have hread : ∀ w, readRangeEnd (f.folding ignoreCase) a' (c :: s ++ w) =
            classItem (f.folding ignoreCase) (c :: s ++ w) a' := by
          intro w
          rw [readRangeEnd, hspaced, halone w, hc]
          rfl
        simp only [hread]
        rw [readRangeEnd, hc]
        exact extends_classItem f ignoreCase h
      | false =>
        cases hskip : skip f.spaced s with
        | nil =>
          have hnext : next f.spaced (c :: s) = [] := hskip
          rw [readRangeEnd, hc, hnext]
          exact .none
        | cons d t =>
          have hnext : next f.spaced (c :: s) = d :: t := hskip
          have hlast := (extends_readClassAtom f ignoreCase (s := d :: t)).bind
            (K := fun p => classRange f p.2 a p.1)
            (L := fun _ p => classRange (f.folding ignoreCase) p.2 a' p.1) fun b b' u hb =>
              extends_classRange f ignoreCase h hb
          rw [readRangeEnd, hc, hnext]
          refine .cons c (.of_skip hskip hlast fun w hw => ?_)
          have hnext' : next f.spaced (c :: s ++ w) = d :: t ++ w := hw
          rw [readRangeEnd, hspaced, halone w, hc, hnext']
          rfl
    · rw [readRangeEnd, halone, hnext]
      exact .none

/-- What a class of one item or of a range is made of makes no difference. -/
theorem extends_readClassRange (f : Flags) (ignoreCase : Bool) :
    Extends f.spaced (fun _ _ => True) s (readClassRange f s)
      fun w => readClassRange (f.folding ignoreCase) (s ++ w) := by
  simp only [readClassRange_eq]
  exact (extends_readClassAtom f ignoreCase).bind fun a a' t h =>
    .skip (R := fun _ => readRangeEnd (f.folding ignoreCase) a') (extends_readRangeEnd f ignoreCase h)

/-! ### Classes -/

/-- Classes that have been opened alike and nested as deep. -/
structure OpenClass.Alike (o o' : OpenClass) : Prop where
  negated : o.negated = o'.negated
  items : o.items.map Nested.depth = o'.items.map Nested.depth
  pending : o.pending.map (fun p => p.1.depth) = o'.pending.map fun p => p.1.depth

namespace OpenClass.Alike

variable {o o' : OpenClass}

theorem refl (o : OpenClass) : o.Alike o := ⟨rfl, rfl, rfl⟩

theorem push (h : o.Alike o') {n m : Nested} (hn : n.depth = m.depth) :
    (o.push n).Alike (o'.push m) where
  negated := h.negated
  items := by
    rw [OpenClass.push, OpenClass.push, List.map_cons, List.map_cons, hn, h.items]
  pending := h.pending

theorem depth_union (h : o.Alike o') : o.union.depth = o'.union.depth := by
  have hitems := h.items
  rw [OpenClass.union, OpenClass.union]
  match hl : o.items, hr : o'.items with
  | [], [] => rfl
  | [a], [b] => simpa [hl, hr] using hitems
  | a :: b :: l, c :: d :: l' =>
    rw [hl, hr] at hitems
    dsimp only
    rw [hitems]
  | [], _ :: _ => simp [hl, hr] at hitems
  | _ :: _, [] => simp [hl, hr] at hitems
  | [_], _ :: _ :: _ => simp [hl, hr] at hitems
  | _ :: _ :: _, [_] => simp [hl, hr] at hitems

theorem depth_operand (h : o.Alike o') (f f' : Flags) :
    (o.operand f).depth = (o'.operand f').depth := by
  have hpending := h.pending
  rw [OpenClass.operand, OpenClass.operand]
  match hl : o.pending, hr : o'.pending with
  | none, none => exact h.depth_union
  | some (a, _), some (b, _) =>
    rw [hl, hr] at hpending
    have hdepth : a.depth = b.depth := Option.some.inj hpending
    dsimp only
    rw [hdepth, h.depth_union]
  | none, some _ => simp [hl, hr] at hpending
  | some _, none => simp [hl, hr] at hpending

theorem operate (h : o.Alike o') (f f' : Flags) (op : ClassOp) :
    (o.operate f op).Alike (o'.operate f' op) where
  negated := h.negated
  items := rfl
  pending := congrArg some (h.depth_operand f f')

/-- Classes that have been opened alike can both be closed. -/
theorem exists_closeClass (h : o.Alike o') {f : Flags} {n : Nested}
    (hn : closeClass f o = some n) (ignoreCase : Bool) :
    ∃ n', closeClass (f.folding ignoreCase) o' = some n' ∧ n.depth = n'.depth := by
  obtain ⟨k, hk, rfl⟩ := Option.map_eq_some_iff.1 hn
  obtain ⟨k', hk'⟩ := exists_closeSet hk ignoreCase (o'.operand (f.folding ignoreCase)).cls
  rw [h.negated] at hk'
  exact ⟨_, congrArg (Option.map _) hk', h.depth_operand _ _⟩

end OpenClass.Alike

/-- Hyphens that something is left behind end there. -/
theorem readHyphens_append {x : Bool} {o o' : OpenClass} {fuel : Nat} {c : Char}
    {left : List Char} (hfuel : s.length ≤ fuel)
    (h : readHyphens x o fuel s = (o', c :: left)) : c :: left <:+ s ∧
      ∀ w, readHyphens x o (fuel + w.length) (s ++ w) = (o', c :: left ++ w) := by
  induction fuel generalizing o s with
  | zero =>
    rw [List.length_eq_zero_iff.1 (Nat.le_zero.1 hfuel)] at h
    cases h
  | succ fuel ih =>
    cases s with
    | nil => cases h
    | cons d s =>
      by_cases hd : d = '-'
      · obtain rfl := hd
        rw [readHyphens] at h
        have hlength : (skip x s).length ≤ fuel :=
          (skip_suffix x s).length_le.trans (Nat.le_of_succ_le_succ hfuel)
        obtain ⟨hsuffix, hmore⟩ := ih hlength h
        refine ⟨suffix_cons_of_skip hsuffix _, fun w => ?_⟩
        rw [add_length_succ, List.cons_append, readHyphens, skip_append_of_suffix hsuffix, hmore]
      · have hread : ∀ n t, readHyphens x o (n + 1) (d :: t) = (o, d :: t) := by
          intro n t
          rw [readHyphens]
          simpa using hd
        rw [hread] at h
        obtain ⟨rfl, hrest⟩ := Prod.mk.inj h
        obtain ⟨rfl, rfl⟩ := List.cons.inj hrest
        exact ⟨List.suffix_refl _, fun w => by rw [add_length_succ, List.cons_append, hread]⟩

/-- A closing bracket that comes first in a class stands for itself. -/
def firstBracket (spaced : Bool) (o : OpenClass) (s : List Char) : OpenClass × List Char :=
  match o.items, s with
  | [], ']' :: rest => (o.push ⟨CharClass.single ']', 0⟩, skip spaced rest)
  | _, _ => (o, s)

/-- The start of a class behind the sign of negation. -/
def openItems (spaced negated : Bool) (s : List Char) : Option (OpenClass × List Char) :=
  let p := readHyphens spaced ⟨negated, [], none⟩ s.length s
  let q := firstBracket spaced p.1 p.2
  if q.2.isEmpty then none else some q

/-- The sign of negation at the start of a class, and the text behind it. -/
def negation (spaced : Bool) (s : List Char) : Bool × List Char :=
  match s with
  | '^' :: rest => (true, skip spaced rest)
  | _ => (false, s)

theorem openClass_eq (spaced : Bool) (s : List Char) : openClass spaced s =
    openItems spaced (negation spaced (skip spaced s)).1 (negation spaced (skip spaced s)).2 := rfl

theorem negation_of_ne {spaced : Bool} {c : Char} (hc : c ≠ '^') (s : List Char) :
    negation spaced (c :: s) = (false, c :: s) := by
  rw [negation]
  simpa using hc

theorem firstBracket_append {spaced : Bool} {o o' : OpenClass} {c d : Char} {left : List Char}
    (h : firstBracket spaced o (c :: s) = (o', d :: left)) : d :: left <:+ c :: s ∧
      ∀ w, firstBracket spaced o (c :: s ++ w) = (o', d :: left ++ w) := by
  by_cases hfirst : o.items = [] ∧ c = ']'
  · obtain ⟨hitems, rfl⟩ := hfirst
    have hread : ∀ t, firstBracket spaced o (']' :: t) =
        (o.push ⟨CharClass.single ']', 0⟩, skip spaced t) := by
      intro t
      rw [firstBracket]
      exact hitems
    rw [hread] at h
    obtain ⟨rfl, hskip⟩ := Prod.mk.inj h
    refine ⟨hskip ▸ (skip_suffix spaced s).trans (List.suffix_cons _ s), fun w => ?_⟩
    rw [List.cons_append, hread, skip_append (.of_ne_nil (by simp [hskip])), hskip]
  · have hread : ∀ t, firstBracket spaced o (c :: t) = (o, c :: t) := by
      intro t
      rw [firstBracket]
      intro rest hitems heq
      exact hfirst ⟨hitems, (List.cons.inj heq).1⟩
    rw [hread] at h
    obtain ⟨rfl, hrest⟩ := Prod.mk.inj h
    obtain ⟨rfl, rfl⟩ := List.cons.inj hrest
    exact ⟨List.suffix_refl _, fun w => hread _⟩

theorem extends_openItems (spaced negated : Bool) :
    Extends spaced Eq s (openItems spaced negated s)
      fun w => openItems spaced negated (s ++ w) := by
  have hlength : ∀ w : List Char, (s ++ w).length = s.length + w.length :=
    fun w => List.length_append
  generalize hhyphens : readHyphens spaced ⟨negated, [], none⟩ s.length s = p
  obtain ⟨o, t⟩ := p
  cases t with
  | nil =>
    have hend : (firstBracket spaced o []).2 = [] := by
      rw [firstBracket]
      exact fun _ _ => nofun
    simp only [openItems, hhyphens, hend]
    exact .none
  | cons c t =>
    obtain ⟨hsuffix, hmore⟩ := readHyphens_append (Nat.le_refl _) hhyphens
    generalize hbracket : firstBracket spaced o (c :: t) = q
    obtain ⟨o', u⟩ := q
    cases u with
    | nil =>
      simp only [openItems, hhyphens, hbracket]
      exact .none
    | cons d u =>
      obtain ⟨hsuffix', hmore'⟩ := firstBracket_append hbracket
      simp only [openItems, hlength, hmore, hmore', hhyphens, hbracket]
      exact .of_suffix (hsuffix'.trans hsuffix) (.some rfl)

theorem extends_openClass (spaced : Bool) :
    Extends spaced Eq s (openClass spaced s) fun w => openClass spaced (s ++ w) := by
  simp only [openClass_eq]
  cases hskip : skip spaced s with
  | nil => exact .none
  | cons c t =>
    by_cases hc : c = '^'
    · obtain rfl := hc
      have hitems := ExtendsBy.skip (R := fun _ => openItems spaced true)
        (extends_openItems (s := skip spaced t) spaced true)
      exact .of_skip hskip (hitems.cons _) fun w hw => by rw [hw]; rfl
    · rw [negation_of_ne hc]
      refine .of_skip hskip (extends_openItems spaced false) fun w hw => ?_
      rw [hw, List.cons_append, negation_of_ne hc]

/-! ### Classes of ASCII -/

/-- A class of ASCII behind its sign of negation. -/
def asciiBody (negated : Bool) (s : List Char) : Option (CharClass × Bool × List Char) :=
  match s.dropWhile (fun c => c != ':') with
  | ':' :: ']' :: left =>
    (CharClass.ascii? (String.ofList (s.takeWhile fun c => c != ':'))).map fun k =>
      (k, negated, left)
  | _ => none

theorem readAsciiClass_colon (s : List Char) : readAsciiClass (':' :: s) =
    asciiBody (negation false s).1 (negation false s).2 := rfl

theorem readAsciiClass_of_ne {c : Char} (hc : c ≠ ':') (s : List Char) :
    readAsciiClass (c :: s) = none := by
  rw [readAsciiClass]
  simpa using hc

/-- No name of a class of ASCII has a bracket in it. -/
theorem ascii?_eq_none {name : List Char} (h : ']' ∈ name) :
    CharClass.ascii? (String.ofList name) = none := by
  have hne : ∀ known : String, ']' ∉ known.toList → String.ofList name ≠ known := by
    rintro known hknown heq
    exact hknown (by rw [← heq, String.toList_ofList]; exact h)
  rw [CharClass.ascii?]
  all_goals exact hne _ (by decide)

theorem asciiBody_append {negated : Bool} (h : ']' ∈ s) (w : List Char) :
    asciiBody negated (s ++ w) =
      (asciiBody negated s).map fun p => (p.1, p.2.1, p.2.2 ++ w) := by
  have hnone : ∀ {t : List Char}, ']' ∈ t.takeWhile (fun c => c != ':') →
      asciiBody negated t = none := by
    intro t hmem
    rw [asciiBody, ascii?_eq_none hmem]
    split <;> rfl
  have hcut := List.takeWhile_append_dropWhile (p := fun c => c != ':') (l := s)
  cases hdrop : s.dropWhile fun c => c != ':' with
  | nil =>
    rw [hdrop, List.append_nil] at hcut
    have htake : (s ++ w).takeWhile (fun c => c != ':') =
        s ++ w.takeWhile fun c => c != ':' := by
      rw [List.takeWhile_append, hcut, if_pos rfl]
    have hmem : ']' ∈ s.takeWhile fun c => c != ':' := by rwa [hcut]
    have hmem' : ']' ∈ (s ++ w).takeWhile fun c => c != ':' := by
      rw [htake]
      exact List.mem_append_left _ h
    rw [hnone hmem, hnone hmem']
    rfl
  | cons c t =>
    obtain ⟨hdrop', htake⟩ := dropWhile_append_of_cons hdrop w
    have hc : c = ':' := by
      have hhead := List.head?_dropWhile_not (fun c => c != ':') s
      rw [hdrop] at hhead
      simpa using hhead
    obtain rfl := hc
    by_cases hmem : ']' ∈ s.takeWhile fun c => c != ':'
    · rw [hnone hmem, hnone (htake.symm ▸ hmem)]
      rfl
    · -- The bracket stands behind the colon, so the text after the colon is not empty.
      cases t with
      | nil =>
        rw [← hcut, hdrop] at h
        exact absurd h (by simp [hmem])
      | cons d t =>
        rw [asciiBody, asciiBody, hdrop, hdrop', htake]
        by_cases hd : d = ']'
        · obtain rfl := hd
          cases CharClass.ascii? (String.ofList (s.takeWhile fun c => c != ':')) <;> rfl
        · simp [hd]

theorem suffix_of_asciiBody {k : CharClass} {negated n : Bool} {left : List Char}
    (h : asciiBody n s = some (k, negated, left)) : ']' :: left <:+ s := by
  rw [asciiBody] at h
  split at h
  · rename_i left' hdrop
    obtain ⟨_, -, heq⟩ := Option.map_eq_some_iff.1 h
    obtain ⟨-, hleft⟩ := Prod.mk.inj heq
    obtain ⟨-, rfl⟩ := Prod.mk.inj hleft
    exact (List.suffix_cons _ _).trans (hdrop ▸ List.dropWhile_suffix _)
  · cases h

theorem negation_suffix (spaced : Bool) (s : List Char) : (negation spaced s).2 <:+ s := by
  unfold negation
  split
  · exact (skip_suffix spaced _).trans (List.suffix_cons _ _)
  · exact List.suffix_refl s

/-- The text behind a class of ASCII, which is closed by a bracket. -/
theorem suffix_of_readAsciiClass {k : CharClass} {negated : Bool} {left : List Char}
    (h : readAsciiClass s = some (k, negated, left)) : ']' :: left <:+ s := by
  cases s with
  | nil => cases h
  | cons c s =>
    by_cases hc : c = ':'
    · obtain rfl := hc
      exact ((suffix_of_asciiBody h).trans (negation_suffix false s)).trans (List.suffix_cons _ s)
    · rw [readAsciiClass_of_ne hc] at h
      cases h

/-- Whether a class of ASCII begins is decided before the next closing bracket. -/
theorem readAsciiClass_append (h : ']' ∈ s) (w : List Char) :
    readAsciiClass (s ++ w) = (readAsciiClass s).map fun p => (p.1, p.2.1, p.2.2 ++ w) := by
  cases s with
  | nil => cases h
  | cons c s =>
    by_cases hc : c = ':'
    · obtain rfl := hc
      have hs : ']' ∈ s := by simpa using h
      have hnegation : ∃ negated t, ']' ∈ t ∧
          ∀ w, negation false (s ++ w) = (negated, t ++ w) := by
        cases s with
        | nil => cases hs
        | cons d s =>
          by_cases hd : d = '^'
          · obtain rfl := hd
            exact ⟨true, s, by simpa using hs, fun w => rfl⟩
          · exact ⟨false, d :: s, hs, fun w => negation_of_ne hd (s ++ w)⟩
      obtain ⟨negated, t, hmem, hread⟩ := hnegation
      have hread' := hread []
      rw [List.append_nil, List.append_nil] at hread'
      rw [List.cons_append, readAsciiClass_colon, readAsciiClass_colon, hread, hread',
        asciiBody_append hmem]
    · rw [List.cons_append, readAsciiClass_of_ne hc, readAsciiClass_of_ne hc]
      rfl

/-! ### The whole class -/

/-- The operation that a doubled character stands for. -/
def operator? : Char → Option ClassOp
  | '&' => some .inter
  | '-' => some .diff
  | '~' => some .symmDiff
  | _ => none

/-- What may come next in a class. -/
inductive ClassText : List Char → Prop
  | done : ClassText []
  | bracket (s : List Char) : ClassText ('[' :: s)
  | close (s : List Char) : ClassText (']' :: s)
  | operator {c : Char} {op : ClassOp} (h : operator? c = some op) (s : List Char) :
      ClassText (c :: c :: s)
  | item {c : Char} {s : List Char} (hbracket : c ≠ '[') (hclose : c ≠ ']')
      (hoperator : s.head? = some c → operator? c = none) : ClassText (c :: s)

theorem classText (s : List Char) : ClassText s := by
  match s with
  | [] => exact .done
  | c :: s =>
    by_cases hbracket : c = '['
    · exact hbracket ▸ .bracket s
    · by_cases hclose : c = ']'
      · exact hclose ▸ .close s
      · by_cases hhead : s.head? = some c
        · obtain ⟨t, rfl⟩ := List.head?_eq_some_iff.1 hhead
          cases hop : operator? c with
          | none => exact .item hbracket hclose fun _ => hop
          | some op => exact .operator hop t
        · exact .item hbracket hclose fun h => absurd h hhead

section Steps

variable {f : Flags} {o : OpenClass} {stack : List OpenClass} {t : List Char}

theorem readClassFrom_bracket (fuel : Nat) (h : skip f.spaced s = '[' :: t) :
    readClassFrom f (fuel + 1) o stack s =
      match readAsciiClass t with
      | some (k, negated, left) =>
        (closeSet f negated k).bind fun k => readClassFrom f fuel (o.push ⟨k, 0⟩) stack left
      | none => (openClass f.spaced t).bind fun p => readClassFrom f fuel p.1 (o :: stack) p.2 := by
  rw [readClassFrom, h]
  rfl

theorem readClassFrom_close (fuel : Nat) (h : skip f.spaced s = ']' :: t) :
    readClassFrom f (fuel + 1) o stack s =
      (closeClass f o).bind fun n =>
        match stack with
        | [] => some (⟨n.cls, n.depth + 1⟩, t)
        | outer :: stack => readClassFrom f fuel (outer.push ⟨n.cls, n.depth + 1⟩) stack t := by
  rw [readClassFrom, h]
  rfl

theorem readClassFrom_operator (fuel : Nat) {c : Char} {op : ClassOp} (hop : operator? c = some op)
    (h : skip f.spaced s = c :: c :: t) :
    readClassFrom f (fuel + 1) o stack s = readClassFrom f fuel (o.operate f op) stack t := by
  unfold operator? at hop
  split at hop
  · obtain rfl := Option.some.inj hop
    rw [readClassFrom, h]
    rfl
  · obtain rfl := Option.some.inj hop
    rw [readClassFrom, h]
    rfl
  · obtain rfl := Option.some.inj hop
    rw [readClassFrom, h]
    rfl
  · cases hop

theorem readClassFrom_item (fuel : Nat) {c : Char} (hbracket : c ≠ '[') (hclose : c ≠ ']')
    (hoperator : t.head? = some c → operator? c = none) (h : skip f.spaced s = c :: t) :
    readClassFrom f (fuel + 1) o stack s =
      (readClassRange f (c :: t)).bind fun p =>
        readClassFrom f fuel (o.push ⟨p.1, 0⟩) stack p.2 := by
  have hne : ∀ {d u}, operator? d ≠ none → c :: t ≠ d :: d :: u := by
    rintro d u hd heq
    obtain ⟨rfl, rfl⟩ := List.cons.inj heq
    exact hd (hoperator rfl)
  rw [readClassFrom, h]
  split
  · cases ‹c :: t = []›
  · exact absurd (List.cons.inj ‹c :: t = '[' :: _›).1 hbracket
  · exact absurd (List.cons.inj ‹c :: t = ']' :: _›).1 hclose
  · exact absurd ‹c :: t = '&' :: '&' :: _› (hne (by decide))
  · exact absurd ‹c :: t = '-' :: '-' :: _› (hne (by decide))
  · exact absurd ‹c :: t = '~' :: '~' :: _› (hne (by decide))
  · rfl

end Steps

/-- A class that is read ends with a closing bracket. -/
theorem suffix_of_readClassFrom {f : Flags} {fuel : Nat} {o : OpenClass} {stack : List OpenClass}
    {n : Nested} {rest : List Char} (h : readClassFrom f fuel o stack s = some (n, rest)) :
    ']' :: rest <:+ skip f.spaced s := by
  induction fuel generalizing o stack s with
  | zero =>
    rw [readClassFrom_zero] at h
    cases h
  | succ fuel ih =>
    have hleft : ∀ {o : OpenClass} {stack : List OpenClass} {t : List Char},
        readClassFrom f fuel o stack t = some (n, rest) → ']' :: rest <:+ t :=
      fun h => (ih h).trans (skip_suffix f.spaced _)
    generalize ht : skip f.spaced s = t
    cases classText t with
    | done =>
      rw [readClassFrom, ht] at h
      cases h
    | bracket t =>
      refine List.IsSuffix.trans ?_ (List.suffix_cons '[' t)
      rw [readClassFrom_bracket fuel ht] at h
      split at h
      · obtain ⟨k, -, h⟩ := Option.bind_eq_some_iff.1 h
        have hascii := suffix_of_readAsciiClass ‹readAsciiClass t = some _›
        exact ((hleft h).trans (List.suffix_cons _ _)).trans hascii
      · obtain ⟨⟨inner, left⟩, hopen, h⟩ := Option.bind_eq_some_iff.1 h
        exact (hleft h).trans (extends_openClass f.spaced inner left hopen).1
    | close t =>
      rw [readClassFrom_close fuel ht] at h
      obtain ⟨n', -, h⟩ := Option.bind_eq_some_iff.1 h
      split at h
      · obtain ⟨-, rfl⟩ := Prod.mk.inj (Option.some.inj h)
        exact List.suffix_refl _
      · exact (hleft h).trans (List.suffix_cons _ _)
    | operator hop t =>
      rw [readClassFrom_operator fuel hop ht] at h
      exact ((hleft h).trans (List.suffix_cons _ _)).trans (List.suffix_cons _ _)
    | item hbracket hclose hoperator =>
      rw [readClassFrom_item fuel hbracket hclose hoperator ht] at h
      obtain ⟨⟨k, left⟩, hrange, h⟩ := Option.bind_eq_some_iff.1 h
      exact (hleft h).trans (extends_readClassRange f f.ignoreCase k left hrange).1

/-- **A class is read alike** wherever more text follows and with letters matching in either case
or not: it ends at the same bracket and is nested as deep. -/
theorem extends_readClassFrom (f : Flags) (ignoreCase : Bool) (fuel : Nat) {o o' : OpenClass}
    {stack stack' : List OpenClass} (ho : o.Alike o')
    (hstack : List.Forall₂ OpenClass.Alike stack stack') :
    Extends f.spaced (fun n n' => n.depth = n'.depth) s (readClassFrom f fuel o stack s)
      fun w => readClassFrom (f.folding ignoreCase) (fuel + w.length) o' stack' (s ++ w) := by
  induction fuel generalizing o o' stack stack' s with
  | zero =>
    rw [readClassFrom_zero]
    exact .none
  | succ fuel ih =>
    refine .of_read fun n rest hr => ?_
    have hclosed := suffix_of_readClassFrom hr
    simp only [add_length_succ]
    generalize ht : skip f.spaced s = t at hclosed
    cases classText t with
    | done =>
      rw [readClassFrom, ht]
      exact .none
    | bracket t =>
      have hmem : ']' ∈ t := by simpa using hclosed.subset List.mem_cons_self
      rw [readClassFrom_bracket fuel ht]
      refine .of_skip ht (.cons _ ?_) fun w hw =>
        readClassFrom_bracket (f := f.folding ignoreCase) (t := t ++ w) _ hw
      simp only [readAsciiClass_append hmem]
      cases hascii : readAsciiClass t with
      | none =>
        refine (extends_openClass f.spaced).bind ?_
        rintro inner _ left rfl
        exact ih (.refl inner) (.cons ho hstack)
      | some p =>
        obtain ⟨k, negated, left⟩ := p
        have hleft := (List.suffix_cons _ _).trans (suffix_of_readAsciiClass hascii)
        refine .of_suffix hleft (.of_bind fun k₁ hk₁ => ?_)
        obtain ⟨k₂, hk₂⟩ := exists_closeSet hk₁ ignoreCase k
        exact ⟨k₂, hk₂, ih (ho.push rfl) hstack⟩
    | close t =>
      rw [readClassFrom_close fuel ht]
      refine .of_skip ht (.cons _ (.of_bind fun n hn => ?_)) fun w hw =>
        readClassFrom_close (f := f.folding ignoreCase) _ hw
      obtain ⟨n', hn', hdepth⟩ := ho.exists_closeClass hn ignoreCase
      refine ⟨n', hn', ?_⟩
      cases hstack with
      | nil => exact .some (congrArg Nat.succ hdepth)
      | cons houter hstack => exact ih (houter.push (congrArg Nat.succ hdepth)) hstack
    | operator hop t =>
      rw [readClassFrom_operator fuel hop ht]
      exact .of_skip ht (.cons _ (.cons _ (ih (ho.operate _ _ _) hstack))) fun w hw =>
        readClassFrom_operator (f := f.folding ignoreCase) _ hop hw
    | @item c t hbracket hclose hoperator =>
      cases t with
      | nil =>
        have hc := hclosed.subset List.mem_cons_self
        exact absurd (List.mem_singleton.1 hc).symm hclose
      | cons d t =>
        rw [readClassFrom_item fuel hbracket hclose hoperator ht]
        have hitem := (extends_readClassRange f ignoreCase (s := c :: d :: t)).bind
          (K := fun p => readClassFrom f fuel (o.push ⟨p.1, 0⟩) stack p.2)
          (L := fun w p =>
            readClassFrom (f.folding ignoreCase) (fuel + w.length) (o'.push ⟨p.1, 0⟩) stack' p.2)
          (Q := fun n n' => n.depth = n'.depth)
          fun k k' left _ => ih (ho.push (n := ⟨k, 0⟩) (m := ⟨k', 0⟩) rfl) hstack
        exact .of_skip ht hitem fun w hw => readClassFrom_item (f := f.folding ignoreCase)
          (t := d :: t ++ w) _ hbracket hclose hoperator hw

/-- A class between brackets, from the first bracket on. -/
theorem extends_readClass (f : Flags) (ignoreCase : Bool) :
    Extends f.spaced (fun n n' => n.depth = n'.depth) s (readClass f s)
      fun w => readClass (f.folding ignoreCase) (s ++ w) := by
  simp only [readClass]
  refine (extends_openClass f.spaced).bind ?_
  rintro o _ left rfl
  simp only [length_append_add]
  exact extends_readClassFrom f ignoreCase _ (.refl o) .nil

end Classes

end Pattern

end KeyTrace
