import KeyTrace.Pattern.Reader
import KeyTrace.Proofs.Pattern.ClassExtent

/-!
# Reading alike

Most of what a state of reading holds has no say in whether reading goes on: the expressions read so
far, and whether letters match in either case. What has a say is whether there is an item that can
be repeated, which groups are open, the names of groups and the other switches; in the end, also how
deep all is nested. From states that agree on that much, each step is taken alike, and so is a whole
text, wherever more text follows that may stand there.

States are compared with or without the depth, since texts of different lengths may be nested
differently: a sequence is a level of its own unless it is a single item.

## Main definitions

* `ReadState.Alike`: states from which reading goes on alike, nested alike if so asked.
* `Pattern.Steps`: a step that is taken alike.
* `Pattern.GroupText`: what may follow an opening parenthesis.

## Main results

* `Pattern.steps_readStep`: every step is taken alike.
* `Pattern.exists_readFrom`, `Pattern.exists_readFrom_end`: a text is read alike.
* `Pattern.isSome_readNode`: whether a text is well formed does not hang on case.
-/

namespace KeyTrace

namespace Pattern

/-! ### States that are alike -/

/-- How deep the deepest of some items is nested. -/
def deepest (items : List Item) : Nat := (items.map Item.depth).foldl max 0

/-- What the nesting of a sequence depends on: how deep its last item is nested, whether there are
others, and how deep these are nested. -/
def nesting : List Item → Option (Nat × Bool × Nat)
  | [] => none
  | a :: rest => some (a.depth, rest.isEmpty, deepest rest)

/-- Sequences that can be repeated alike. If `deep`, they are nested alike. -/
structure ItemsAlike (deep : Prop) (items items' : List Item) : Prop where
  isPart : items.head?.map Item.isPart = items'.head?.map Item.isPart
  nesting : deep → nesting items = nesting items'

/-- Switches that are the same but for case. -/
def Flags.Alike (f f' : Flags) : Prop := ∃ ignoreCase, f' = f.folding ignoreCase

/-- Open groups after which reading goes on alike. -/
structure OpenGroup.Alike (deep : Prop) (g g' : OpenGroup) : Prop where
  flags : g.flags.Alike g'.flags
  items : ItemsAlike deep g.items g'.items
  branches : deep → g.branches.map Item.depth = g'.branches.map Item.depth

/-- States from which reading goes on alike. -/
structure ReadState.Alike (deep : Prop) (st st' : ReadState) : Prop where
  flags : st.flags.Alike st'.flags
  items : ItemsAlike deep st.items st'.items
  branches : deep → st.branches.map Item.depth = st'.branches.map Item.depth
  groups : List.Forall₂ (OpenGroup.Alike deep) st.groups st'.groups
  count : st.count = st'.count
  names : st.names = st'.names

/-- The same, with the switches as they were. -/
abbrev ReadState.AlikeWith (deep : Prop) (f : Flags) (st st' : ReadState) : Prop :=
  st.flags = f ∧ st.Alike deep st'

variable {deep : Prop}

theorem foldl_max (l : List Nat) (a : Nat) : l.foldl max a = max a (l.foldl max 0) := by
  induction l generalizing a with
  | nil => simp
  | cons b l ih =>
    rw [List.foldl_cons, List.foldl_cons, ih, ih (max 0 b)]
    omega

@[simp] theorem deepest_nil : deepest [] = 0 := rfl

@[simp] theorem deepest_cons (a : Item) (items : List Item) :
    deepest (a :: items) = max a.depth (deepest items) := by
  rw [deepest, List.map_cons, List.foldl_cons, foldl_max, deepest]
  omega

theorem deepest_append (items items' : List Item) :
    deepest (items ++ items') = max (deepest items) (deepest items') := by
  induction items with
  | nil => simp
  | cons a items ih => rw [List.cons_append, deepest_cons, deepest_cons, ih, max_assoc]

theorem deepest_reverse (items : List Item) : deepest items.reverse = deepest items := by
  induction items with
  | nil => rfl
  | cons a items ih =>
    rw [List.reverse_cons, deepest_append, ih, deepest_cons, deepest_cons, deepest_nil]
    omega

/-- How deep a sequence is nested. -/
theorem depth_sequence_reverse (items : List Item) : (sequence items.reverse).depth =
    match nesting items with
    | none => 0
    | some (depth, alone, others) => if alone then depth else 1 + max depth others := by
  match items with
  | [] => rfl
  | [a] => rfl
  | a :: b :: rest =>
    have hitems := deepest_reverse (a :: b :: rest)
    have hne : (a :: b :: rest).reverse.isEmpty = false := by simp
    have hmany : ∀ c, (a :: b :: rest).reverse ≠ [c] := by
      intro c hc
      have hlength := congrArg List.length hc
      simp at hlength
    unfold sequence
    split
    · exact absurd ‹_› (hmany _)
    · dsimp only
      rw [hne, ← deepest, hitems]
      simp [nesting]

namespace ItemsAlike

variable {items items' : List Item}

theorem nil : ItemsAlike deep [] [] := ⟨rfl, fun _ => rfl⟩

theorem refl (items : List Item) : ItemsAlike deep items items := ⟨rfl, fun _ => rfl⟩

theorem symm (h : ItemsAlike deep items items') : ItemsAlike deep items' items :=
  ⟨h.isPart.symm, fun hd => (h.nesting hd).symm⟩

theorem trans {items'' : List Item} (h : ItemsAlike deep items items')
    (h' : ItemsAlike deep items' items'') : ItemsAlike deep items items'' :=
  ⟨h.isPart.trans h'.isPart, fun hd => (h.nesting hd).trans (h'.nesting hd)⟩

theorem depth_sequence (h : ItemsAlike deep items items') (hd : deep) :
    (sequence items.reverse).depth = (sequence items'.reverse).depth := by
  rw [depth_sequence_reverse, depth_sequence_reverse, h.nesting hd]

theorem deepest (h : ItemsAlike deep items items') (hd : deep) :
    items.isEmpty = items'.isEmpty ∧ deepest items = Pattern.deepest items' := by
  have hnesting := h.nesting hd
  match items, items' with
  | [], [] => exact ⟨rfl, rfl⟩
  | [], _ :: _ => cases hnesting
  | _ :: _, [] => cases hnesting
  | a :: rest, b :: rest' =>
    obtain ⟨hdepth, hothers⟩ := Prod.mk.inj (Option.some.inj hnesting)
    exact ⟨rfl, by rw [deepest_cons, deepest_cons, hdepth, (Prod.mk.inj hothers).2]⟩

/-- One more item, nested as deep. -/
theorem cons (h : ItemsAlike deep items items') {a a' : Item} (hpart : a.isPart = a'.isPart)
    (hdepth : deep → a.depth = a'.depth) : ItemsAlike deep (a :: items) (a' :: items') := by
  refine ⟨congrArg some hpart, fun hd => ?_⟩
  obtain ⟨hempty, hdeepest⟩ := h.deepest hd
  rw [Pattern.nesting, Pattern.nesting, hdepth hd, hempty, hdeepest]

/-- Another item in place of the last one. -/
theorem replace {a a' b b' : Item} (h : ItemsAlike deep (a :: items) (a' :: items'))
    (hpart : b.isPart = b'.isPart) (hdepth : deep → b.depth = b'.depth) :
    ItemsAlike deep (b :: items) (b' :: items') := by
  refine ⟨congrArg some hpart, fun hd => ?_⟩
  obtain ⟨-, hothers⟩ := Prod.mk.inj (Option.some.inj (h.nesting hd))
  rw [Pattern.nesting, Pattern.nesting, hdepth hd, (Prod.mk.inj hothers).1,
    (Prod.mk.inj hothers).2]

theorem exists_cons {a : Item} {items' : List Item} (h : ItemsAlike deep (a :: items) items') :
    ∃ a' rest, items' = a' :: rest ∧ a.isPart = a'.isPart ∧ (deep → a.depth = a'.depth) := by
  cases items' with
  | nil => cases h.isPart
  | cons a' rest =>
    exact ⟨a', rest, rfl, Option.some.inj h.isPart, fun hd =>
      (Prod.mk.inj (Option.some.inj (h.nesting hd))).1⟩

end ItemsAlike

theorem Flags.Alike.refl (f : Flags) : f.Alike f := ⟨f.ignoreCase, rfl⟩

theorem Flags.Alike.symm {f f' : Flags} (h : f.Alike f') : f'.Alike f := by
  obtain ⟨ignoreCase, rfl⟩ := h
  exact ⟨f.ignoreCase, rfl⟩

theorem Flags.Alike.trans {f f' f'' : Flags} (h : f.Alike f') (h' : f'.Alike f'') : f.Alike f'' := by
  obtain ⟨ignoreCase, rfl⟩ := h
  obtain ⟨ignoreCase', rfl⟩ := h'
  exact ⟨ignoreCase', rfl⟩

theorem OpenGroup.Alike.refl (g : OpenGroup) : g.Alike deep g := ⟨.refl _, .refl _, fun _ => rfl⟩

theorem OpenGroup.Alike.trans {g g' g'' : OpenGroup} (h : g.Alike deep g')
    (h' : g'.Alike deep g'') : g.Alike deep g'' :=
  ⟨h.flags.trans h'.flags, h.items.trans h'.items,
    fun hd => (h.branches hd).trans (h'.branches hd)⟩

theorem OpenGroup.forall₂_trans {gs gs' gs'' : List OpenGroup}
    (h : List.Forall₂ (Alike deep) gs gs') (h' : List.Forall₂ (Alike deep) gs' gs'') :
    List.Forall₂ (Alike deep) gs gs'' := by
  induction h generalizing gs'' with
  | nil => exact h'
  | cons hg _ ih =>
    cases h' with
    | cons hg' h' => exact .cons (hg.trans hg') (ih h')

theorem OpenGroup.Alike.symm {g g' : OpenGroup} (h : g.Alike deep g') : g'.Alike deep g :=
  ⟨h.flags.symm, h.items.symm, fun hd => (h.branches hd).symm⟩

/-- How deep alternatives are nested. -/
theorem depth_alternatives (branches : List Item) : (alternatives branches).depth =
    match branches.map Item.depth with
    | [depth] => depth
    | depths => 1 + depths.foldl max 0 := by
  match branches with
  | [] => rfl
  | [a] => rfl
  | a :: b :: rest => rfl

namespace ReadState.Alike

variable {st st' : ReadState}

theorem initial (ignoreCase ignoreCase' : Bool) :
    (ReadState.initial ignoreCase).Alike deep (.initial ignoreCase') :=
  ⟨⟨ignoreCase', rfl⟩, .nil, fun _ => rfl, .nil, rfl, rfl⟩

theorem refl (st : ReadState) : st.Alike deep st :=
  ⟨.refl _, .refl _, fun _ => rfl, List.forall₂_same.2 fun g _ => .refl g, rfl, rfl⟩

theorem trans {st'' : ReadState} (h : st.Alike deep st') (h' : st'.Alike deep st'') :
    st.Alike deep st'' :=
  ⟨h.flags.trans h'.flags, h.items.trans h'.items,
    fun hd => (h.branches hd).trans (h'.branches hd),
    OpenGroup.forall₂_trans h.groups h'.groups,
    h.count.trans h'.count, h.names.trans h'.names⟩

theorem symm (h : st.Alike deep st') : st'.Alike deep st :=
  ⟨h.flags.symm, h.items.symm, fun hd => (h.branches hd).symm,
    (h.groups.imp fun _ _ hg => hg.symm).flip, h.count.symm, h.names.symm⟩

theorem spaced (h : st.Alike deep st') : st'.flags.spaced = st.flags.spaced := by
  obtain ⟨ignoreCase, hflags⟩ := h.flags
  rw [hflags]
  rfl

theorem isEmpty_groups (h : st.Alike deep st') : st.groups.isEmpty = st'.groups.isEmpty := by
  rw [Bool.eq_iff_iff, List.isEmpty_iff, List.isEmpty_iff, ← List.length_eq_zero_iff,
    ← List.length_eq_zero_iff, h.groups.length_eq]

/-- One more item, nested as deep. -/
theorem add (h : st.Alike deep st') {a b : Item} (hpart : a.isPart = b.isPart)
    (hdepth : deep → a.depth = b.depth) :
    Alike deep { st with items := a :: st.items } { st' with items := b :: st'.items } :=
  ⟨h.flags, h.items.cons hpart hdepth, h.branches, h.groups, h.count, h.names⟩

theorem push (h : st.Alike deep st') (n n' : Node) : Alike deep (st.push n) (st'.push n') :=
  h.add rfl fun _ => rfl

theorem depth_current (h : st.Alike deep st') (hd : deep) :
    st.current.depth = st'.current.depth := by
  have hbranches : ((sequence st.items.reverse :: st.branches).reverse).map Item.depth =
      ((sequence st'.items.reverse :: st'.branches).reverse).map Item.depth := by
    rw [List.map_reverse, List.map_reverse, List.map_cons, List.map_cons, h.branches hd,
      h.items.depth_sequence hd]
  rw [ReadState.current, ReadState.current, depth_alternatives, depth_alternatives, hbranches]

/-- A group opens alike. -/
theorem openGroup (h : st.Alike deep st') (index index' : Option Nat) {f f' : Flags}
    (hf : f.Alike f') :
    Alike deep (Pattern.openGroup st index f) (Pattern.openGroup st' index' f') :=
  ⟨hf, .nil, fun _ => rfl, .cons ⟨h.flags, h.items, h.branches⟩ h.groups, h.count, h.names⟩

theorem openNoted (h : st.Alike deep st') :
    Alike deep (Pattern.openNoted st) (Pattern.openNoted st') :=
  { h.openGroup _ _ h.flags with count := congrArg Nat.succ h.count }

/-- A group closes alike. -/
theorem exists_closeGroup (h : st.Alike deep st') {st₁ : ReadState}
    (hclose : closeGroup st = some st₁) :
    ∃ st₂, closeGroup st' = some st₂ ∧ st₁.Alike deep st₂ := by
  have hgroups := h.groups
  rw [closeGroup] at hclose
  rw [closeGroup]
  match hl : st.groups, hr : st'.groups with
  | [], _ =>
    rw [hl] at hclose
    cases hclose
  | g :: groups, [] =>
    rw [hl, hr] at hgroups
    cases hgroups
  | g :: groups, g' :: groups' =>
    rw [hl, hr] at hgroups
    rw [hl] at hclose
    obtain ⟨hg, hgroups⟩ := List.forall₂_cons.1 hgroups
    obtain rfl := Option.some.inj hclose
    exact ⟨_, rfl, hg.flags, hg.items.cons rfl fun hd => congrArg Nat.succ (h.depth_current hd),
      hg.branches, hgroups, h.count, h.names⟩

/-- The last item is repeated alike. -/
theorem exists_repeatLast (h : st.Alike deep st') {st₁ : ReadState} {lo : Nat} {hi : Option Nat}
    {long : Bool} (hrepeat : repeatLast st lo hi long = some st₁) :
    st₁.flags = st.flags ∧ ∃ st₂, repeatLast st' lo hi long = some st₂ ∧ st₁.Alike deep st₂ := by
  have hitems := h.items
  rw [repeatLast] at hrepeat
  split at hrepeat
  · rename_i a rest hl
    rw [hl] at hitems
    obtain ⟨a', rest', hr, hpart, hdepth⟩ := hitems.exists_cons
    rw [hr] at hitems
    split at hrepeat
    · rename_i ha
      obtain rfl := Option.some.inj hrepeat
      refine ⟨rfl, ?_⟩
      rw [repeatLast, hr]
      dsimp only
      rw [if_pos (hpart ▸ ha)]
      exact ⟨_, rfl, h.flags, hitems.replace rfl fun hd => congrArg Nat.succ (hdepth hd),
        h.branches, h.groups, h.count, h.names⟩
    · cases hrepeat
  · cases hrepeat

end ReadState.Alike

/-! ### One step -/

section Steps

variable {st st' : ReadState} {s : List Char}

/-- What follows a bound: the last item is repeated, and a question mark changes how. -/
theorem extends_readRepeat (h : st.Alike deep st') (lo : Nat) (hi : Option Nat) :
    Extends st.flags.spaced (ReadState.AlikeWith deep st.flags) s
      (readRepeat st lo hi s) fun w => readRepeat st' lo hi (s ++ w) := by
  have hplain : ∀ (st : ReadState) (t : List Char), (∀ c ∈ t.head?, c ≠ '?') →
      readRepeat st lo hi t = (repeatLast st lo hi true).map fun st => (st, t) := by
    intro st t ht
    unfold readRepeat
    split
    · exact absurd rfl (ht '?' rfl)
    · rfl
  have hrepeat : ∀ (long : Bool) (t : List Char),
      Extends st.flags.spaced (ReadState.AlikeWith deep st.flags) t
        ((repeatLast st lo hi long).map fun st => (st, t))
        fun w => (repeatLast st' lo hi long).map fun st => (st, t ++ w) := by
    intro long t
    refine .ofOption fun st₁ hst₁ => ?_
    obtain ⟨hflags, st₂, hst₂, halike⟩ := h.exists_repeatLast hst₁
    exact ⟨st₂, hst₂, hflags, halike⟩
  cases s with
  | nil =>
    intro st₁ rest hr
    obtain ⟨hsuffix, hmore⟩ := hrepeat true [] st₁ rest hr
    refine ⟨hsuffix, fun w hw => ?_⟩
    obtain rfl := List.suffix_nil.1 hsuffix
    obtain ⟨st₂, hst₂, halike⟩ := hmore w hw
    exact ⟨st₂, (hplain st' w fun c hc => (hw rfl c hc).2.1).trans hst₂, halike⟩
  | cons c s =>
    by_cases hc : c = '?'
    · obtain rfl := hc
      exact .cons _ (hrepeat false s)
    · have hhead : ∀ t, ∀ d ∈ (c :: t).head?, d ≠ '?' := by
        rintro t d ⟨⟩
        exact hc
      simp only [List.cons_append, hplain _ _ (hhead _)]
      exact hrepeat true (c :: s)

/-- Digits that something is left behind end there. -/
theorem readDigits_append {x : Bool} {value v : Option Nat} {fuel : Nat} {c : Char}
    {left : List Char} (hfuel : s.length < fuel)
    (h : readDigits x value fuel s = (v, c :: left)) : c :: left <:+ s ∧
      ∀ w, readDigits x value (fuel + w.length) (s ++ w) = (v, c :: left ++ w) := by
  induction fuel generalizing value s with
  | zero => cases hfuel
  | succ fuel ih =>
    cases s with
    | nil => cases h
    | cons d s =>
      rw [readDigits] at h
      split at h
      · rename_i hd
        have hlength : (skip x s).length < fuel :=
          Nat.lt_of_le_of_lt (skip_suffix x s).length_le (Nat.lt_of_succ_lt_succ hfuel)
        obtain ⟨hsuffix, hmore⟩ := ih hlength h
        refine ⟨suffix_cons_of_skip hsuffix d, fun w => ?_⟩
        rw [add_length_succ, List.cons_append, readDigits, if_pos hd,
          skip_append_of_suffix hsuffix, hmore]
      · rename_i hd
        obtain ⟨rfl, hrest⟩ := Prod.mk.inj h
        obtain ⟨rfl, rfl⟩ := List.cons.inj hrest
        refine ⟨List.suffix_refl _, fun w => ?_⟩
        rw [add_length_succ, List.cons_append, readDigits, if_neg hd]

theorem readCount_append {x : Bool} {v : Option Nat} {c : Char} {left : List Char}
    (h : readCount x s = some (v, c :: left)) : c :: left <:+ s ∧
      ∀ w, readCount x (s ++ w) = some (v, c :: left ++ w) := by
  generalize hstart : s.dropWhile Blank.isBlank = t
  generalize hdigits : readDigits x none (t.length + 1) t = p
  obtain ⟨value, u⟩ := p
  have hread : ∀ {s t u : List Char} {value : Option Nat}, s.dropWhile Blank.isBlank = t →
      readDigits x none (t.length + 1) t = (value, u) → readCount x s =
        if 0xffffffff < value.getD 0 then none
        else some (value, u.dropWhile Blank.isBlank) := by
    intro s t u value hstart hdigits
    rw [readCount, hstart]
    dsimp only
    rw [hdigits]
  rw [hread hstart hdigits] at h
  split at h
  · cases h
  · rename_i hvalue
    obtain ⟨rfl, hend⟩ := Prod.mk.inj (Option.some.inj h)
    cases u with
    | nil => cases hend
    | cons d u =>
      obtain ⟨hsuffix, hmore⟩ := readDigits_append (Nat.lt_succ_self _) hdigits
      cases t with
      | nil => cases List.suffix_nil.1 hsuffix
      | cons e t =>
        refine ⟨?_, fun w => ?_⟩
        · exact ((hend ▸ List.dropWhile_suffix _).trans hsuffix).trans
            (hstart ▸ List.dropWhile_suffix _)
        · have hdigits' := length_append_add (e :: t) w 1 ▸ hmore w
          rw [hread (dropWhile_append_of_cons hstart w).1 hdigits', if_neg hvalue,
            (dropWhile_append_of_cons hend w).1]

/-- The end of a repetition between braces. -/
def finishBraces (st : ReadState) (lo : Nat) (hi : Option Nat) (s : List Char) :
    Option (ReadState × List Char) :=
  match s with
  | '\x7d' :: rest =>
    if hi.any fun h => h < lo then none else readRepeat st lo hi (skip st.flags.spaced rest)
  | _ => none

/-- A repetition between braces behind its lower bound. -/
def readUpper (st : ReadState) (lo : Nat) (s : List Char) : Option (ReadState × List Char) :=
  match s with
  | ',' :: rest =>
    match skip st.flags.spaced rest with
    | '\x7d' :: left => finishBraces st lo none ('\x7d' :: left)
    | [] => none
    | s =>
      (readCount st.flags.spaced s).bind fun p => p.1.bind fun hi => finishBraces st lo (some hi) p.2
  | _ => finishBraces st lo (some lo) s

theorem readBraces_eq (st : ReadState) (s : List Char) : readBraces st s =
    (readCount st.flags.spaced (skip st.flags.spaced s)).bind fun p =>
      p.1.bind fun lo => readUpper st lo p.2 := by
  rfl

theorem finishBraces_of_ne {c : Char} (hc : c ≠ '\x7d') (lo : Nat) (hi : Option Nat)
    (s : List Char) : finishBraces st lo hi (c :: s) = none := by
  rw [finishBraces]
  simpa using hc

theorem extends_finishBraces (h : st.Alike deep st') (lo : Nat) (hi : Option Nat) :
    Extends st.flags.spaced (ReadState.AlikeWith deep st.flags) s
      (finishBraces st lo hi s) fun w => finishBraces st' lo hi (s ++ w) := by
  cases s with
  | nil => exact .none
  | cons c s =>
    by_cases hc : c = '\x7d'
    · obtain rfl := hc
      simp only [List.cons_append, finishBraces, h.spaced]
      refine .cons _ ?_
      split
      · exact .none
      · exact .skip (R := fun _ => readRepeat st' lo hi) (extends_readRepeat h lo hi)
    · rw [finishBraces_of_ne hc]
      exact .none

/-- A count is read in front of something else, which must be there. -/
theorem extends_readCount {α β : Type} {x : Bool} {P : α → β → Prop}
    {K : Option Nat × List Char → Option (α × List Char)}
    {L : List Char → Option Nat × List Char → Option (β × List Char)}
    (hnil : ∀ v, K (v, []) = none)
    (hK : ∀ v t, Extends x P t (K (v, t)) fun w => L w (v, t ++ w)) :
    Extends x P s ((readCount x s).bind K) fun w => (readCount x (s ++ w)).bind (L w) := by
  intro a rest hr
  obtain ⟨⟨v, t⟩, hcount, ha⟩ := Option.bind_eq_some_iff.1 hr
  cases t with
  | nil =>
    rw [hnil] at ha
    cases ha
  | cons c t =>
    obtain ⟨hsuffix, hmore⟩ := readCount_append hcount
    obtain ⟨hrest, hext⟩ := hK v _ a rest ha
    refine ⟨hrest.trans hsuffix, fun w hw => ?_⟩
    obtain ⟨b, hb, hab⟩ := hext w hw
    exact ⟨b, Option.bind_eq_some_iff.2 ⟨_, hmore w, hb⟩, hab⟩

theorem extends_readUpper (h : st.Alike deep st') (lo : Nat) :
    Extends st.flags.spaced (ReadState.AlikeWith deep st.flags) s
      (readUpper st lo s) fun w => readUpper st' lo (s ++ w) := by
  cases s with
  | nil => exact .none
  | cons c s =>
    by_cases hc : c = ','
    · obtain rfl := hc
      refine .cons _ ?_
      cases hskip : skip st.flags.spaced s with
      | nil =>
        rw [readUpper, hskip]
        exact .none
      | cons d t =>
        by_cases hd : d = '\x7d'
        · obtain rfl := hd
          rw [readUpper, hskip]
          refine .of_skip hskip (extends_finishBraces h lo none) fun w hw => ?_
          rw [List.cons_append, readUpper, h.spaced, hw]
          rfl
        · have hread : ∀ {st : ReadState} {s t : List Char}, skip st.flags.spaced s = d :: t →
              readUpper st lo (',' :: s) = (readCount st.flags.spaced (d :: t)).bind fun p =>
                p.1.bind fun hi => finishBraces st lo (some hi) p.2 := by
            intro st s t hskip
            rw [readUpper, hskip]
            split
            · exact absurd (List.cons.inj ‹d :: t = '\x7d' :: _›).1 hd
            · cases ‹d :: t = []›
            · rfl
          have hupper := extends_readCount (x := st.flags.spaced) (s := d :: t)
            (P := ReadState.AlikeWith deep st.flags)
            (K := fun p => p.1.bind fun hi => finishBraces st lo (some hi) p.2)
            (L := fun _ p => p.1.bind fun hi => finishBraces st' lo (some hi) p.2) ?_ ?_
          · rw [hread hskip]
            refine .of_skip hskip hupper fun w hw => ?_
            rw [List.cons_append, hread (t := t ++ w) (h.spaced ▸ hw), h.spaced]
            rfl
          · rintro (_ | hi)
            · rfl
            · rfl
          · rintro (_ | hi) u
            · exact .none
            · exact extends_finishBraces h lo (some hi)
    · have hread : ∀ (st : ReadState) (t : List Char),
          readUpper st lo (c :: t) = finishBraces st lo (some lo) (c :: t) := by
        intro st t
        rw [readUpper]
        simpa using hc
      simp only [List.cons_append, hread]
      exact extends_finishBraces h lo (some lo)

theorem extends_readBraces (h : st.Alike deep st') :
    Extends st.flags.spaced (ReadState.AlikeWith deep st.flags) s
      (readBraces st s) fun w => readBraces st' (s ++ w) := by
  simp only [readBraces_eq, h.spaced]
  refine .skip (R := fun _ s => (readCount st.flags.spaced s).bind fun p =>
    p.1.bind fun lo => readUpper st' lo p.2) (extends_readCount ?_ ?_)
  · rintro (_ | lo)
    · rfl
    · rfl
  · rintro (_ | lo) t
    · exact .none
    · exact extends_readUpper h lo

/-! ### Groups -/

theorem extends_readGroupName {x : Bool} :
    Extends x Eq s (readGroupName s) fun w => readGroupName (s ++ w) := by
  cases hdrop : s.dropWhile fun c => c != '>' with
  | nil =>
    rw [readGroupName, hdrop]
    exact .none
  | cons c t =>
    have hsuffix : c :: t <:+ s := hdrop ▸ List.dropWhile_suffix _
    have hc : c = '>' := by
      have hhead := List.head?_dropWhile_not (fun c => c != '>') s
      rw [hdrop] at hhead
      simpa using hhead
    obtain rfl := hc
    cases hname : s.takeWhile fun c => c != '>' with
    | nil =>
      rw [readGroupName, hdrop, hname]
      exact .none
    | cons d more =>
      have hmore : ∀ w, readGroupName (s ++ w) =
          if isNameChar true d && more.all (isNameChar false) then some (d :: more, t ++ w)
          else none := by
        intro w
        obtain ⟨hdrop', htake⟩ := dropWhile_append_of_cons hdrop w
        rw [readGroupName, hdrop', htake, hname]
        rfl
      have hread := hmore []
      rw [List.append_nil, List.append_nil] at hread
      rw [hread]
      simp only [hmore]
      refine .of_suffix ((List.suffix_cons _ t).trans hsuffix) ?_
      split
      · exact .some rfl
      · exact .none

/-- A switch is turned alike. -/
theorem exists_setFlag {f f' f₁ : Flags} {on : Bool} {c : Char} (hf : f.Alike f')
    (h : setFlag f on c = some f₁) : ∃ f₂, setFlag f' on c = some f₂ ∧ f₁.Alike f₂ := by
  obtain ⟨ignoreCase, rfl⟩ := hf
  unfold setFlag at h
  split at h
  · obtain rfl := Option.some.inj h
    exact ⟨_, rfl, on, rfl⟩
  all_goals first
    | cases h; done
    | obtain rfl := Option.some.inj h
      exact ⟨_, rfl, ignoreCase, rfl⟩

/-- Switches are applied alike. -/
theorem exists_applyFlags {seen letters : List Char} {f f' f₁ : Flags} (hf : f.Alike f')
    (h : applyFlags seen f letters = some f₁) :
    ∃ f₂, applyFlags seen f' letters = some f₂ ∧ f₁.Alike f₂ := by
  induction letters generalizing seen f f' with
  | nil =>
    rw [applyFlags] at h
    rw [applyFlags]
    split at h
    · cases h
    · obtain rfl := Option.some.inj h
      rename_i hhead
      exact ⟨f', if_neg hhead, hf⟩
  | cons c letters ih =>
    rw [applyFlags] at h
    rw [applyFlags]
    split at h
    · cases h
    · rename_i hseen
      rw [if_neg hseen]
      split at h
      · rename_i hc
        rw [if_pos hc]
        exact ih hf h
      · rename_i hc
        rw [if_neg hc]
        obtain ⟨g, hg, h⟩ := Option.bind_eq_some_iff.1 h
        obtain ⟨g', hg', hgg⟩ := exists_setFlag hf hg
        obtain ⟨f₂, hf₂, halike⟩ := ih hgg h
        exact ⟨f₂, by rw [hg', Option.bind_some, hf₂], halike⟩

/-- A step that is taken alike where more text follows. -/
abbrev Steps (deep : Prop) : List Char → Option (ReadState × List Char) →
    (List Char → Option (ReadState × List Char)) → Prop :=
  ExtendsBy (fun st => st.flags.spaced) (ReadState.Alike deep)

/-- A step that leaves the switches as they are. -/
theorem Steps.of_extends {f : Flags} {r : Option (ReadState × List Char)}
    {more : List Char → Option (ReadState × List Char)}
    (h : Extends f.spaced (ReadState.AlikeWith deep f) s r more) : Steps deep s r more := by
  intro st₁ rest hr
  obtain ⟨hsuffix, hmore⟩ := h st₁ rest hr
  obtain ⟨st₂, -, hflags, -⟩ := hmore [] fun _ _ => nofun
  refine ⟨hsuffix, fun w hw => ?_⟩
  obtain ⟨st₂, hst₂, -, halike⟩ := hmore w (hflags ▸ hw)
  exact ⟨st₂, hst₂, halike⟩

/-- The end of switches. -/
def isSwitchEnd (c : Char) : Bool := c == ':' || c == ')'

/-- Switches in parentheses, for a group or from here on. -/
def readSwitches (st : ReadState) (s : List Char) : Option (ReadState × List Char) :=
  (applyFlags [] st.flags (s.takeWhile fun c => !isSwitchEnd c)).bind fun flags =>
    match s.dropWhile fun c => !isSwitchEnd c with
    | ':' :: left => some (openGroup st none flags, left)
    | ')' :: left =>
      if (s.takeWhile fun c => !isSwitchEnd c).isEmpty then none
      else some ({ st with flags := flags, items := ⟨.empty, 0, false⟩ :: st.items }, left)
    | _ => none

theorem steps_readSwitches (h : st.Alike deep st') :
    Steps deep s (readSwitches st s) fun w => readSwitches st' (s ++ w) := by
  cases hdrop : s.dropWhile fun c => !isSwitchEnd c with
  | nil =>
    intro st₁ rest hr
    obtain ⟨flags, -, hr⟩ := Option.bind_eq_some_iff.1 hr
    rw [hdrop] at hr
    cases hr
  | cons c t =>
    intro st₁ rest hr
    obtain ⟨flags, hflags, hr⟩ := Option.bind_eq_some_iff.1 hr
    rw [hdrop] at hr
    obtain ⟨flags', hflags', hf⟩ := exists_applyFlags h.flags hflags
    have hsuffix : t <:+ s := (List.suffix_cons c t).trans (hdrop ▸ List.dropWhile_suffix _)
    have hmore : ∀ w, readSwitches st' (s ++ w) =
        match c :: t ++ w with
        | ':' :: left => some (openGroup st' none flags', left)
        | ')' :: left =>
          if (s.takeWhile fun c => !isSwitchEnd c).isEmpty then none
          else some ({ st' with flags := flags', items := ⟨.empty, 0, false⟩ :: st'.items }, left)
        | _ => none := by
      intro w
      obtain ⟨hdrop', htake⟩ := dropWhile_append_of_cons hdrop w
      rw [readSwitches, hdrop', htake, hflags', Option.bind_some]
    split at hr
    · obtain ⟨rfl, rfl⟩ := List.cons.inj ‹c :: t = _›
      obtain ⟨rfl, rfl⟩ := Prod.mk.inj (Option.some.inj hr)
      exact ⟨hsuffix, fun w _ => ⟨_, hmore w, h.openGroup none none hf⟩⟩
    · obtain ⟨rfl, rfl⟩ := List.cons.inj ‹c :: t = _›
      split at hr
      · cases hr
      · rename_i hletters
        obtain ⟨rfl, rfl⟩ := Prod.mk.inj (Option.some.inj hr)
        refine ⟨hsuffix, fun w _ => ⟨_, (hmore w).trans (if_neg hletters), ?_⟩⟩
        exact { h.add (a := ⟨.empty, 0, false⟩) (b := ⟨.empty, 0, false⟩) rfl fun _ => rfl with
          flags := hf }
    · cases hr

/-- No switches begin with one of the signs that begin something else. -/
theorem readSwitches_eq_none {c : Char} (hc : c ∈ ['=', '!', '<', 'P']) (t : List Char) :
    readSwitches st (c :: t) = none := by
  have hend : isSwitchEnd c = false ∧ c ≠ '-' ∧ ∀ f on, setFlag f on c = none := by
    fin_cases hc
    all_goals exact ⟨rfl, by decide, fun _ _ => rfl⟩
  obtain ⟨hend, hhyphen, hflag⟩ := hend
  have hletters : (c :: t).takeWhile (fun c => !isSwitchEnd c) =
      c :: t.takeWhile fun c => !isSwitchEnd c := List.takeWhile_cons_of_pos (by simp [hend])
  rw [readSwitches, hletters, applyFlags, hflag]
  simp [hhyphen]

theorem extends_openNamed (h : st.Alike deep st') :
    Extends st.flags.spaced (ReadState.AlikeWith deep st.flags) s
      (openNamed st s) fun w => openNamed st' (s ++ w) := by
  refine extends_readGroupName.bind (L := fun _ p => if st'.names.contains p.1 then none
    else some ({ openNoted st' with names := p.1 :: st'.names }, p.2)) ?_
  rintro name _ t rfl
  dsimp only
  rw [h.names]
  split
  · exact .none
  · exact .some ⟨rfl, { h.openNoted with names := rfl }⟩

/-- What may follow an opening parenthesis and the blanks behind it. -/
inductive GroupText : List Char → Prop
  | plain {t : List Char} (h : t.head? ≠ some '?') : GroupText t
  | named (t : List Char) : GroupText ('?' :: 'P' :: '<' :: t)
  | angle {c : Char} (hc : c ∉ ['=', '!']) (t : List Char) : GroupText ('?' :: '<' :: c :: t)
  | switches {c : Char} (hc : c ∉ ['=', '!', '<', 'P']) (t : List Char) : GroupText ('?' :: c :: t)
  | cutOff : GroupText ['?']
  | ahead {c : Char} (hc : c ∈ ['=', '!']) (t : List Char) : GroupText ('?' :: c :: t)
  | angleCutOff : GroupText ['?', '<']
  | behind {c : Char} (hc : c ∈ ['=', '!']) (t : List Char) : GroupText ('?' :: '<' :: c :: t)
  | unnamed {t : List Char} (h : t.head? ≠ some '<') : GroupText ('?' :: 'P' :: t)

theorem groupText (t : List Char) : GroupText t := by
  by_cases hhead : t.head? = some '?'
  · obtain ⟨t, rfl⟩ := List.head?_eq_some_iff.1 hhead
    match t with
    | [] => exact .cutOff
    | c :: t =>
      by_cases hc : c ∈ ['=', '!', '<', 'P']
      · fin_cases hc
        · exact .ahead (by decide) t
        · exact .ahead (by decide) t
        · match t with
          | [] => exact .angleCutOff
          | d :: t =>
            by_cases hd : d ∈ ['=', '!']
            · exact .behind hd t
            · exact .angle hd t
        · by_cases ht : t.head? = some '<'
          · obtain ⟨u, rfl⟩ := List.head?_eq_some_iff.1 ht
            exact .named u
          · exact .unnamed ht
      · exact .switches hc t
  · exact .plain hhead

section Opening

variable {c : Char} {t : List Char}

theorem readOpening_of_head (hskip : skip st.flags.spaced s = t) (ht : t.head? ≠ some '?') :
    readOpening st s = some (openNoted st, t) := by
  rw [readOpening, hskip]
  split
  all_goals first | rfl | exact absurd rfl ht

theorem readOpening_switches (hskip : skip st.flags.spaced s = '?' :: c :: t)
    (hc : c ∉ ['=', '!', '<', 'P']) : readOpening st s = readSwitches st (c :: t) := by
  simp only [List.mem_cons, List.not_mem_nil, or_false, not_or] at hc
  obtain ⟨hequals, hbang, hangle, hname⟩ := hc
  rw [readOpening, hskip]
  split
  · exact absurd (List.cons.inj (List.cons.inj ‹_›).2).1 hequals
  · exact absurd (List.cons.inj (List.cons.inj ‹_›).2).1 hbang
  · exact absurd (List.cons.inj (List.cons.inj ‹_›).2).1 hangle
  · exact absurd (List.cons.inj (List.cons.inj ‹_›).2).1 hangle
  · exact absurd (List.cons.inj (List.cons.inj ‹_›).2).1 hname
  · exact absurd (List.cons.inj (List.cons.inj ‹_›).2).1 hangle
  · rename_i heq
    obtain ⟨-, rfl⟩ := List.cons.inj heq
    rfl
  · rename_i hne
    exact absurd rfl (hne _)

theorem readOpening_named (hskip : skip st.flags.spaced s = '?' :: 'P' :: '<' :: t) :
    readOpening st s = openNamed st t := by
  rw [readOpening, hskip]
  rfl

theorem readOpening_angle (hskip : skip st.flags.spaced s = '?' :: '<' :: c :: t)
    (hc : c ∉ ['=', '!']) : readOpening st s = openNamed st (c :: t) := by
  simp only [List.mem_cons, List.not_mem_nil, or_false, not_or] at hc
  have htail : ∀ {d : Char} {u : List Char}, '?' :: '<' :: c :: t = '?' :: '<' :: d :: u → c = d :=
    fun h => (List.cons.inj (List.cons.inj (List.cons.inj h).2).2).1
  rw [readOpening, hskip]
  split
  · exact absurd (List.cons.inj (List.cons.inj ‹_›).2).1 (by decide)
  · exact absurd (List.cons.inj (List.cons.inj ‹_›).2).1 (by decide)
  · exact absurd (htail ‹_›) hc.1
  · exact absurd (htail ‹_›) hc.2
  · exact absurd (List.cons.inj (List.cons.inj ‹_›).2).1 (by decide)
  · rename_i heq
    obtain ⟨-, rfl⟩ := List.cons.inj (List.cons.inj heq).2
    rfl
  · rename_i hne heq
    obtain ⟨-, rfl⟩ := List.cons.inj heq
    exact absurd rfl (hne _)
  · rename_i hne
    exact absurd rfl (hne _)

/-- The name of a group stands between angles. -/
theorem readOpening_unnamed (hskip : skip st.flags.spaced s = '?' :: 'P' :: t)
    (ht : t.head? ≠ some '<') : readOpening st s = none := by
  rw [readOpening, hskip]
  split
  · exact absurd (List.cons.inj (List.cons.inj ‹_›).2).1 (by decide)
  · exact absurd (List.cons.inj (List.cons.inj ‹_›).2).1 (by decide)
  · exact absurd (List.cons.inj (List.cons.inj ‹_›).2).1 (by decide)
  · exact absurd (List.cons.inj (List.cons.inj ‹_›).2).1 (by decide)
  · rename_i heq
    rw [(List.cons.inj (List.cons.inj heq).2).2] at ht
    exact absurd rfl ht
  · exact absurd (List.cons.inj (List.cons.inj ‹_›).2).1 (by decide)
  · rename_i heq
    obtain ⟨-, rfl⟩ := List.cons.inj heq
    exact readSwitches_eq_none (by decide) t
  · rename_i hne
    exact absurd rfl (hne _)

/-- No group looks ahead or behind. -/
theorem readOpening_look {c : Char} (hc : c ∈ ['=', '!'])
    (hskip : skip st.flags.spaced s = '?' :: c :: t ∨
      skip st.flags.spaced s = '?' :: '<' :: c :: t) : readOpening st s = none := by
  rcases hskip with hskip | hskip
  · rw [readOpening, hskip]
    fin_cases hc
    · rfl
    · rfl
  · rw [readOpening, hskip]
    fin_cases hc
    · rfl
    · rfl

end Opening

/-- A group with a name, whichever way it is written. -/
theorem steps_openNamed (h : st.Alike deep st') :
    Steps deep s (openNamed st s) fun w => openNamed st' (s ++ w) := .of_extends (extends_openNamed h)

/-- **What follows an opening parenthesis** is read alike. -/
theorem steps_readOpening (h : st.Alike deep st') :
    Steps deep s (readOpening st s) fun w => readOpening st' (s ++ w) := by
  have hspaced := h.spaced
  generalize hskip : skip st.flags.spaced s = t
  cases groupText t with
  | plain ht =>
    rw [readOpening_of_head hskip ht]
    rintro _ _ ⟨⟩
    refine ⟨hskip ▸ skip_suffix _ s, fun w hw => ⟨openNoted st', ?_, h.openNoted⟩⟩
    have hskip' : skip st'.flags.spaced (s ++ w) = t ++ w := by
      rw [hspaced, skip_append (hskip.symm ▸ hw), hskip]
    refine readOpening_of_head hskip' ?_
    -- the text that follows begins with no question mark either
    cases t with
    | nil => exact fun hhead => (hw rfl _ hhead).2.1 rfl
    | cons c t => exact ht
  | named t =>
    rw [readOpening_named hskip]
    exact .of_skip hskip (.cons _ (.cons _ (.cons _ (steps_openNamed h)))) fun w hw =>
      readOpening_named (hspaced ▸ hw)
  | angle hc t =>
    rw [readOpening_angle hskip hc]
    exact .of_skip hskip (.cons _ (.cons _ (steps_openNamed h))) fun w hw =>
      readOpening_angle (hspaced ▸ hw) hc
  | switches hc t =>
    rw [readOpening_switches hskip hc]
    exact .of_skip hskip (.cons _ (steps_readSwitches h)) fun w hw =>
      readOpening_switches (hspaced ▸ hw) hc
  | cutOff =>
    rw [readOpening, hskip]
    exact .none
  | ahead hc t =>
    rw [readOpening_look hc (Or.inl hskip)]
    exact .none
  | angleCutOff =>
    rw [readOpening, hskip]
    exact .none
  | behind hc t =>
    rw [readOpening_look hc (Or.inr hskip)]
    exact .none
  | unnamed ht =>
    rw [readOpening_unnamed hskip ht]
    exact .none

/-! ### Any step -/

/-- What an item stands for can be added alike. -/
theorem exists_nodeOf {f f' : Flags} {a a' : Atom} {n : Node} (hf : f.Alike f') (ha : a.Alike a')
    (h : nodeOf f a = some n) : ∃ n', nodeOf f' a' = some n' := by
  obtain ⟨ignoreCase, rfl⟩ := hf
  cases ha with
  | literal c isByte =>
    have hunicode : (f.folding ignoreCase).unicode = f.unicode := rfl
    rw [nodeOf] at h
    rw [nodeOf, hunicode]
    split at h
    · cases h
    · rename_i hbyte
      exact ⟨_, if_neg hbyte⟩
  | set k k' => exact ⟨_, rfl⟩
  | look l => exact ⟨_, rfl⟩

/-- What stands between brackets is added alike. -/
theorem steps_readClass (h : st.Alike deep st') :
    Steps deep s
      ((readClass st.flags s).map fun p =>
        ({ st with items := ⟨Node.ofClass p.1.cls, p.1.depth, true⟩ :: st.items }, p.2))
      fun w => (readClass st'.flags (s ++ w)).map fun p =>
        ({ st' with items := ⟨Node.ofClass p.1.cls, p.1.depth, true⟩ :: st'.items }, p.2) := by
  obtain ⟨ignoreCase, hflags⟩ := h.flags
  have hclass := extends_readClass (s := s) st.flags ignoreCase
  rw [← hflags] at hclass
  refine .of_extends (f := st.flags) (hclass.map
    (f := fun n => { st with items := ⟨Node.ofClass n.cls, n.depth, true⟩ :: st.items })
    (g := fun n => { st' with items := ⟨Node.ofClass n.cls, n.depth, true⟩ :: st'.items }) ?_)
  exact fun n n' hn => ⟨rfl, h.add rfl fun _ => hn⟩

/-- What an escape stands for is added alike. -/
theorem steps_readEscape (h : st.Alike deep st') :
    Steps deep s
      ((readEscape st.flags s).bind fun p => (nodeOf st.flags p.1).map fun n => (st.push n, p.2))
      fun w => (readEscape st'.flags (s ++ w)).bind fun p =>
        (nodeOf st'.flags p.1).map fun n => (st'.push n, p.2) := by
  obtain ⟨ignoreCase, hflags⟩ := h.flags
  have hescape := extends_readEscape (s := s) st.flags ignoreCase
  rw [← hflags] at hescape
  refine .of_extends (f := st.flags) (hescape.bind (L := fun _ p =>
    (nodeOf st'.flags p.1).map fun n => (st'.push n, p.2)) fun a a' t ha => ?_)
  dsimp only
  refine .ofOption fun n hn => ?_
  obtain ⟨n', hn'⟩ := exists_nodeOf h.flags ha hn
  exact ⟨n', hn', rfl, h.push n n'⟩

/-- An alternative ends alike. -/
theorem ReadState.Alike.bar (h : st.Alike deep st') :
    Alike deep { st with items := [], branches := sequence st.items.reverse :: st.branches }
      { st' with items := [], branches := sequence st'.items.reverse :: st'.branches } where
  flags := h.flags
  items := .nil
  branches := fun hd => congrArg₂ List.cons (h.items.depth_sequence hd) (h.branches hd)
  groups := h.groups
  count := h.count
  names := h.names

/-- **Every step is taken alike** from states that are alike, wherever more text follows. -/
theorem steps_readStep (h : st.Alike deep st') (c : Char) :
    Steps deep s (readStep st (c :: s)) fun w => readStep st' (c :: s ++ w) := by
  have hpush : ∀ n n', Steps deep s (some (st.push n, s)) fun w => some (st'.push n', s ++ w) :=
    fun n n' => .some (h.push n n')
  by_cases hmark : c ∈ ['(', ')', '|', '[', '?', '*', '+', '\x7b', '\\', '.', '^', '$']
  · fin_cases hmark
    · exact steps_readOpening h
    · exact .ofOption fun st₁ hst₁ => h.exists_closeGroup hst₁
    · exact .some h.bar
    · exact steps_readClass h
    · exact .of_extends (extends_readRepeat h 0 (some 1))
    · exact .of_extends (extends_readRepeat h 0 none)
    · exact .of_extends (extends_readRepeat h 1 none)
    · exact .of_extends (extends_readBraces h)
    · exact steps_readEscape h
    · have hdot : dotClass st'.flags = dotClass st.flags := by
        obtain ⟨ignoreCase, hflags⟩ := h.flags
        rw [hflags]
        rfl
      exact .ofOption (s := s) (f := fun k => st.push (Node.ofClass k))
        (g := fun k => st'.push (Node.ofClass k)) fun k hk => ⟨k, hdot.trans hk, h.push _ _⟩
    · exact hpush _ _
    · exact hpush _ _
  · have hread : ∀ (st : ReadState) (t : List Char), readStep st (c :: t) =
        (nodeOf st.flags (.literal c false)).map fun n => (st.push n, t) := by
      intro st t
      rw [readStep]
      all_goals
        rintro rfl
        exact hmark (by decide)
    simp only [List.cons_append, hread]
    refine .ofOption (s := s) (f := st.push) (g := st'.push) fun n hn => ?_
    obtain ⟨n', hn'⟩ := exists_nodeOf h.flags (.literal c false) hn
    exact ⟨n', hn', h.push n n'⟩

end Steps

/-! ### A whole text -/

section Run

variable {st st' st₁ : ReadState} {s w : List Char} {n : Nat}

theorem readFrom_nil (h : readFrom n st [] = some st₁) : st₁ = st := by
  cases n with
  | zero => cases h
  | succ n =>
    have hskip : skip st.flags.spaced [] = [] := List.suffix_nil.1 (skip_suffix _ [])
    rw [readFrom, hskip] at h
    exact (Option.some.inj h).symm

/-- **A text is read alike** from states that are alike, wherever more text follows. -/
theorem exists_readFrom (h : st.Alike deep st') (hread : readFrom n st s = some st₁)
    (hw : ∀ c ∈ w.head?, st₁.flags.spaced = false ∧ c ≠ '?' ∧ c ≠ '\x7b') :
    ∃ st₁', st₁.Alike deep st₁' ∧ ∀ fuel, (s ++ w).length < fuel → ∃ fuel', w.length < fuel' ∧
      readFrom fuel st' (s ++ w) = readFrom fuel' st₁' w := by
  induction n generalizing st st' s with
  | zero => cases hread
  | succ n ih =>
    cases hskip : skip st.flags.spaced s with
    | nil =>
      rw [readFrom, hskip] at hread
      obtain rfl := Option.some.inj hread
      refine ⟨st', h, fun fuel hfuel => ⟨fuel, ?_, ?_⟩⟩
      · rw [List.length_append] at hfuel
        omega
      cases fuel with
      | zero => cases hfuel
      | succ fuel =>
        have hboth : skip st'.flags.spaced (s ++ w) = skip st'.flags.spaced w := by
          rw [h.spaced, skip_append (hskip.symm ▸ fun _ => hw), hskip, List.nil_append]
          cases w with
          | nil => exact (List.suffix_nil.1 (skip_suffix _ [])).symm
          | cons c w => rw [(hw c rfl).1, skip, if_neg Bool.false_ne_true]
        rw [readFrom, hboth, readFrom]
    | cons c t =>
      rw [readFrom, hskip] at hread
      obtain ⟨⟨st₂, u⟩, hstep, hread⟩ := Option.bind_eq_some_iff.1 hread
      obtain ⟨hsuffix, hmore⟩ := steps_readStep h c st₂ u hstep
      have hu : Follows st₂.flags.spaced u w := by
        rintro rfl
        obtain rfl := readFrom_nil hread
        exact hw
      obtain ⟨st₂', hstep', halike⟩ := hmore w hu
      dsimp only at hstep'
      obtain ⟨st₁', halike', hrun⟩ := ih halike hread
      refine ⟨st₁', halike', fun fuel hfuel => ?_⟩
      have hlength : (u ++ w).length < (s ++ w).length := by
        have hs := (hskip ▸ skip_suffix st.flags.spaced s).length_le
        have hu := hsuffix.length_le
        simp only [List.length_append, List.length_cons] at hs ⊢
        omega
      cases fuel with
      | zero => cases hfuel
      | succ fuel =>
        obtain ⟨fuel', hfuel', heq⟩ := hrun fuel (by omega)
        refine ⟨fuel', hfuel', ?_⟩
        rw [← heq, readFrom, h.spaced, skip_append (.of_ne_nil (by simp [hskip])), hskip]
        dsimp only [List.cons_append]
        rw [← List.cons_append, hstep', Option.bind_some]

/-- A text that is read to its end from one state is read to its end from any state alike. -/
theorem exists_readFrom_end (h : st.Alike deep st') (hread : readFrom n st s = some st₁) {fuel : Nat}
    (hfuel : s.length < fuel) : ∃ st₁', readFrom fuel st' s = some st₁' ∧ st₁.Alike deep st₁' := by
  obtain ⟨st₁', halike, hrun⟩ := exists_readFrom (w := []) h hread nofun
  obtain ⟨fuel', hfuel', heq⟩ := hrun fuel (by simpa using hfuel)
  rw [List.append_nil] at heq
  refine ⟨st₁', heq.trans ?_, halike⟩
  cases fuel' with
  | zero => cases hfuel'
  | succ fuel' =>
    have hskip : skip st₁'.flags.spaced [] = [] := List.suffix_nil.1 (skip_suffix _ [])
    rw [readFrom, hskip]

end Run

/-- **Whether a pattern's text is well formed** does not hang on whether case is minded. -/
theorem isSome_readNode (ignoreCase ignoreCase' : Bool) (s : List Char)
    (h : (readNode ignoreCase s).isSome) : (readNode ignoreCase' s).isSome := by
  have hstart : (ReadState.initial ignoreCase).Alike True (.initial ignoreCase') := .initial _ _
  obtain ⟨p, hp⟩ := Option.isSome_iff_exists.1 h
  obtain ⟨st, hread, hclosed⟩ := Option.bind_eq_some_iff.1 hp
  obtain ⟨st', hread', halike⟩ := exists_readFrom_end hstart hread (Nat.lt_succ_self s.length)
  split at hclosed
  · rename_i hdone
    rw [halike.isEmpty_groups, halike.depth_current trivial] at hdone
    rw [readNode, hread', Option.bind_some, if_pos hdone]
    rfl
  · cases hclosed

end Pattern

end KeyTrace
