import KeyTrace.Proofs.Pattern.Alike
import KeyTrace.Proofs.Pattern.Reading
import KeyTrace.Rule.Set

/-!
# What stands at the places of a template

A template is read with texts in its places. Where a place stands between two items, the text in it
is spelled out as items of its own, so that it makes no difference which text it is: reading goes on
behind it alike. Only an empty text does, as it leaves the item before the place next to what stands
behind; and a single character, which nests less deep than two.

Places within brackets, braces, names or escapes do not stand between items, and there the text has
a say in what is well formed.

## Main definitions

* `Template.cut`, `Template.join`: the pieces of a template between its places.
* `Template.Apart`: the places stand between items; `Template.readsApart` decides it for most.
* `Pattern.tooDeep`: a text is well formed but for its depth.

## Main results

* `Template.fill_eq_join`: filling in puts the pieces together.
* `Template.exists_readFrom_join`: where other texts are read, the stand-ins are.
* `Template.isSome_readNode_expand`: what is well formed with some texts is so with the stand-ins.
-/

namespace KeyTrace

variable {deep : Prop} {container key : List Char}

namespace Pattern

/-! ### Texts that are spelled out -/

theorem deepest_characters (flags : Flags) (cs : List Char) :
    deepest (cs.map fun c => ⟨characterNode flags c, 0, true⟩) = 0 := by
  induction cs with
  | nil => rfl
  | cons c cs ih => rw [List.map_cons, deepest_cons, ih, max_self]

/-- Behind two characters at least, the last item is one of several, and no deeper than others. -/
theorem nesting_spell (flags : Flags) {cs : List Char} (h : 2 ≤ cs.length) (items : List Item) :
    nesting ((cs.map fun c => ⟨characterNode flags c, 0, true⟩).reverse ++ items) =
      some (0, false, deepest items) := by
  have hne : cs ≠ [] := List.ne_nil_of_length_pos (by omega)
  obtain ⟨u, c, rfl⟩ := (List.eq_nil_or_concat' cs).resolve_left hne
  have hu : u ≠ [] := by
    rintro rfl
    simp at h
  rw [List.map_append, List.reverse_append, List.append_assoc]
  change some (0, ((u.map _).reverse ++ items).isEmpty, deepest ((u.map _).reverse ++ items)) = _
  rw [deepest_append, deepest_reverse, deepest_characters, Nat.zero_max,
    List.isEmpty_eq_false_iff.2 (by simp [hu])]

/-- With a text spelled out at the end, sequences can be repeated alike. With two characters at
least, they are nested alike too. -/
theorem ItemsAlike.spell {items items' : List Item} (h : ItemsAlike deep items items')
    {cs cs' : List Char} (hcs : cs ≠ []) (hcs' : cs' ≠ [])
    (hdeep : deep → 2 ≤ cs.length ∧ 2 ≤ cs'.length) (flags flags' : Flags) :
    ItemsAlike deep ((cs.map fun c => ⟨characterNode flags c, 0, true⟩).reverse ++ items)
      ((cs'.map fun c => ⟨characterNode flags' c, 0, true⟩).reverse ++ items') := by
  refine ⟨?_, fun hd => ?_⟩
  · obtain ⟨u, c, rfl⟩ := (List.eq_nil_or_concat' cs).resolve_left hcs
    obtain ⟨u', c', rfl⟩ := (List.eq_nil_or_concat' cs').resolve_left hcs'
    rw [List.map_append, List.map_append, List.reverse_append, List.reverse_append]
    rfl
  · rw [nesting_spell flags (hdeep hd).1, nesting_spell flags' (hdeep hd).2, (h.deepest hd).2]

/-- States stay alike when texts are spelled out. -/
theorem ReadState.Alike.spell {st st' : ReadState} (h : st.Alike deep st') {cs cs' : List Char}
    (hcs : cs ≠ []) (hcs' : cs' ≠ []) (hdeep : deep → 2 ≤ cs.length ∧ 2 ≤ cs'.length) :
    (st.spell cs).Alike deep (st'.spell cs') := by
  rw [ReadState.spell_eq, ReadState.spell_eq]
  exact { h with items := h.items.spell hcs hcs' hdeep _ _ }

/-- Whether a text is well formed but for being nested too deep. -/
def tooDeep (s : List Char) : Bool :=
  (readFrom (s.length + 1) (.initial false) s).any fun st =>
    st.groups.isEmpty && depthLimit < st.current.depth

end Pattern

namespace Template

open Pattern

/-! ### Templates cut at their places -/

/-- A place of a template. -/
inductive Place where
  | container
  | key
deriving DecidableEq, Repr

/-- What is filled in at a place. -/
def Place.text (container key : List Char) : Place → List Char
  | .container => container
  | .key => key

/-- A template cut at its places: the text before the first place, and each place with the text
behind it. -/
def cut : List Char → List Char × List (Place × List Char)
  | [] => ([], [])
  | '$' :: 'F' :: 'i' :: 'l' :: 'e' :: rest => ([], (.container, (cut rest).1) :: (cut rest).2)
  | '$' :: 'K' :: 'e' :: 'y' :: rest => ([], (.key, (cut rest).1) :: (cut rest).2)
  | c :: rest => (c :: (cut rest).1, (cut rest).2)

/-- The places of a template. -/
def places (template : String) : List Place := (cut template.toList).2.map Prod.fst

/-- A template put together again, with a container and a key filled in as plain text. -/
def join (container key : List Char) (run : List Char) (places : List (Place × List Char)) :
    List Char :=
  run ++ places.flatMap fun p => escape (p.1.text container key) ++ p.2

theorem join_cons (run : List Char) (place : Place) (next : List Char)
    (places : List (Place × List Char)) : join container key run ((place, next) :: places) =
      run ++ (escape (place.text container key) ++ join container key next places) := by
  rw [join, List.flatMap_cons, join, List.append_assoc]

theorem fill_eq_join (template : List Char) : fill (escape container) (escape key) template =
    join container key (cut template).1 (cut template).2 := by
  fun_induction cut template with
  | case1 => rfl
  | case2 rest ih => rw [fill, ih, join_cons, Place.text, List.nil_append]
  | case3 rest ih => rw [fill, ih, join_cons, Place.text, List.nil_append]
  | case4 c rest hfile hkey ih =>
    rw [fill, ih]
    · rfl
    · exact hfile
    · exact hkey

/-- Places that stand between two items, from a state of reading on: with stand-ins in the places,
the text up to each place is read to its end, where blanks count. After a text that is refused
whatever follows, it does not matter where places stand. -/
inductive ApartFrom : ReadState → List Char → List (Place × List Char) → Prop
  | last (st : ReadState) (run : List Char) : ApartFrom st run []
  | refused {st : ReadState} {run : List Char} (places : List (Place × List Char))
      (h : ∀ n rest, readFrom n st (run ++ rest) = none) : ApartFrom st run places
  | next {st st₁ : ReadState} {run next : List Char} {place : Place}
      {places : List (Place × List Char)} {n : Nat} (h : readFrom n st run = some st₁)
      (hspaced : st₁.flags.spaced = false)
      (hnext : ApartFrom (st₁.spell (place.text "File".toList "Key".toList)) next places) :
      ApartFrom st run ((place, next) :: places)

/-- Templates whose places stand between two items. -/
def Apart (template : String) : Prop :=
  ApartFrom (.initial false) (cut template.toList).1 (cut template.toList).2

/-- Whether the text up to each place is read to its end, with stand-ins in the places. -/
def readsApart : ReadState → List Char → List (Place × List Char) → Bool
  | _, _, [] => true
  | st, run, (place, next) :: places =>
    (readFrom (run.length + 1) st run).any fun st₁ => !st₁.flags.spaced &&
      readsApart (st₁.spell (place.text "File".toList "Key".toList)) next places

theorem apartFrom_of_readsApart {st : ReadState} {run : List Char}
    {places : List (Place × List Char)} (h : readsApart st run places = true) :
    ApartFrom st run places := by
  induction places generalizing st run with
  | nil => exact .last st run
  | cons p places ih =>
    obtain ⟨hsome, hrest⟩ := (Option.any_eq_true_iff_get _ _).1 h
    rw [Bool.and_eq_true, Bool.not_eq_true'] at hrest
    exact .next (Option.some_get hsome).symm hrest.1 (ih hrest.2)

/-- The places of the built-in templates stand between items. -/
example : ∀ d ∈ RuleDecl.builtin, ∀ template ∈ d.pattern,
    readsApart (.initial false) (cut template.toList).1 (cut template.toList).2 = true := by
  decide +kernel

/-! ### Other texts in the places -/

/-- A text up to a place and what is spelled out in the place are read alike, whatever follows. -/
theorem exists_readFrom_place {st st' st₁ : ReadState} {run cs rest : List Char} {n : Nat}
    (hst : st.Alike deep st') (hread : readFrom n st run = some st₁)
    (hspaced : st₁.flags.spaced = false) (hcs : cs ≠ []) : ∃ st₁', st₁.Alike deep st₁' ∧
      ∀ fuel, (run ++ (escape cs ++ rest)).length < fuel → ∃ fuel', rest.length < fuel' ∧
        readFrom fuel st' (run ++ (escape cs ++ rest)) = readFrom fuel' (st₁'.spell cs) rest := by
  have hhead : ∀ c ∈ (escape cs ++ rest).head?, c ≠ '?' ∧ c ≠ '\x7b' := by
    obtain ⟨d, more, heq, hd⟩ := exists_escape_eq_cons hcs
    rw [heq]
    rintro c ⟨⟩
    exact hd
  obtain ⟨st₁', halike, hrun⟩ := exists_readFrom hst hread fun c hc => ⟨hspaced, hhead c hc⟩
  refine ⟨st₁', halike, fun fuel hfuel => ?_⟩
  obtain ⟨fuel', hfuel', heq⟩ := hrun fuel hfuel
  obtain ⟨fuel'', hfuel'', heq'⟩ := reads_escape (halike.spaced.trans hspaced) cs fuel' rest hfuel'
  exact ⟨fuel'', hfuel'', heq.trans heq'⟩

/-- **Where other texts in the places are read, the stand-ins are**, and to a state alike. -/
theorem exists_readFrom_join {st st' st₁' : ReadState} {run : List Char}
    {places : List (Place × List Char)} {fuel : Nat} (hapart : ApartFrom st run places)
    (hst : st.Alike deep st') (hfilled : ∀ p ∈ places, p.1.text container key ≠ [])
    (hdeep : deep → ∀ p ∈ places, 2 ≤ (p.1.text container key).length)
    (hfuel : (join container key run places).length < fuel)
    (hread : readFrom fuel st' (join container key run places) = some st₁') {fuel₀ : Nat}
    (hfuel₀ : (join "File".toList "Key".toList run places).length < fuel₀) :
    ∃ st₁, readFrom fuel₀ st (join "File".toList "Key".toList run places) = some st₁ ∧
      st₁.Alike deep st₁' := by
  induction hapart generalizing st' fuel fuel₀ with
  | last st run =>
    obtain ⟨st₁, hread₁, halike⟩ := exists_readFrom_end hst.symm hread hfuel₀
    exact ⟨st₁, hread₁, halike.symm⟩
  | refused places hrefused =>
    obtain ⟨st₁, hread₁, -⟩ := exists_readFrom_end hst.symm hread hfuel
    rw [join, hrefused] at hread₁
    cases hread₁
  | @next st st₂ run next place places n hrun hspaced _ ih =>
    have hplace := hfilled _ (List.mem_cons_self ..)
    have hstandIn : place.text "File".toList "Key".toList ≠ [] ∧
        2 ≤ (place.text "File".toList "Key".toList).length := by
      cases place <;> decide
    -- the other texts are read from a state alike ..
    obtain ⟨st₂', halike, hother⟩ := exists_readFrom_place hst hrun hspaced hplace
    rw [join_cons] at hread hfuel
    obtain ⟨fuel', hfuel', heq⟩ := hother fuel hfuel
    rw [heq] at hread
    -- .. and so are the stand-ins
    have hsame : st.Alike deep st := .refl st
    obtain ⟨st₂'', halike', hstandIns⟩ := exists_readFrom_place hsame hrun hspaced hstandIn.1
    rw [join_cons] at hfuel₀ ⊢
    obtain ⟨fuel₁, hfuel₁, heq₀⟩ := hstandIns fuel₀ hfuel₀
    rw [heq₀]
    have hspell : (st₂.spell (place.text "File".toList "Key".toList)).Alike deep
        (st₂'.spell (place.text container key)) :=
      halike.spell hstandIn.1 hplace fun hd =>
        ⟨hstandIn.2, hdeep hd _ (List.mem_cons_self ..)⟩
    have hspell' : (st₂.spell (place.text "File".toList "Key".toList)).Alike deep
        (st₂''.spell (place.text "File".toList "Key".toList)) :=
      halike'.spell hstandIn.1 hstandIn.1 fun _ => ⟨hstandIn.2, hstandIn.2⟩
    obtain ⟨st₁, hread₁, hst₁⟩ := ih hspell (fun p hp => hfilled p (List.mem_cons_of_mem _ hp))
      (fun hd p hp => hdeep hd p (List.mem_cons_of_mem _ hp)) hfuel' hread hfuel₁
    obtain ⟨st₁'', hread₁', hst₁'⟩ := exists_readFrom_end hspell' hread₁ hfuel₁
    exact ⟨st₁'', hread₁', hst₁'.symm.trans hst₁⟩

/-- **A template that is well formed once it is filled in is so with the stand-ins too**, if its
places stand apart, no text in them is empty, and texts of a single character do not keep it from
being nested too deep. -/
theorem isSome_readNode_expand {ignoreCase : Bool} {template container key : String}
    (hapart : Apart template)
    (hfilled : ∀ p ∈ places template, p.text container.toList key.toList ≠ [])
    (hdeep : tooDeep (expand template "File" "Key").toList = true →
      ∀ p ∈ places template, 2 ≤ (p.text container.toList key.toList).length)
    (h : (readNode ignoreCase (expand template container key).toList).isSome) :
    (readNode false (expand template "File" "Key").toList).isSome := by
  have hexpand : ∀ container key : String, (expand template container key).toList =
      join container.toList key.toList (cut template.toList).1 (cut template.toList).2 := by
    intro container key
    rw [expand, String.toList_ofList, fill_eq_join]
  obtain ⟨p, hp⟩ := Option.isSome_iff_exists.1 h
  obtain ⟨st', hread', hclosed⟩ := Option.bind_eq_some_iff.1 hp
  have hplaces : ∀ p ∈ (cut template.toList).2, p.1 ∈ places template := fun p hp =>
    List.mem_map_of_mem hp
  rw [hexpand] at hread'
  have hstart : (ReadState.initial false).Alike (tooDeep (expand template "File" "Key").toList = true)
      (.initial ignoreCase) := .initial _ _
  obtain ⟨st, hread, halike⟩ := exists_readFrom_join hapart hstart
    (fun p hp => hfilled p.1 (hplaces p hp)) (fun hd p hp => hdeep hd p.1 (hplaces p hp))
    (Nat.lt_succ_self _) hread' (Nat.lt_succ_self _)
  rw [← hexpand] at hread
  split at hclosed
  · rename_i hdone
    rw [← halike.isEmpty_groups, Bool.and_eq_true, decide_eq_true_eq] at hdone
    obtain ⟨hgroups, hdepth⟩ := hdone
    have hdepth' : st.current.depth ≤ depthLimit := by
      by_contra hlimit
      have hd : tooDeep (expand template "File" "Key").toList = true := by
        rw [tooDeep, hread, Option.any_some, hgroups, Bool.true_and, decide_eq_true_eq]
        omega
      rw [halike.depth_current hd] at hlimit
      exact hlimit hdepth
    rw [readNode, hread, Option.bind_some, hgroups, Bool.true_and, if_pos (decide_eq_true hdepth')]
    rfl
  · cases hclosed

end Template

end KeyTrace
