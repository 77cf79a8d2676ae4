import KeyTrace.Proofs.Rule.Places

/-!
# Expansion in a single pass

A template is cut at its places before anything is filled in: the cut depends on the template alone,
and the pieces stay as they are, whatever stands between them. So a container or a key that spells a
place is plain text like any other, and so is one that makes up a place together with the text
around it.

Templates in a row are expanded one by one unless a place stands across the seam between them. A
place begins with a dollar and has no other, so that what breaks off there is plain text on either
side, and is not made up for by any container or key: their dollars are escaped.

## Main definitions

* `Template.Place.mark`, `Template.Place.StandsAt`: how a place is written, and where it stands.
* `Template.LeftmostCut`: a template cut at the leftmost places that do not overlap.
* `Template.Straddles`: a place stands across the seam of two templates.

## Main results

* `Template.leftmostCut_iff`: there is one such cut, the one that expansion goes by.
* `Template.expand_append_iff`: when two templates in a row are expanded one by one.
* `Template.expand_in_one_pass`: what every template is expanded to.
-/

namespace KeyTrace

namespace Template

open Pattern

variable {container key s t run rest : List Char} {place : Place}
  {places : List (Place × List Char)}

/-! ### How places are written -/

/-- How a place is written. -/
def Place.mark : Place → List Char
  | .container => ['$', 'F', 'i', 'l', 'e']
  | .key => ['$', 'K', 'e', 'y']

/-- A place is written at a position of a text. -/
def Place.StandsAt (place : Place) (text : List Char) (i : Nat) : Prop :=
  place.mark <+: text.drop i

theorem Place.mark_ne_nil (place : Place) : place.mark ≠ [] := by cases place <;> nofun

/-- A place begins with a dollar and has no other. -/
theorem Place.exists_mark_eq (place : Place) : ∃ name, place.mark = '$' :: name ∧ '$' ∉ name := by
  cases place
  · exact ⟨_, rfl, by decide⟩
  · exact ⟨_, rfl, by decide⟩

theorem Place.eq_of_mark_prefix {place other : Place} (h : place.mark <+: other.mark) :
    place = other := by
  revert h
  cases place <;> cases other <;> decide

/-- Where a place is taken apart, the dollar is on the left. -/
theorem Place.exists_of_mark_eq_append (h : place.mark = s ++ t) (hs : s ≠ []) :
    ∃ name, s = '$' :: name ∧ '$' ∉ name ∧ '$' ∉ t := by
  obtain ⟨name, hmark, hname⟩ := place.exists_mark_eq
  obtain ⟨c, front, rfl⟩ := List.exists_cons_of_ne_nil hs
  rw [hmark, List.cons_append, List.cons.injEq] at h
  obtain ⟨rfl, rfl⟩ := h
  rw [List.mem_append, not_or] at hname
  exact ⟨front, rfl, hname⟩

/-- No text is a place once it is escaped: a dollar has a backslash before it. -/
theorem escape_ne_mark (text : List Char) (place : Place) : escape text ≠ place.mark := by
  obtain ⟨name, hmark, -⟩ := place.exists_mark_eq
  rw [hmark]
  intro h
  cases text with
  | nil => cases h
  | cons c cs =>
    rw [escape, List.flatMap_cons, escapeChar] at h
    split at h
    · cases h
    · rename_i hmeta
      obtain ⟨rfl, -⟩ := List.cons.inj h
      exact hmeta (by decide)

/-! ### Reading a template from left to right -/

/-- Templates are empty, or begin with a place, or with a character at which no place stands. -/
theorem places_induction {motive : List Char → Prop} (nil : motive [])
    (place : ∀ (place : Place) (rest : List Char), motive rest → motive (place.mark ++ rest))
    (char : ∀ (c : Char) (rest : List Char), (∀ place : Place, ¬ place.mark <+: c :: rest) →
      motive rest → motive (c :: rest)) (template : List Char) : motive template := by
  fun_induction cut template with
  | case1 => exact nil
  | case2 rest ih => exact place .container rest ih
  | case3 rest ih => exact place .key rest ih
  | case4 c rest hfile hkey ih =>
    refine char c rest ?_ ih
    rintro (_ | _) ⟨tail, htail⟩
    · obtain ⟨rfl, rfl⟩ := List.cons.inj htail
      exact hfile tail rfl rfl
    · obtain ⟨rfl, rfl⟩ := List.cons.inj htail
      exact hkey tail rfl rfl

theorem cut_mark (place : Place) (rest : List Char) :
    cut (place.mark ++ rest) = ([], (place, (cut rest).1) :: (cut rest).2) := by
  cases place <;> rfl

theorem cut_cons {c : Char} (h : ∀ place : Place, ¬ place.mark <+: c :: rest) :
    cut (c :: rest) = (c :: (cut rest).1, (cut rest).2) := by
  rw [cut]
  · rintro tail rfl rfl
    exact h .container ⟨tail, rfl⟩
  · rintro tail rfl rfl
    exact h .key ⟨tail, rfl⟩

theorem fill_mark (place : Place) (rest : List Char) : fill container key (place.mark ++ rest) =
    place.text container key ++ fill container key rest := by
  cases place <;> rfl

theorem fill_cons {c : Char} (h : ∀ place : Place, ¬ place.mark <+: c :: rest) :
    fill container key (c :: rest) = c :: fill container key rest := by
  rw [fill]
  · rintro tail rfl rfl
    exact h .container ⟨tail, rfl⟩
  · rintro tail rfl rfl
    exact h .key ⟨tail, rfl⟩

/-! ### The cut at the leftmost places -/

/-- A template cut at the leftmost places that do not overlap, into the text before the first of
them, and each place with the text behind it. -/
inductive LeftmostCut : List Char → List Char → List (Place × List Char) → Prop
  | last {run : List Char} (h : ∀ (place : Place) (i : Nat), ¬ place.StandsAt run i) :
      LeftmostCut run run []
  | next {run rest next : List Char} {place : Place} {places : List (Place × List Char)}
      (h : IsLeast {i | ∃ other : Place, other.StandsAt (run ++ (place.mark ++ rest)) i} run.length)
      (hrest : LeftmostCut rest next places) :
      LeftmostCut (run ++ (place.mark ++ rest)) run ((place, next) :: places)

theorem not_standsAt_nil (place : Place) (i : Nat) : ¬ place.StandsAt [] i := by
  rw [Place.StandsAt, List.drop_nil, List.prefix_nil]
  exact place.mark_ne_nil

/-- With a character before it at which no place stands, a template is cut at the same places. -/
theorem LeftmostCut.cons {c : Char} (h : LeftmostCut rest run places)
    (hc : ∀ place : Place, ¬ place.mark <+: c :: rest) :
    LeftmostCut (c :: rest) (c :: run) places := by
  cases h with
  | last hnone =>
    refine .last fun place i => ?_
    cases i with
    | zero => exact hc place
    | succ i => exact hnone place i
  | @next run rest next place places hleast hrest =>
    change LeftmostCut (c :: run ++ (place.mark ++ rest)) _ _
    refine .next ⟨?_, ?_⟩ hrest
    · obtain ⟨other, hother⟩ := hleast.1
      exact ⟨other, hother⟩
    · rintro i ⟨other, hother⟩
      cases i with
      | zero => exact absurd hother (hc other)
      | succ i => exact Nat.succ_le_succ (hleast.2 ⟨other, hother⟩)

theorem leftmostCut_cut (template : List Char) :
    LeftmostCut template (cut template).1 (cut template).2 := by
  induction template using places_induction with
  | nil => exact .last not_standsAt_nil
  | place place rest ih =>
    rw [cut_mark]
    change LeftmostCut ([] ++ (place.mark ++ rest)) _ _
    exact .next ⟨⟨place, rest, rfl⟩, fun i _ => Nat.zero_le i⟩ ih
  | char c rest hc ih =>
    rw [cut_cons hc]
    exact ih.cons hc

/-- Up to where the first place may stand, a template is cut nowhere. -/
theorem cut_append (h : ∀ i < run.length, ∀ place : Place, ¬ place.StandsAt (run ++ rest) i) :
    cut (run ++ rest) = (run ++ (cut rest).1, (cut rest).2) := by
  induction run with
  | nil => rfl
  | cons c run ih =>
    have hc : ∀ place : Place, ¬ place.mark <+: c :: (run ++ rest) := h 0 (Nat.zero_lt_succ _)
    rw [List.cons_append, cut_cons hc, ih fun i hi => h (i + 1) (Nat.succ_lt_succ hi),
      List.cons_append]

theorem LeftmostCut.cut_eq {template : List Char} (h : LeftmostCut template run places) :
    cut template = (run, places) := by
  induction h with
  | @last run hnone =>
    have hcut : cut (run ++ []) = (run ++ (cut []).1, (cut []).2) := by
      refine cut_append fun i _ place => ?_
      rw [List.append_nil]
      exact hnone place i
    rwa [List.append_nil, cut, List.append_nil] at hcut
  | next hleast _ ih =>
    rw [cut_append fun i hi place hplace => Nat.not_lt.2 (hleast.2 ⟨place, hplace⟩) hi, cut_mark,
      ih, List.append_nil]

/-- **A template is cut in one way**, whatever is filled in. -/
theorem leftmostCut_iff {template : List Char} :
    LeftmostCut template run places ↔ cut template = (run, places) := by
  refine ⟨LeftmostCut.cut_eq, fun h => ?_⟩
  have hcut := leftmostCut_cut template
  rwa [h] at hcut

/-! ### Two templates in a row -/

/-- A place stands across the seam of two templates. -/
def Straddles (s t : List Char) : Prop :=
  ∃ (place : Place) (i : Nat), place.StandsAt (s ++ t) i ∧ i < s.length ∧
    s.length < i + place.mark.length

theorem Straddles.append_left (h : Straddles s t) (front : List Char) :
    Straddles (front ++ s) t := by
  obtain ⟨place, i, hstands, hi, hseam⟩ := h
  refine ⟨place, front.length + i, ?_, ?_, ?_⟩
  · rwa [Place.StandsAt, List.append_assoc, List.drop_length_add_append]
  · rw [List.length_append]
    omega
  · rw [List.length_append]
    omega

/-- What stands across a seam has a part on either side of it. -/
theorem Straddles.exists_parts (h : Straddles s t) :
    ∃ (place : Place) (before front back after : List Char), place.mark = front ++ back ∧
      front ≠ [] ∧ back ≠ [] ∧ s = before ++ front ∧ t = back ++ after := by
  obtain ⟨place, i, hstands, hi, hseam⟩ := h
  rw [Place.StandsAt, List.drop_append_of_le_length hi.le] at hstands
  have hlength : (s.drop i).length < place.mark.length := by
    rw [List.length_drop]
    omega
  obtain ⟨back, hback⟩ :=
    List.prefix_of_prefix_length_le (List.prefix_append (s.drop i) t) hstands hlength.le
  rw [← hback, List.prefix_append_right_inj] at hstands
  obtain ⟨after, hafter⟩ := hstands
  refine ⟨place, s.take i, s.drop i, back, after, hback.symm, ?_, ?_, (s.take_append_drop i).symm,
    hafter.symm⟩
  · rw [← List.length_pos_iff, List.length_drop]
    omega
  · rintro rfl
    rw [← hback, List.append_nil] at hlength
    exact Nat.lt_irrefl _ hlength

/-- No place stands across a seam before a dollar. -/
theorem not_straddles_dollar (s t : List Char) : ¬ Straddles s ('$' :: t) := by
  intro hstraddles
  obtain ⟨place, before, front, back, after, hmark, hfront, hback, -, ht⟩ :=
    hstraddles.exists_parts
  obtain ⟨-, -, -, hdollar⟩ := Place.exists_of_mark_eq_append hmark hfront
  obtain ⟨c, back, rfl⟩ := List.exists_cons_of_ne_nil hback
  obtain ⟨rfl, -⟩ := List.cons.inj ht
  exact hdollar (List.mem_cons_self ..)

/-- **Where no place straddles the seam, two templates are filled in one by one.** -/
theorem fill_append (h : ¬ Straddles s t) :
    fill container key (s ++ t) = fill container key s ++ fill container key t := by
  induction s using places_induction with
  | nil => rfl
  | place place rest ih =>
    have hrest : ¬ Straddles rest t := fun hr => h (hr.append_left place.mark)
    rw [List.append_assoc, fill_mark, fill_mark, ih hrest, List.append_assoc]
  | char c rest hc ih =>
    have hrest : ¬ Straddles rest t := fun hr => h (hr.append_left [c])
    -- A place that needs the second template to stand here would straddle the seam.
    have hc' : ∀ place : Place, ¬ place.mark <+: c :: (rest ++ t) := by
      intro place hplace
      refine h ⟨place, 0, hplace, Nat.zero_lt_succ _, ?_⟩
      by_contra hshort
      exact hc place (List.prefix_of_prefix_length_le hplace (List.prefix_append (c :: rest) t)
        (by omega))
    rw [List.cons_append, fill_cons hc', fill_cons hc, ih hrest, List.cons_append]

/-- A place that breaks off is no place. -/
theorem fill_of_broken (hmark : place.mark = s ++ t) (ht : t ≠ []) :
    fill container key s = s := by
  rcases eq_or_ne s [] with rfl | hs
  · rfl
  obtain ⟨name, rfl, hname, -⟩ := Place.exists_of_mark_eq_append hmark hs
  have hrest := fill_plain container key hname []
  rw [List.append_nil, fill_nil, List.append_nil] at hrest
  rw [fill_cons, hrest]
  intro other hother
  obtain rfl : other = place :=
    Place.eq_of_mark_prefix (hother.trans (hmark ▸ List.prefix_append _ _))
  have hlength := hother.length_le
  rw [hmark, List.length_append] at hlength
  exact ht (List.eq_nil_of_length_eq_zero (by omega))

/-- A place across a seam is filled in where the templates are in a row .. -/
theorem fill_across (hmark : place.mark = s ++ t) (hs : s ≠ []) (before after : List Char) :
    fill container key (before ++ s ++ (t ++ after)) =
      fill container key before ++ (place.text container key ++ fill container key after) := by
  obtain ⟨name, rfl, -⟩ := Place.exists_of_mark_eq_append hmark hs
  have hseam : ¬ Straddles before (place.mark ++ after) := by
    rw [hmark]
    exact not_straddles_dollar before _
  rw [List.append_assoc, ← List.append_assoc _ t, ← hmark, fill_append hseam, fill_mark]

/-- .. and stays as it is written where they are apart. -/
theorem fill_apart (hmark : place.mark = s ++ t) (hs : s ≠ []) (ht : t ≠ [])
    (before after : List Char) :
    fill container key (before ++ s) ++ fill container key (t ++ after) =
      fill container key before ++ (place.mark ++ fill container key after) := by
  obtain ⟨name, hname, -, hplain⟩ := Place.exists_of_mark_eq_append hmark hs
  have hseam : ¬ Straddles before s := by
    rw [hname]
    exact not_straddles_dollar before name
  rw [fill_append hseam, fill_of_broken hmark ht, fill_plain _ _ hplain, hmark, List.append_assoc,
    List.append_assoc]

/-- **Where a place straddles the seam, two templates are not filled in one by one**: no text is
that place once it is escaped. -/
theorem not_straddles_of_fill_append (h : fill (escape container) (escape key) (s ++ t) =
    fill (escape container) (escape key) s ++ fill (escape container) (escape key) t) :
    ¬ Straddles s t := by
  intro hstraddles
  obtain ⟨place, before, front, back, after, hmark, hfront, hback, rfl, rfl⟩ :=
    hstraddles.exists_parts
  rw [fill_across hmark hfront, fill_apart hmark hfront hback, List.append_right_inj,
    List.append_left_inj] at h
  cases place with
  | container => exact escape_ne_mark container .container h
  | key => exact escape_ne_mark key .key h

/-! ### Expansion -/

theorem toList_expand_eq_fill (template container key : String) :
    (expand template container key).toList =
      fill (escape container.toList) (escape key.toList) template.toList :=
  String.toList_ofList

/-- **Expansion of templates in a row** goes one by one just where no place straddles the seam. -/
theorem expand_append_iff (template more container key : String) :
    expand (template ++ more) container key =
      expand template container key ++ expand more container key ↔
        ¬ Straddles template.toList more.toList := by
  rw [← String.toList_inj, String.toList_append, toList_expand_eq_fill, toList_expand_eq_fill,
    toList_expand_eq_fill, String.toList_append]
  exact ⟨not_straddles_of_fill_append, fill_append⟩

/-- **Expansion is a single pass.** A template is cut in one way at the leftmost places that do not
overlap. Whatever container and key are filled in, the pieces stay as they are and in order, with an
escaped text at each place that is looked at no further. Two templates in a row are expanded one by
one just if no place straddles the seam. -/
theorem expand_in_one_pass (template : String) :
    ∃ (run : List Char) (places : List (Place × List Char)),
      (∀ run' places', LeftmostCut template.toList run' places' ↔ run' = run ∧ places' = places) ∧
      (∀ container key : String, (expand template container key).toList =
        run ++ places.flatMap fun p => escape (p.1.text container.toList key.toList) ++ p.2) ∧
      ∀ more container key : String, expand (template ++ more) container key =
          expand template container key ++ expand more container key ↔
        ¬ Straddles template.toList more.toList := by
  refine ⟨(cut template.toList).1, (cut template.toList).2, fun run' places' => ?_,
    fun container key => ?_, expand_append_iff template⟩
  · rw [leftmostCut_iff, Prod.ext_iff, eq_comm (a := run'), eq_comm (a := places')]
  · rw [toList_expand_eq_fill, fill_eq_join, join]

/-- A container that spells a place, and one that makes up a place with the text before it. -/
example : expand "$File:$Key" "$Key" "x" = "\\$Key:x" ∧ expand "$Ke$File" "y" "x" = "$Key" := by
  decide +kernel

end Template

end KeyTrace
