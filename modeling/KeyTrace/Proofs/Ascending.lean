import KeyTrace.Source
import Mathlib

/-!
# Ascending lists are ascending

For a comparison that is transitive, putting elements in one by one yields a strictly ascending
list that has one element for each class of equal ones. The comparisons of texts, paths and source
files are transitive, being put together from those of numbers, bytes and characters.

## Main results

* `Ascending.pairwise_ofList`: the list is strictly ascending.
* `Ascending.mem_of_mem_ofList`, `Ascending.exists_mem_ofList`: it has the given elements, each
  class of equal ones once.
* `Ascending.forall₂_of_pairwise`: strictly ascending lists with the same classes.
* `Ascending.mem_ofList`, `Ascending.ofList_congr`: where only the same elements are equal, the list
  has just the given ones and depends on the set of them only.
* `lookup_insert`: putting in a value by its name changes what is found for this name only.
* `SourceFile.transCmp_compare`: the comparison of source files is transitive.
* `SourceFile.pairwise_distinct`, `SourceFile.mem_of_mem_distinct`,
  `SourceFile.exists_mem_distinct`: the files to search.
-/

namespace KeyTrace

open Std (TransCmp OrientedCmp)

namespace Ascending

variable {α : Type} {cmp : α → α → Ordering} {a x : α} {s : List α}

theorem mem_of_mem_insert (h : x ∈ insert cmp a s) : x = a ∨ x ∈ s := by
  induction s with
  | nil => exact Or.inl (List.mem_singleton.1 h)
  | cons b rest ih =>
    rw [insert] at h
    split at h
    · exact List.mem_cons.1 h
    · exact (List.mem_cons.1 h).imp_right (List.mem_cons_of_mem b)
    · rcases List.mem_cons.1 h with rfl | h
      · exact Or.inr (List.mem_cons_self ..)
      · exact (ih h).imp_right (List.mem_cons_of_mem b)

theorem mem_insert_self (cmp : α → α → Ordering) (a : α) (s : List α) : a ∈ insert cmp a s := by
  induction s with
  | nil => exact List.mem_singleton_self a
  | cons b rest ih =>
    rw [insert]
    split
    · exact List.mem_cons_self ..
    · exact List.mem_cons_self ..
    · exact List.mem_cons_of_mem b ih

theorem mem_of_mem_ofList (h : x ∈ ofList cmp s) : x ∈ s := by
  induction s with
  | nil => exact h
  | cons a rest ih =>
    rcases mem_of_mem_insert h with rfl | h
    · exact List.mem_cons_self ..
    · exact List.mem_cons_of_mem a (ih h)

variable [TransCmp cmp]

variable (cmp)

/-- An element that gives way to a new one is equal to it. -/
theorem exists_mem_insert (a : α) (h : x ∈ s) : ∃ y ∈ insert cmp a s, cmp x y = .eq := by
  induction s with
  | nil => cases h
  | cons b rest ih =>
    rw [insert]
    split
    · exact ⟨x, List.mem_cons_of_mem a h, Std.ReflCmp.compare_self⟩
    · rename_i hab
      rcases List.mem_cons.1 h with rfl | h
      · exact ⟨a, List.mem_cons_self .., OrientedCmp.eq_symm hab⟩
      · exact ⟨x, List.mem_cons_of_mem a h, Std.ReflCmp.compare_self⟩
    · rcases List.mem_cons.1 h with rfl | h
      · exact ⟨x, List.mem_cons_self .., Std.ReflCmp.compare_self⟩
      · obtain ⟨y, hy, hxy⟩ := ih h
        exact ⟨y, List.mem_cons_of_mem b hy, hxy⟩

theorem exists_mem_ofList (h : x ∈ s) : ∃ y ∈ ofList cmp s, cmp x y = .eq := by
  induction s with
  | nil => cases h
  | cons a rest ih =>
    rcases List.mem_cons.1 h with rfl | h
    · exact ⟨x, mem_insert_self cmp x _, Std.ReflCmp.compare_self⟩
    · obtain ⟨y, hy, hxy⟩ := ih h
      obtain ⟨z, hz, hyz⟩ := exists_mem_insert cmp a hy
      exact ⟨z, hz, TransCmp.eq_trans hxy hyz⟩

variable {cmp}

theorem pairwise_insert (h : s.Pairwise fun x y => cmp x y = .lt) :
    (insert cmp a s).Pairwise fun x y => cmp x y = .lt := by
  induction s with
  | nil => exact List.pairwise_singleton _ a
  | cons b rest ih =>
    obtain ⟨hb, hrest⟩ := List.pairwise_cons.1 h
    rw [insert]
    split
    · rename_i hab
      refine List.pairwise_cons.2 ⟨fun y hy => ?_, h⟩
      rcases List.mem_cons.1 hy with rfl | hy
      · exact hab
      · exact TransCmp.lt_trans hab (hb y hy)
    · rename_i hab
      exact List.pairwise_cons.2 ⟨fun y hy => TransCmp.lt_of_eq_of_lt hab (hb y hy), hrest⟩
    · rename_i hab
      refine List.pairwise_cons.2 ⟨fun y hy => ?_, ih hrest⟩
      rcases mem_of_mem_insert hy with rfl | hy
      · exact OrientedCmp.lt_of_gt hab
      · exact hb y hy

/-- **The list is strictly ascending.** -/
theorem pairwise_ofList (s : List α) : (ofList cmp s).Pairwise fun x y => cmp x y = .lt := by
  induction s with
  | nil => exact .nil
  | cons a rest ih => exact pairwise_insert ih

theorem nodup_ofList (s : List α) : (ofList cmp s).Nodup := by
  refine (pairwise_ofList s).imp fun {a b} hlt heq => ?_
  subst heq
  have hself : cmp a a = .eq := Std.ReflCmp.compare_self
  simp [hself] at hlt

/-- **Strictly ascending lists with the same classes** of equal elements have them in the same
order. -/
theorem forall₂_of_pairwise {t : List α} (hs : s.Pairwise fun x y => cmp x y = .lt)
    (ht : t.Pairwise fun x y => cmp x y = .lt) (hst : ∀ x ∈ s, ∃ y ∈ t, cmp x y = .eq)
    (hts : ∀ y ∈ t, ∃ x ∈ s, cmp x y = .eq) : List.Forall₂ (fun x y => cmp x y = .eq) s t := by
  have hirrefl : ∀ {x y}, cmp x y = .lt → cmp x y = .eq → False := by
    intro x y hlt heq
    rw [hlt] at heq
    cases heq
  induction s generalizing t with
  | nil =>
    cases t with
    | nil => exact .nil
    | cons b t =>
      obtain ⟨x, hx, -⟩ := hts b (List.mem_cons_self ..)
      cases hx
  | cons a s ih =>
    cases t with
    | nil =>
      obtain ⟨y, hy, -⟩ := hst a (List.mem_cons_self ..)
      cases hy
    | cons b t =>
      obtain ⟨has, hs⟩ := List.pairwise_cons.1 hs
      obtain ⟨hbt, ht⟩ := List.pairwise_cons.1 ht
      -- The first elements are equal: each is below all others that the other one could equal.
      have hab : cmp a b = .eq := by
        obtain ⟨y, hy, hay⟩ := hst a (List.mem_cons_self ..)
        obtain ⟨x, hx, hxb⟩ := hts b (List.mem_cons_self ..)
        rcases List.mem_cons.1 hy with rfl | hy
        · exact hay
        · rcases List.mem_cons.1 hx with rfl | hx
          · exact hxb
          · have hba : cmp b a = .lt :=
              TransCmp.lt_of_lt_of_eq (hbt y hy) (OrientedCmp.eq_symm hay)
            have haa : cmp a a = .lt :=
              TransCmp.lt_trans (TransCmp.lt_of_lt_of_eq (has x hx) hxb) hba
            exact (hirrefl haa Std.ReflCmp.compare_self).elim
      refine .cons hab (ih hs ht (fun x hx => ?_) fun y hy => ?_)
      · obtain ⟨y, hy, hxy⟩ := hst x (List.mem_cons_of_mem a hx)
        rcases List.mem_cons.1 hy with rfl | hy
        · exact (hirrefl (has x hx) (TransCmp.eq_trans hab (OrientedCmp.eq_symm hxy))).elim
        · exact ⟨y, hy, hxy⟩
      · obtain ⟨x, hx, hxy⟩ := hts y (List.mem_cons_of_mem b hy)
        rcases List.mem_cons.1 hx with rfl | hx
        · exact (hirrefl (hbt y hy) (TransCmp.eq_trans (OrientedCmp.eq_symm hab) hxy)).elim
        · exact ⟨x, hx, hxy⟩

section LawfulEqCmp

variable [Std.LawfulEqCmp cmp]

/-- Where only the same elements are equal, none is lost. -/
theorem mem_ofList : x ∈ ofList cmp s ↔ x ∈ s := by
  constructor
  · exact mem_of_mem_ofList
  · intro h
    obtain ⟨y, hy, hxy⟩ := exists_mem_ofList cmp h
    obtain rfl := Std.LawfulEqCmp.eq_of_compare hxy
    exact hy

/-- **The list depends on the set of its elements only.** -/
theorem ofList_congr {t : List α} (h : ∀ x, x ∈ s ↔ x ∈ t) : ofList cmp s = ofList cmp t := by
  have hclasses : List.Forall₂ (fun x y => cmp x y = .eq) (ofList cmp s) (ofList cmp t) := by
    refine forall₂_of_pairwise (pairwise_ofList s) (pairwise_ofList t)
      (fun x hx => ?_) fun y hy => ?_
    · exact ⟨x, mem_ofList.2 ((h x).1 (mem_ofList.1 hx)), Std.ReflCmp.compare_self⟩
    · exact ⟨y, mem_ofList.2 ((h y).2 (mem_ofList.1 hy)), Std.ReflCmp.compare_self⟩
  exact List.forall₂_eq_eq_eq ▸ hclasses.imp fun _ _ => Std.LawfulEqCmp.eq_of_compare

end LawfulEqCmp

end Ascending

/-! ### Comparisons -/

instance transCmp_compareText : TransCmp compareText :=
  inferInstanceAs (Std.TransOrd String)

instance lawfulEqCmp_compareText : Std.LawfulEqCmp compareText :=
  inferInstanceAs (Std.LawfulEqOrd String)

theorem eq_of_compareText {a b : String} (h : compareText a b = .eq) : a = b :=
  Std.LawfulEqCmp.eq_of_compare h

/-- Among texts, equal ones are the same. -/
theorem Ascending.mem_texts {s : List String} {x : String} : x ∈ texts s ↔ x ∈ s := mem_ofList

theorem compareList_eq {α : Type} (cmp : α → α → Ordering) :
    compareList cmp = List.compareLex cmp := by
  funext s t
  induction s generalizing t with
  | nil => cases t <;> rfl
  | cons a s ih =>
    cases t with
    | nil => rfl
    | cons b t =>
      rw [compareList, List.compareLex_cons_cons, ih]

instance transCmp_compareList {α : Type} (cmp : α → α → Ordering) [TransCmp cmp] :
    TransCmp (compareList cmp) := by
  rw [compareList_eq]
  infer_instance

instance lawfulEqCmp_compareList {α : Type} (cmp : α → α → Ordering) [Std.LawfulEqCmp cmp] :
    Std.LawfulEqCmp (compareList cmp) := by
  rw [compareList_eq]
  infer_instance

instance transCmp_compareBytes : TransCmp compareBytes :=
  inferInstanceAs (TransCmp (compareList Ord.compare))

instance lawfulEqCmp_compareBytes : Std.LawfulEqCmp compareBytes :=
  inferInstanceAs (Std.LawfulEqCmp (compareList Ord.compare))

/-- Comparing what a function makes of the elements. -/
theorem transCmp_comap {α β : Type} (f : α → β) (cmp : β → β → Ordering) [TransCmp cmp] :
    TransCmp fun a b => cmp (f a) (f b) where
  eq_swap {a b} := @OrientedCmp.eq_swap _ cmp _ (f a) (f b)
  isLE_trans {a b c} := @TransCmp.isLE_trans _ cmp _ (f a) (f b) (f c)

/-! ### Values by name -/

section Names

variable {β : Type}

/-- The order of named values by their names. -/
def compareName (p q : String × β) : Ordering := compareText p.1 q.1

instance transCmp_compareName : TransCmp (@compareName β) :=
  transCmp_comap Prod.fst compareText

theorem name_ne_of_lt {p q : String × β} (h : compareName p q = .lt) : p.1 ≠ q.1 := by
  intro heq
  have hself : compareText q.1 q.1 = .eq := Std.ReflCmp.compare_self
  rw [compareName, heq, hself] at h
  cases h

theorem lookup_cons_eq_ite (p : String × β) (s : List (String × β)) (name : String) :
    (p :: s).lookup name = if name = p.1 then some p.2 else s.lookup name := by
  obtain ⟨n, v⟩ := p
  by_cases h : name = n
  · simp [h]
  · simp [List.lookup_cons, h, beq_eq_false_iff_ne.2 h]

/-- **Putting in a value changes what is found for its name**, and for no other. -/
theorem lookup_insert (p : String × β) (s : List (String × β)) (name : String) :
    (Ascending.insert compareName p s).lookup name =
      if name = p.1 then some p.2 else s.lookup name := by
  induction s with
  | nil => exact lookup_cons_eq_ite p [] name
  | cons q rest ih =>
    rw [Ascending.insert]
    split
    · exact lookup_cons_eq_ite p _ name
    · rename_i heq
      have hname : p.1 = q.1 := eq_of_compareText heq
      rw [lookup_cons_eq_ite, lookup_cons_eq_ite, ← hname]
      split <;> rfl
    · rename_i hgt
      have hne : p.1 ≠ q.1 := Ne.symm (name_ne_of_lt (OrientedCmp.lt_of_gt hgt))
      rw [lookup_cons_eq_ite, lookup_cons_eq_ite, ih]
      by_cases h : name = p.1
      · rw [if_pos h, if_pos h, if_neg (h ▸ hne)]
      · rw [if_neg h, if_neg h]

/-- Of values with ascending names, each is found by its name. -/
theorem mem_iff_lookup {s : List (String × β)} (h : s.Pairwise fun p q => compareName p q = .lt)
    {p : String × β} : p ∈ s ↔ s.lookup p.1 = some p.2 := by
  constructor
  · intro hp
    induction s with
    | nil => cases hp
    | cons q rest ih =>
      obtain ⟨hq, hrest⟩ := List.pairwise_cons.1 h
      rw [lookup_cons_eq_ite]
      rcases List.mem_cons.1 hp with rfl | hp
      · exact if_pos rfl
      · rw [if_neg (Ne.symm (name_ne_of_lt (hq p hp)))]
        exact ih hrest hp
  · intro hlookup
    obtain ⟨l₁, l₂, hs, -⟩ := List.lookup_eq_some_iff.1 hlookup
    simp [hs]

end Names

namespace Path

/-- The bytes of a part that is a name. -/
def Part.bytes : Part → Bytes
  | name n => n
  | _ => []

theorem Part.compare_eq (a b : Part) :
    Part.compare a b = (Ord.compare a.rank b.rank).then (compareBytes a.bytes b.bytes) := by
  cases a <;> cases b <;> rfl

/-- The comparison of parts goes by the kind first and by the name then. -/
instance Part.transCmp_compare : TransCmp Part.compare := by
  have heq : Part.compare = compareLex (fun a b => Ord.compare a.rank b.rank)
      (fun a b => compareBytes a.bytes b.bytes) := by
    funext a b
    exact Part.compare_eq a b
  have : TransCmp fun a b : Part => Ord.compare a.rank b.rank := transCmp_comap Part.rank _
  have : TransCmp fun a b : Part => compareBytes a.bytes b.bytes := transCmp_comap Part.bytes _
  rw [heq]
  infer_instance

instance transCmp_compare : TransCmp Path.compare := by
  exact transCmp_comap Path.parts (compareList Part.compare)

end Path

namespace SourceFile

instance transCmp_compare : TransCmp SourceFile.compare := by
  have : TransCmp fun a b : SourceFile => Path.compare a.path b.path := transCmp_comap path _
  have : TransCmp fun a b : SourceFile => compareText a.extension b.extension :=
    transCmp_comap extension _
  exact inferInstanceAs (TransCmp (compareLex (fun a b : SourceFile => Path.compare a.path b.path)
    fun a b => compareText a.extension b.extension))

/-- The files to search are in strictly ascending order. -/
theorem pairwise_distinct (settings : ScanSettings) (files : List SourceFile) :
    (distinct settings files).Pairwise fun a b => compare a b = .lt :=
  Ascending.pairwise_ofList _

theorem mem_of_mem_distinct {settings : ScanSettings} {files : List SourceFile} {f : SourceFile}
    (h : f ∈ distinct settings files) : f ∈ files ∧ f.isScannable settings = true :=
  List.mem_filter.1 (Ascending.mem_of_mem_ofList h)

/-- Each file that is to be searched is there, or one with an equal path. -/
theorem exists_mem_distinct {settings : ScanSettings} {files : List SourceFile} {f : SourceFile}
    (h : f ∈ files) (hs : f.isScannable settings = true) :
    ∃ f' ∈ distinct settings files, compare f f' = .eq :=
  Ascending.exists_mem_ofList _ (List.mem_filter.2 ⟨h, hs⟩)

theorem nodup_distinct (settings : ScanSettings) (files : List SourceFile) :
    (distinct settings files).Nodup :=
  Ascending.nodup_ofList _

end SourceFile

end KeyTrace
