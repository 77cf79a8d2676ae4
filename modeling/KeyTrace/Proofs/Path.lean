import KeyTrace.FileTree
import KeyTrace.Proofs.Ascending
import KeyTrace.Proofs.Text.Token

/-!
# Paths with the same parts

Paths are equal if they have the same parts, and can then still be written in different ways. What
is known of a path by its name is the same for all of them. So is what it leads to, but for two
things that go by what is written: a slash or a dot at the end asks for a folder, so that a file is
not found, and a path can be too long.

## Main definitions

* `Path.IsPlain`: paths that do not ask for a folder and are not too long.

## Main results

* `Path.compare_eq_iff`: what it means that paths are equal.
* `Path.parts_slashes`: slashes may be repeated.
* `FileTree.read_eq_of_parts`: plain paths with the same parts read alike.
-/

namespace KeyTrace

/-- What is in a piece of a list is in the list. -/
theorem Pieces.mem_of_mem_cut {α : Type} {sep : α → Bool} {s p : List α} {a : α}
    (hp : p ∈ cut sep s) (ha : a ∈ p) : a ∈ s := by
  induction s generalizing p with
  | nil =>
    obtain rfl := List.mem_singleton.1 hp
    cases ha
  | cons b rest ih =>
    rw [cut] at hp
    split at hp
    · rcases List.mem_cons.1 hp with rfl | hp
      · cases ha
      · exact List.mem_cons_of_mem b (ih hp ha)
    · cases hcut : cut sep rest with
      | nil => exact absurd hcut (cut_ne_nil sep rest)
      | cons q qs =>
        rw [hcut, push] at hp
        rcases List.mem_cons.1 hp with rfl | hp
        · rcases List.mem_cons.1 ha with rfl | ha
          · exact List.mem_cons_self ..
          · exact List.mem_cons_of_mem b (ih (hcut ▸ List.mem_cons_self ..) ha)
        · exact List.mem_cons_of_mem b (ih (hcut ▸ List.mem_cons_of_mem q hp) ha)

namespace Path

/-! ### Equal paths -/

theorem Part.eq_of_compare {a b : Part} (h : Part.compare a b = .eq) : a = b := by
  rw [Part.compare_eq, Ordering.then_eq_eq] at h
  obtain ⟨hrank, hbytes⟩ := h
  have hbytes : a.bytes = b.bytes := Std.LawfulEqCmp.eq_of_compare hbytes
  have hrank : a.rank = b.rank := Std.LawfulEqCmp.eq_of_compare hrank
  cases a <;> cases b <;> simp_all [Part.rank, Part.bytes]

/-- **Equal paths** are those with the same parts. -/
theorem compare_eq_iff {p q : Path} : Path.compare p q = .eq ↔ p.parts = q.parts := by
  rw [Path.compare]
  generalize p.parts = s
  generalize q.parts = t
  constructor
  · intro h
    induction s generalizing t with
    | nil =>
      cases t with
      | nil => rfl
      | cons b t => cases h
    | cons a s ih =>
      cases t with
      | nil => cases h
      | cons b t =>
        rw [compareList, Ordering.then_eq_eq] at h
        rw [Part.eq_of_compare h.1, ih t h.2]
  · rintro rfl
    induction s with
    | nil => rfl
    | cons a s ih =>
      have hself : Part.compare a a = .eq := Std.ReflCmp.compare_self
      rw [compareList, hself, ih]
      rfl

variable {p q : Path}

theorem fileName?_eq_of_parts (h : p.parts = q.parts) : p.fileName? = q.fileName? := by
  rw [fileName?, fileName?, h]

theorem stem?_eq_of_parts (h : p.parts = q.parts) : p.stem? = q.stem? := by
  rw [stem?, stem?, fileName?_eq_of_parts h]

theorem normalExtension_eq_of_parts (h : p.parts = q.parts) :
    p.normalExtension = q.normalExtension := by
  rw [normalExtension, normalExtension, textExtension?, textExtension?, extension?, extension?,
    fileName?_eq_of_parts h]

/-! ### What the parts tell of a path as it is written -/

theorem map_part_placeFrom (start : Nat) (pieces : List Bytes) :
    (placeFrom start pieces).map Placed.part = pieces.filterMap partOf? := by
  induction pieces generalizing start with
  | nil => rfl
  | cons piece rest ih =>
    rw [placeFrom, List.filterMap_cons]
    cases partOf? piece with
    | none => exact ih _
    | some part => exact congrArg _ (ih _)

/-- The parts of a path are what it begins with and what its pieces stand for. -/
theorem parts_eq (p : Path) : p.parts = p.opening ++ p.pieces.filterMap partOf? := by
  rw [parts, placed, List.map_append, List.map_map, map_part_placeFrom]
  exact congrArg (· ++ _) (List.map_id _)

/-- Only empty pieces and single dots stand for no part. -/
theorem partOf?_eq_none_iff {piece : Bytes} :
    partOf? piece = none ↔ piece = [] ∨ piece = [dot] := by
  rw [partOf?]
  by_cases hnone : piece = [] ∨ piece = [dot]
  · simp [hnone]
  · obtain ⟨hnil, hone⟩ := not_or.1 hnone
    simp only [beq_iff_eq, hnil, hone, Bool.or_eq_true, or_self, if_false, iff_false]
    split <;> simp

/-- The root is not one of the pieces. -/
theorem partOf?_ne_root (piece : Bytes) : partOf? piece ≠ some .root := by
  intro h
  rw [partOf?] at h
  split at h
  · cases h
  · split at h <;> cases h

theorem partOf?_eq_name {piece : Bytes} {b : UInt8} (hb : b ∈ piece) (hdot : b ≠ dot) :
    partOf? piece = some (.name piece) := by
  have hnil : piece ≠ [] := List.ne_nil_of_mem hb
  have hone : piece ≠ [dot] := by
    rintro rfl
    exact hdot (List.mem_singleton.1 hb)
  have htwo : piece ≠ [dot, dot] := by
    rintro rfl
    simp [hdot] at hb
  simp [partOf?, hnil, hone, htwo]

theorem bytes_of_partOf? {piece : Bytes} {part : Part} (h : partOf? piece = some part) :
    part.bytes ⊆ piece := by
  rw [partOf?] at h
  split at h
  · cases h
  · split at h
    · obtain rfl := Option.some.inj h
      exact List.nil_subset _
    · obtain rfl := Option.some.inj h
      exact List.Subset.refl _

theorem bytes_of_mem_opening {part : Part} (h : part ∈ p.opening) : part.bytes = [] := by
  rw [opening] at h
  split at h
  · obtain rfl := List.mem_singleton.1 h
    rfl
  · split at h
    · obtain rfl := List.mem_singleton.1 h
      rfl
    · cases h

/-- A byte other than a slash or a dot is in a path just if it is in a name. -/
theorem mem_iff {b : UInt8} (hslash : b ≠ slash) (hdot : b ≠ dot) :
    b ∈ p ↔ ∃ part ∈ p.parts, b ∈ part.bytes := by
  rw [parts_eq]
  constructor
  · intro hb
    obtain ⟨piece, hpiece, hmem⟩ :=
      Pieces.exists_mem_cut (fun b => b == slash) hb (by simpa using hslash)
    exact ⟨.name piece, List.mem_append_right _ (List.mem_filterMap.2
      ⟨piece, hpiece, partOf?_eq_name hmem hdot⟩), hmem⟩
  · rintro ⟨part, hpart, hb⟩
    rcases List.mem_append.1 hpart with hpart | hpart
    · rw [bytes_of_mem_opening hpart] at hb
      cases hb
    · obtain ⟨piece, hpiece, hsome⟩ := List.mem_filterMap.1 hpart
      exact Pieces.mem_of_mem_cut hpiece (bytes_of_partOf? hsome hb)

theorem contains_eq_of_parts (h : p.parts = q.parts) {b : UInt8} (hslash : b ≠ slash)
    (hdot : b ≠ dot) : p.contains b = q.contains b := by
  rw [Bool.eq_iff_iff, List.contains_iff_mem, List.contains_iff_mem, mem_iff hslash hdot,
    mem_iff hslash hdot, h]

theorem isAbsolute_iff : p.isAbsolute = true ↔ p.parts.head? = some .root := by
  rw [parts_eq, opening]
  cases habs : p.isAbsolute with
  | true => simp
  | false =>
    simp only [Bool.false_eq_true, if_false, false_iff]
    split
    · simp
    · intro hhead
      obtain ⟨piece, -, hsome⟩ := List.mem_filterMap.1 (List.mem_of_mem_head? hhead)
      exact partOf?_ne_root piece hsome

theorem isAbsolute_eq_of_parts (h : p.parts = q.parts) : p.isAbsolute = q.isAbsolute := by
  rw [Bool.eq_iff_iff, isAbsolute_iff, isAbsolute_iff, h]

/-- A path that does not begin with a slash begins with a piece of its own. -/
theorem exists_pieces_of_relative (hne : p ≠ []) (habs : p.isAbsolute = false) :
    ∃ b piece more, p.pieces = (b :: piece) :: more := by
  obtain ⟨b, rest, rfl⟩ := List.exists_cons_of_ne_nil hne
  have hb : (b == slash) = false := by simpa [isAbsolute] using habs
  rw [pieces, Pieces.cut, hb]
  cases hcut : Pieces.cut (fun b => b == slash) rest with
  | nil => exact absurd hcut (Pieces.cut_ne_nil _ rest)
  | cons piece more => exact ⟨b, piece, more, rfl⟩

/-- Only the empty path has no parts. -/
theorem eq_nil_iff : p = [] ↔ p.parts = [] := by
  constructor
  · rintro rfl
    rfl
  · intro h
    rw [parts_eq, List.append_eq_nil_iff] at h
    obtain ⟨hopening, hpieces⟩ := h
    by_contra hne
    have habs : p.isAbsolute = false := by
      by_contra habs
      rw [opening, if_pos (by simpa using habs)] at hopening
      cases hopening
    -- The first piece is a part, or a single dot, which the path then begins with.
    obtain ⟨b, piece, more, hcut⟩ := exists_pieces_of_relative hne habs
    have hnone : partOf? (b :: piece) = none :=
      List.filterMap_eq_nil_iff.1 hpieces _ (by simp [hcut])
    obtain hnil | hdot := partOf?_eq_none_iff.1 hnone
    · cases hnil
    · rw [opening, habs, hcut, hdot] at hopening
      cases hopening

theorem isEmpty_eq_of_parts (h : p.parts = q.parts) : p.isEmpty = q.isEmpty := by
  rw [Bool.eq_iff_iff, List.isEmpty_iff, List.isEmpty_iff, eq_nil_iff, eq_nil_iff, h]

/-- A slash cuts the path in two. -/
theorem pieces_slash (a s : Bytes) : pieces (a ++ slash :: s) = pieces a ++ pieces s :=
  Pieces.cut_append (by rfl) a s

/-- What a path begins with is settled by what stands before its first slash. -/
theorem opening_slash (a s t : Bytes) :
    opening (a ++ slash :: s) = opening (a ++ slash :: t) := by
  obtain ⟨piece, more, hcut⟩ : ∃ piece more, pieces a = piece :: more :=
    List.exists_cons_of_ne_nil (Pieces.cut_ne_nil _ a)
  simp only [opening, pieces_slash, isAbsolute, hcut, List.cons_append, List.head?_cons,
    List.head?_append]

theorem parts_slash (a b : Bytes) : parts (a ++ slash :: slash :: b) = parts (a ++ slash :: b) := by
  rw [parts_eq, parts_eq, opening_slash a (slash :: b) b, pieces_slash, pieces_slash]
  simp only [List.filterMap_append]
  rfl

/-- **Several slashes in a row** are as good as one. -/
theorem parts_slashes (a b : Bytes) (n : Nat) :
    parts (a ++ (List.replicate (n + 1) slash ++ b)) = parts (a ++ slash :: b) := by
  induction n with
  | zero => rfl
  | succ n ih => exact (parts_slash a (List.replicate n slash ++ b)).trans ih

/-- A path does not ask for a folder and is not too long. -/
@[mk_iff]
structure IsPlain (p : Path) : Prop where
  noFolder : FileTree.asksFolder p = false
  short : p.length ≤ FileTree.pathLimit

instance (p : Path) : Decidable p.IsPlain := decidable_of_iff' _ (isPlain_iff p)

end Path

/-- A path that is too long leads nowhere. -/
theorem FileTree.read_of_long (t : FileTree) {p : Path} (hnul : p.contains 0 = false)
    (h : pathLimit < p.length) : t.read p = .error .nameTooLong := by
  rw [read, find, locate, hnul, if_pos h]
  rfl

/-- **Plain paths with the same parts read alike.** -/
theorem FileTree.read_eq_of_parts (t : FileTree) {p q : Path} (h : p.parts = q.parts)
    (hp : p.IsPlain) (hq : q.IsPlain) : t.read p = t.read q := by
  have hlocate : t.locate p = t.locate q := by
    rw [locate, locate, Path.contains_eq_of_parts h (by decide) (by decide),
      Path.isEmpty_eq_of_parts h, Path.isAbsolute_eq_of_parts h, h,
      if_neg (Nat.not_lt.2 hp.short), if_neg (Nat.not_lt.2 hq.short)]
  rw [read, read, find, find, hlocate, hp.noFolder, hq.noFolder]

end KeyTrace
