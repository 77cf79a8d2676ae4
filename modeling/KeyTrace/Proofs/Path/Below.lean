import KeyTrace.Discovery
import KeyTrace.Proofs.Path
import KeyTrace.Proofs.Text.Lossy

/-!
# Paths below a folder

The path of something below a folder is written as the path of the folder, a slash unless there is
one already, and the names on the way with slashes between them. Cutting the folder off leaves just
these names, in whatever way the folder is written, and joining them to the folder again gives the
path back.

## Main definitions

* `Path.IsName`: byte strings that name something in a folder.

## Main results

* `Path.join_names`: the path of something below a folder is the folder joined with the names.
* `Path.strip?_written`: cutting the folder off leaves the names.
* `Path.parts_join_names`: what is joined to a folder adds its own parts.
* `Path.parts_join_nil`, `Path.strip?_self`: a path below itself.
* `Path.same_join_display_iff`: what something below a folder is shown as leads to it.
-/

namespace KeyTrace

namespace Pieces

variable {α : Type} {sep : α → Bool}

theorem cut_of_forall {s : List α} (h : ∀ a ∈ s, sep a = false) : cut sep s = [s] := by
  induction s with
  | nil => rfl
  | cons a rest ih =>
    rw [cut, h a (List.mem_cons_self ..), ih fun b hb => h b (List.mem_cons_of_mem a hb)]
    rfl

/-- The pieces and the separators between them make up the text. -/
theorem sum_length_cut (sep : α → Bool) (s : List α) :
    ((cut sep s).map fun p => p.length + 1).sum = s.length + 1 := by
  induction s with
  | nil => rfl
  | cons a rest ih =>
    rw [cut]
    split
    · rw [List.map_cons, List.sum_cons, ih, List.length_nil, List.length_cons]
      omega
    · cases hcut : cut sep rest with
      | nil => exact absurd hcut (cut_ne_nil sep rest)
      | cons p ps =>
        rw [hcut, List.map_cons, List.sum_cons] at ih
        rw [push, List.map_cons, List.sum_cons, List.length_cons, List.length_cons]
        omega

end Pieces

namespace Path

/-- Some bytes name something in a folder. -/
@[mk_iff]
structure IsName (n : Bytes) : Prop where
  ne_nil : n ≠ []
  ne_here : n ≠ [dot]
  ne_up : n ≠ [dot, dot]
  noSlash : slash ∉ n

instance (n : Bytes) : Decidable (IsName n) := decidable_of_iff' _ (isName_iff n)

variable {n : Bytes} {names : Place} {root : Path}

namespace IsName

theorem partOf? (h : IsName n) : Path.partOf? n = some (.name n) := by
  simp [Path.partOf?, h.ne_nil, h.ne_here, h.ne_up]

theorem pieces (h : IsName n) : Path.pieces n = [n] :=
  Pieces.cut_of_forall fun b hb => by
    rw [beq_eq_false_iff_ne]
    rintro rfl
    exact h.noSlash hb

theorem isAbsolute (h : IsName n) : Path.isAbsolute n = false := by
  rw [Path.isAbsolute, beq_eq_false_iff_ne]
  exact fun heq => h.noSlash (List.mem_of_mem_head? heq)

end IsName

/-! ### Joined paths as they are written -/

/-- A folder's path as it stands in front of what is below it. -/
def front (root : Path) : Path :=
  if root.isEmpty then [] else if root.getLast? == some slash then root else root ++ [slash]

theorem join_eq (h : isAbsolute n = false) : join root n = front root ++ n := by
  rw [join, h, if_neg Bool.false_ne_true, front]
  split
  · rfl
  · split
    · rfl
    · exact (List.append_assoc root [slash] n).symm

/-- Something with a name at its end, followed by further names. -/
theorem front_append (a : Bytes) (h : IsName n) : front (a ++ n) = a ++ n ++ [slash] := by
  have hempty : (a ++ n).isEmpty = false := by
    simpa using fun _ => h.ne_nil
  have hlast : ((a ++ n).getLast? == some slash) = false := by
    rw [beq_eq_false_iff_ne, List.getLast?_append]
    cases hn : n.getLast? with
    | none => exact absurd (List.getLast?_eq_none_iff.1 hn) h.ne_nil
    | some b =>
      rintro ⟨⟩
      exact h.noSlash (List.mem_of_mem_getLast? hn)
  rw [front, hempty, hlast, if_neg Bool.false_ne_true, if_neg Bool.false_ne_true]

theorem intercalate_cons (n m : Bytes) (more : Place) :
    [slash].intercalate (n :: m :: more) = n ++ slash :: [slash].intercalate (m :: more) := by
  rw [List.intercalate_cons_cons, List.append_assoc]
  rfl

/-- The path of something below a folder, as a walk writes it. -/
theorem written_eq (hne : names ≠ []) (h : ∀ n ∈ names, IsName n) :
    Discovery.written root names = front root ++ [slash].intercalate names := by
  induction names generalizing root with
  | nil => exact absurd rfl hne
  | cons n rest ih =>
    have hn := h n (List.mem_cons_self ..)
    have hwritten : Discovery.written root (n :: rest) =
        Discovery.written (front root ++ n) rest := by
      rw [← join_eq hn.isAbsolute]
      rfl
    rw [hwritten]
    cases rest with
    | nil => rw [List.intercalate_singleton]; rfl
    | cons m more =>
      rw [ih (List.cons_ne_nil _ _) fun k hk => h k (List.mem_cons_of_mem n hk), front_append _ hn,
        List.intercalate_cons_cons]
      simp only [List.append_assoc]

theorem intercalate_ne_nil (hne : names ≠ []) (h : ∀ n ∈ names, IsName n) :
    [slash].intercalate names ≠ [] := by
  cases names with
  | nil => exact absurd rfl hne
  | cons n rest =>
    have hn := (h n (List.mem_cons_self ..)).ne_nil
    cases rest with
    | nil => rwa [List.intercalate_singleton]
    | cons m more => simp [List.intercalate_cons_cons, hn]

/-- Names with slashes between them are a relative path. -/
theorem isAbsolute_intercalate (hne : names ≠ []) (h : ∀ n ∈ names, IsName n) :
    isAbsolute ([slash].intercalate names) = false := by
  cases names with
  | nil => exact absurd rfl hne
  | cons n rest =>
    have hn := h n (List.mem_cons_self ..)
    cases rest with
    | nil => rw [List.intercalate_singleton, hn.isAbsolute]
    | cons m more =>
      obtain ⟨b, bs, hbs⟩ := List.exists_cons_of_ne_nil hn.ne_nil
      have habs := hn.isAbsolute
      rw [isAbsolute, hbs] at habs
      rw [List.intercalate_cons_cons, isAbsolute, hbs]
      exact habs

/-- **The path of something below a folder** is the folder joined with the names on the way. -/
theorem join_names (hne : names ≠ []) (h : ∀ n ∈ names, IsName n) :
    join root ([slash].intercalate names) = Discovery.written root names := by
  rw [written_eq hne h]
  exact join_eq (isAbsolute_intercalate hne h)

/-! ### The parts of joined paths -/

/-- A slash at the end of a path that is not empty makes no difference. -/
theorem parts_append_slash {a : Bytes} (h : a ≠ []) : parts (a ++ [slash]) = parts a := by
  obtain ⟨b, rest, rfl⟩ := List.exists_cons_of_ne_nil h
  obtain ⟨piece, more, hcut⟩ : ∃ piece more, pieces (b :: rest) = piece :: more :=
    List.exists_cons_of_ne_nil (Pieces.cut_ne_nil _ (b :: rest))
  have hopening : opening (b :: rest ++ [slash]) = opening (b :: rest) := by
    rw [opening, opening, pieces_slash, isAbsolute, isAbsolute]
    simp only [hcut, List.cons_append, List.head?_cons]
  rw [parts_eq, parts_eq, hopening, pieces_slash, List.filterMap_append]
  exact congrArg _ (List.append_nil _)

/-- The front of a path that is not empty ends with a slash and has the same parts. -/
theorem exists_front (h : root ≠ []) :
    ∃ a : Bytes, front root = a ++ [slash] ∧ parts (a ++ [slash]) = parts root := by
  rw [front, List.isEmpty_eq_false_iff.2 h, if_neg Bool.false_ne_true]
  split
  · rename_i hlast
    obtain ⟨a, ha⟩ := List.getLast?_eq_some_iff.1 (beq_iff_eq.1 hlast)
    exact ⟨a, ha, by rw [← ha]⟩
  · exact ⟨root, rfl, parts_append_slash h⟩

theorem placeFrom_append (k : Nat) (s t : List Bytes) :
    placeFrom k (s ++ t) =
      placeFrom k s ++ placeFrom (k + (s.map fun p => p.length + 1).sum) t := by
  induction s generalizing k with
  | nil => rfl
  | cons piece rest ih =>
    rw [List.cons_append, placeFrom, placeFrom, ih, List.map_cons, List.sum_cons]
    rw [show k + piece.length + 1 + (rest.map fun p => p.length + 1).sum =
      k + (piece.length + 1 + (rest.map fun p => p.length + 1).sum) by omega]
    split <;> rfl

/-- What stands behind a slash adds its parts. -/
theorem placed_slash (a s : Bytes) :
    placed (a ++ slash :: s) = placed (a ++ [slash]) ++ placeFrom (a.length + 1) (pieces s) := by
  have hsum : ((pieces a).map fun p => p.length + 1).sum = a.length + 1 :=
    Pieces.sum_length_cut _ a
  rw [placed, placed, opening_slash a s [], pieces_slash, pieces_slash, placeFrom_append,
    placeFrom_append, hsum, Nat.zero_add, List.append_assoc, List.append_assoc]
  exact congrArg _ (congrArg _ (List.nil_append _).symm)

/-- What is joined to a folder adds its own parts. -/
theorem parts_join {p : Path} (hroot : root ≠ []) (h : isAbsolute p = false) :
    parts (join root p) = parts root ++ p.pieces.filterMap partOf? := by
  obtain ⟨a, hfront, hparts⟩ := exists_front hroot
  rw [join_eq h, hfront, List.append_assoc, List.singleton_append, parts, placed_slash,
    List.map_append, map_part_placeFrom, ← hparts]
  rfl

theorem filterMap_pieces_names (hne : names ≠ []) (h : ∀ n ∈ names, IsName n) :
    (pieces ([slash].intercalate names)).filterMap partOf? = names.map .name := by
  induction names with
  | nil => exact absurd rfl hne
  | cons n rest ih =>
    have hn := h n (List.mem_cons_self ..)
    cases rest with
    | nil => rw [List.intercalate_singleton, hn.pieces, List.filterMap_cons, hn.partOf?]; rfl
    | cons m more =>
      rw [intercalate_cons, pieces_slash, hn.pieces, List.singleton_append, List.filterMap_cons,
        hn.partOf?, ih (List.cons_ne_nil _ _) fun x hx => h x (List.mem_cons_of_mem n hx)]
      rfl

/-- The parts of something below a folder are those of the folder and the names on the way. -/
theorem parts_join_names (hroot : root ≠ []) (hne : names ≠ []) (h : ∀ n ∈ names, IsName n) :
    parts (join root ([slash].intercalate names)) = parts root ++ names.map .name := by
  rw [parts_join hroot (isAbsolute_intercalate hne h), filterMap_pieces_names hne h]

/-! ### Cutting a folder off -/

/-- Names with slashes between them: the first one stands at the start and the last one at the
end. -/
theorem placeFrom_names (k : Nat) (hne : names ≠ []) (h : ∀ n ∈ names, IsName n) :
    ∃ first more, placeFrom k (pieces ([slash].intercalate names)) = first :: more ∧
      first.start = k ∧
      (first :: more).getLast?.elim 0 Placed.stop = k + ([slash].intercalate names).length := by
  induction names generalizing k with
  | nil => exact absurd rfl hne
  | cons n rest ih =>
    have hn := h n (List.mem_cons_self ..)
    cases rest with
    | nil =>
      rw [List.intercalate_singleton, hn.pieces, placeFrom, hn.partOf?]
      exact ⟨_, _, rfl, rfl, rfl⟩
    | cons m more =>
      obtain ⟨first, others, hplaced, -, hstop⟩ :=
        ih (k + n.length + 1) (List.cons_ne_nil _ _) fun x hx => h x (List.mem_cons_of_mem n hx)
      rw [intercalate_cons, pieces_slash, hn.pieces, List.singleton_append, placeFrom, hn.partOf?,
        hplaced]
      refine ⟨_, _, rfl, rfl, ?_⟩
      rw [List.getLast?_cons_cons, hstop, List.length_append, List.length_cons]
      omega

/-- **Cutting the folder off** leaves the names on the way. -/
theorem strip?_written (hroot : root ≠ []) (hne : names ≠ []) (h : ∀ n ∈ names, IsName n) :
    strip? (Discovery.written root names) root = some ([slash].intercalate names) := by
  obtain ⟨a, hfront, hparts⟩ := exists_front hroot
  obtain ⟨first, more, hplaced, hstart, hstop⟩ := placeFrom_names (a.length + 1) hne h
  have hwritten : Discovery.written root names = a ++ slash :: [slash].intercalate names := by
    rw [written_eq hne h, hfront, List.append_assoc]
    rfl
  have hfirst : root.parts ≠ [] := fun hnil => hroot (eq_nil_iff.2 hnil)
  have hlength : root.parts.length = (placed (a ++ [slash])).length := by
    rw [← hparts, parts, List.length_map]
  rw [strip?, hwritten, placed_slash, hplaced, List.map_append,
    show (placed (a ++ [slash])).map Placed.part = root.parts from hparts,
    if_pos (List.isPrefixOf_iff_prefix.2 (List.prefix_append _ _)), hlength, List.drop_left]
  dsimp only
  rw [hstart, hstop, List.isEmpty_eq_false_iff.2 hfirst, if_neg Bool.false_ne_true, slice,
    Nat.add_sub_cancel_left,
    show a ++ slash :: [slash].intercalate names =
      (a ++ [slash]) ++ [slash].intercalate names by simp,
    List.drop_left' (by simp), List.take_length]

/-- What is left after the cut is part of the path. -/
theorem subset_of_strip? {p base rest : Path} (h : strip? p base = some rest) : rest ⊆ p := by
  rw [strip?] at h
  dsimp only at h
  split at h
  · split at h
    · obtain rfl := Option.some.inj h
      exact List.nil_subset _
    · obtain rfl := Option.some.inj h
      exact fun b hb => List.drop_subset _ _ (List.take_subset _ _ hb)
  · cases h

/-! ### A path below itself -/

theorem strip?_self (p : Path) : strip? p p = some [] := by
  have hdrop : (placed p).drop (parts p).length = [] :=
    List.drop_eq_nil_of_le (by rw [parts, List.length_map])
  have hprefix : (parts p).isPrefixOf ((placed p).map Placed.part) = true :=
    List.isPrefixOf_iff_prefix.2 (List.prefix_refl _)
  rw [strip?]
  dsimp only
  rw [if_pos hprefix, hdrop]

theorem parts_join_nil (hroot : root ≠ []) : parts (join root []) = parts root := by
  rw [parts_join hroot rfl]
  exact List.append_nil _

/-! ### Names as they are shown -/

/-- What a name is shown as is a name, too. -/
theorem IsName.ofText_lossy (h : IsName n) : IsName (Utf8.ofText (Utf8.lossy n)) where
  ne_nil heq := h.ne_nil (Utf8.eq_of_ofText_lossy (by decide) heq)
  ne_here heq := h.ne_here (Utf8.eq_of_ofText_lossy (by decide) heq)
  ne_up heq := h.ne_up (Utf8.eq_of_ofText_lossy (by decide) heq)
  noSlash hmem := by
    rw [Utf8.ofText_lossy, Utf8.mem_encode_iff (by decide)] at hmem
    exact h.noSlash (Utf8.subset_of_mem_decodeLossy hmem (by decide) (by decide))

/-- Names with slashes between them are shown name by name. -/
theorem ofText_display_names (names : Place) :
    Utf8.ofText (display ([slash].intercalate names)) =
      [slash].intercalate (names.map fun n => Utf8.ofText (Utf8.lossy n)) := by
  rw [display, Utf8.ofText_lossy]
  simp only [Utf8.ofText_lossy]
  induction names with
  | nil => rfl
  | cons n rest ih =>
    cases rest with
    | nil => simp only [List.map_cons, List.map_nil, List.intercalate_singleton]
    | cons m more =>
      rw [List.map_cons] at ih
      rw [List.map_cons, List.map_cons, intercalate_cons, intercalate_cons, ← ih,
        Utf8.decodeLossy_append n _ (by decide), Utf8.encode_append]
      rfl

/-- **What something below a folder is shown as leads to it** from the folder just if that is a
text. -/
theorem same_join_display_iff (hroot : root ≠ []) (hne : names ≠ []) (h : ∀ n ∈ names, IsName n) :
    same (join root (Utf8.ofText (display ([slash].intercalate names))))
        (Discovery.written root names) = true ↔
      Utf8.IsText ([slash].intercalate names) := by
  have hshown : ∀ n ∈ names.map fun n => Utf8.ofText (Utf8.lossy n), IsName n := by
    intro m hm
    obtain ⟨n, hn, rfl⟩ := List.mem_map.1 hm
    exact (h n hn).ofText_lossy
  rw [Utf8.isText_iff, ← display, ofText_display_names, same, beq_iff_eq, ← join_names hne h]
  constructor
  · intro hparts
    rw [parts_join_names hroot (by simpa using hne) hshown, parts_join_names hroot hne h] at hparts
    have hnames := List.map_injective_iff.2 (fun _ _ => Part.name.inj)
      (List.append_cancel_left hparts)
    rw [hnames]
  · exact fun heq => by rw [heq]

end Path

end KeyTrace
