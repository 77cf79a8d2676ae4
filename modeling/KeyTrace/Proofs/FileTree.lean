import KeyTrace.FileTree
import KeyTrace.Proofs.Text.Utf8

/-!
# Reading what was written in a file

A file that is written is found again by the same path: the way there leads through folders only,
and writing changes nothing but the file itself.

## Main results

* `FileTree.locate_put`: the place a path leads to stays when a file is put there.
* `FileTree.read_of_write`, `FileTree.readText_of_write`: the content of a file is what was written.
-/

namespace KeyTrace

namespace FileTree

variable {t t' : FileTree} {spot place : Place} {k : FileKind} {p : Path}

theorem kind?_put_self (h : spot ≠ []) : (t.put spot k).kind? spot = some k := by
  have hempty : spot.isEmpty = false := by simpa using h
  rw [kind?, hempty, put]
  simp

theorem lookup_filter_of_ne (h : place ≠ spot) (entries : List (Place × FileKind)) :
    (entries.filter fun e => e.1 != spot).lookup place = entries.lookup place := by
  induction entries with
  | nil => rfl
  | cons e rest ih =>
    rw [List.filter_cons]
    by_cases he : e.1 = spot
    · have hplace : (place == e.1) = false := by simpa [he] using h
      rw [if_neg (by simp [he]), ih, List.lookup_cons, hplace]
    · rw [if_pos (by simpa using he), List.lookup_cons, List.lookup_cons, ih]

theorem kind?_put_of_ne (h : place ≠ spot) : (t.put spot k).kind? place = t.kind? place := by
  have hplace : (place == spot) = false := by simpa using h
  rw [kind?, kind?, put]
  dsimp only
  rw [List.lookup_cons, hplace, lookup_filter_of_ne h]

/-- The way to a place leads through folders, and not through the place itself if that is none. -/
theorem follow_put (h : t.kind? spot ≠ some .folder) {start stop : Place} {part : Path.Part}
    (hf : t.follow start part = .ok stop) : (t.put spot k).follow start part = .ok stop := by
  by_cases hstart : start = spot
  · subst hstart
    unfold follow at hf
    split at hf
    · cases hf
    · cases hf
    · exact absurd ‹_› h
  · unfold follow at hf ⊢
    rw [kind?_put_of_ne hstart]
    exact hf

theorem foldlM_follow_put (h : t.kind? spot ≠ some .folder) (parts : List Path.Part)
    {start stop : Place} (hf : parts.foldlM t.follow start = .ok stop) :
    parts.foldlM (t.put spot k).follow start = .ok stop := by
  induction parts generalizing start with
  | nil => exact hf
  | cons part rest ih =>
    rw [List.foldlM_cons] at hf ⊢
    cases hstep : t.follow start part with
    | error e =>
      rw [hstep] at hf
      cases hf
    | ok next =>
      rw [hstep] at hf
      rw [follow_put h hstep]
      exact ih hf

/-- **The place a path leads to** stays when something is put there that is no folder. -/
theorem locate_put (h : t.locate p = .ok spot) (hkind : t.kind? spot ≠ some .folder) :
    (t.put spot k).locate p = .ok spot := by
  rw [locate] at h ⊢
  split at h
  · cases h
  · split at h
    · cases h
    · split at h
      · cases h
      · rename_i hnul hlong hempty
        rw [if_neg hnul, if_neg hlong, if_neg hempty]
        exact foldlM_follow_put hkind _ h

/-- What writing a file does. -/
theorem put_of_write {content : Bytes} (h : t.write p content = .ok t') :
    ∃ spot, t.locate p = .ok spot ∧ t.kind? spot ≠ some .folder ∧ asksFolder p = false ∧
      t' = t.put spot (.file content) := by
  unfold write at h
  cases hspot : t.locate p with
  | error e =>
    rw [hspot] at h
    cases h
  | ok spot =>
    rw [hspot] at h
    refine ⟨spot, rfl, ?_⟩
    cases hkind : t.kind? spot with
    | none =>
      simp only [Except.bind, hkind] at h
      split at h
      · cases h
      · rename_i hasks
        split at h
        · obtain rfl := Except.ok.inj h
          exact ⟨nofun, by simpa using hasks, rfl⟩
        · cases h
        · cases h
    | some k =>
      cases k with
      | folder =>
        simp only [Except.bind, hkind] at h
        cases h
      | file c =>
        simp only [Except.bind, hkind] at h
        split at h
        · cases h
        · rename_i hasks
          obtain rfl := Except.ok.inj h
          exact ⟨nofun, by simpa using hasks, rfl⟩

/-- **The content of a file is what was written**, by the same path. -/
theorem read_of_write {content : Bytes} (h : t.write p content = .ok t') :
    t'.read p = .ok content := by
  obtain ⟨spot, hlocate, hkind, hasks, rfl⟩ := put_of_write h
  have hspot : spot ≠ [] := by
    intro hnil
    rw [hnil] at hkind
    exact hkind rfl
  have hfind : (t.put spot (.file content)).find p = .ok (spot, .file content) := by
    rw [find, locate_put hlocate hkind]
    simp only [Except.bind, kind?_put_self hspot, hasks]
    rfl
  rw [read, hfind]
  rfl

/-- A text is read as it was written. -/
theorem readText_of_write {text : List Char} (h : t.write p (Utf8.encode text) = .ok t') :
    t'.readText p = .ok text := by
  rw [readText, read_of_write h]
  simp only [Except.bind, Utf8.decode?_encode]

end FileTree

end KeyTrace
