import Mathlib

/-!
# Attempts one after another

Something is attempted for each element of a list and may fail. If it never fails there is a result
for each element; otherwise the first failure is that of the whole, and nothing is attempted after
it.

## Main results

* `mapM_eq_pure_map`, `exists_of_mem_of_mapM_eq_ok`: the results where nothing fails.
* `mapM_eq_error_iff`: the first failure decides.
-/

namespace KeyTrace

variable {α β ε : Type} {f : α → Except ε β} {s : List α}

theorem mapM_eq_pure_map {m : Type → Type} [Monad m] [LawfulMonad m] {f : α → m β} {g : α → β}
    (h : ∀ a ∈ s, f a = pure (g a)) : s.mapM f = pure (s.map g) := by
  induction s with
  | nil => rw [List.mapM_nil, List.map_nil]
  | cons a rest ih =>
    rw [List.mapM_cons, h a (List.mem_cons_self ..), ih fun b hb => h b (List.mem_cons_of_mem a hb),
      pure_bind, pure_bind, List.map_cons]

theorem exists_of_mem_of_mapM_eq_ok {bs : List β} (h : s.mapM f = .ok bs) {b : β} (hb : b ∈ bs) :
    ∃ a ∈ s, f a = .ok b := by
  induction s generalizing bs with
  | nil =>
    obtain rfl := Except.ok.inj h
    cases hb
  | cons a rest ih =>
    rw [List.mapM_cons] at h
    cases ha : f a with
    | error e =>
      rw [ha] at h
      cases h
    | ok b' =>
      cases hrest : rest.mapM f with
      | error e =>
        rw [ha, hrest] at h
        cases h
      | ok bs' =>
        rw [ha, hrest] at h
        obtain rfl := Except.ok.inj h
        rcases List.mem_cons.1 hb with rfl | hb
        · exact ⟨a, List.mem_cons_self .., ha⟩
        · obtain ⟨a', ha', hfa'⟩ := ih hrest hb
          exact ⟨a', List.mem_cons_of_mem a ha', hfa'⟩

theorem mapM_cons_of_error {a : α} {e : ε} (ha : f a = .error e) :
    (a :: s).mapM f = .error e := by
  rw [List.mapM_cons, ha]
  rfl

theorem mapM_cons_eq_error_iff {a : α} {b : β} {e : ε} (ha : f a = .ok b) :
    (a :: s).mapM f = .error e ↔ s.mapM f = .error e := by
  rw [List.mapM_cons, ha]
  cases s.mapM f with
  | error e' => rfl
  | ok bs => exact ⟨nofun, nofun⟩

/-- The first failure decides, and what comes after it is not looked at. -/
theorem mapM_eq_error_iff {e : ε} :
    s.mapM f = .error e ↔ ∃ before a after, s = before ++ a :: after ∧
      (∀ b ∈ before, ∃ r, f b = .ok r) ∧ f a = .error e := by
  induction s with
  | nil =>
    constructor
    · exact nofun
    · rintro ⟨before, a, after, hs, -, -⟩
      simp at hs
  | cons a rest ih =>
    cases ha : f a with
    | error e' =>
      rw [mapM_cons_of_error ha]
      constructor
      · intro h
        obtain rfl := Except.error.inj h
        exact ⟨[], a, rest, rfl, nofun, ha⟩
      · rintro ⟨before, b, after, hs, hbefore, hb⟩
        cases before with
        | nil =>
          obtain ⟨rfl, -⟩ := List.cons.inj hs
          rw [Except.error.inj (ha.symm.trans hb)]
        | cons c before =>
          obtain ⟨rfl, -⟩ := List.cons.inj hs
          obtain ⟨r, hr⟩ := hbefore a (List.mem_cons_self ..)
          exact absurd (ha.symm.trans hr) nofun
    | ok r =>
      rw [mapM_cons_eq_error_iff ha, ih]
      constructor
      · rintro ⟨before, b, after, rfl, hbefore, hb⟩
        refine ⟨a :: before, b, after, rfl, fun c hc => ?_, hb⟩
        rcases List.mem_cons.1 hc with rfl | hc
        · exact ⟨r, ha⟩
        · exact hbefore c hc
      · rintro ⟨before, b, after, hs, hbefore, hb⟩
        cases before with
        | nil =>
          obtain ⟨rfl, -⟩ := List.cons.inj hs
          exact absurd (ha.symm.trans hb) nofun
        | cons c before =>
          obtain ⟨rfl, rfl⟩ := List.cons.inj hs
          exact ⟨before, b, after, rfl, fun d hd => hbefore d (List.mem_cons_of_mem a hd), hb⟩

end KeyTrace
