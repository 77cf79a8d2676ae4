import KeyTrace.Index.FileIndex
import KeyTrace.Proofs.Ascending
import KeyTrace.Scan.LineSearch

/-!
# What a lookup has for a key

A key's candidate is the key with its probe, so that it does not matter which other keys are looked
for at the same time. The index of a file over all its lines has for the key the lines that hold its
probe, and the lookup has these lines of all files.

## Main definitions

* `FileIndex.work`: the lines of one file that may refer to a key.

## Main results

* `Candidates.mem_ofKeys`: the candidates for some keys.
* `FileIndex.linesFor_ofLines`: the lines of a whole index for a key.
* `Lookup.work_ofIndexes`: the lines of a lookup for a key, file by file.
-/

namespace KeyTrace

theorem Candidates.mem_ofKeys {keys : List String} {c : Candidate} :
    c ∈ ofKeys keys ↔ c.key ∈ keys ∧ Token.probe c.key.toList = some c.probe := by
  rw [ofKeys, List.mem_filterMap]
  simp only [Ascending.mem_texts, Option.map_eq_some_iff]
  constructor
  · rintro ⟨k, hk, p, hp, rfl⟩
    exact ⟨hk, hp⟩
  · rintro ⟨hk, hp⟩
    exact ⟨c.key, hk, c.probe, hp, rfl⟩

namespace FileIndex

/-- The hits of some candidates, none for those without a line. -/
def hitsOf (lines : Candidate → List Nat) (candidates : Candidates) : List (String × List Nat) :=
  candidates.filterMap fun c =>
    match lines c with
    | [] => none
    | hit => some (c.key, hit)

theorem lookup_hitsOf_of_ne (lines : Candidate → List Nat) {candidates : Candidates} {key : String}
    (h : ∀ c ∈ candidates, c.key ≠ key) : (hitsOf lines candidates).lookup key = none := by
  rw [List.lookup_eq_none_iff]
  intro p hp
  obtain ⟨c, hc, hsome⟩ := List.mem_filterMap.1 hp
  split at hsome
  · cases hsome
  · obtain rfl := Option.some.inj hsome
    simpa using Ne.symm (h c hc)

/-- The hits of a candidate that is determined by its key. -/
theorem lookup_hitsOf (lines : Candidate → List Nat) {candidates : Candidates} {c : Candidate}
    (h : ∀ d ∈ candidates, d.key = c.key → d = c) (hc : c ∈ candidates) :
    ((hitsOf lines candidates).lookup c.key).getD [] = lines c := by
  induction candidates with
  | nil => cases hc
  | cons d rest ih =>
    have hrest : ∀ d ∈ rest, d.key = c.key → d = c := fun d hd => h d (List.mem_cons_of_mem _ hd)
    by_cases hkey : d.key = c.key
    · obtain rfl := h d (List.mem_cons_self ..) hkey
      by_cases hmem : d ∈ rest
      · cases hd : lines d with
        | nil => simpa [hitsOf, hd] using ih hrest hmem
        | cons i is => simp [hitsOf, hd]
      · have hnone : ∀ e ∈ rest, e.key ≠ d.key := fun e he heq => hmem (hrest e he heq ▸ he)
        have hlookup := lookup_hitsOf_of_ne lines hnone
        cases hd : lines d with
        | nil =>
          have hcons : hitsOf lines (d :: rest) = hitsOf lines rest := by simp [hitsOf, hd]
          rw [hcons, hlookup]
          rfl
        | cons i is => simp [hitsOf, hd]
    · have hmem : c ∈ rest := (List.mem_cons.1 hc).resolve_left fun heq => hkey (heq ▸ rfl)
      have hne : (c.key == d.key) = false := beq_eq_false_iff_ne.2 (Ne.symm hkey)
      cases hd : lines d with
      | nil => simpa [hitsOf, hd] using ih hrest hmem
      | cons i is => simpa [hitsOf, hd, List.lookup_cons, hne] using ih hrest hmem

/-- **The lines of a whole index for a key** are those that hold its probe; a key without a probe
has none. -/
theorem linesFor_ofLines (f : SourceFile) (rules : RuleSet) {keys : List String} {key : String}
    (hk : key ∈ keys) (lines : List String) :
    (ofLines f rules (Candidates.ofKeys keys) lines lines.length).linesFor key =
      match Token.probe key.toList with
      | none => []
      | some p => hitLines (ignoresCase rules (rules.idsFor f.extension)) ⟨key, p⟩
          (lines.map fun l => Token.tokens l.toList) := by
  have hof : (ofLines f rules (Candidates.ofKeys keys) lines lines.length).hits =
      hitsOf (fun c => hitLines (ignoresCase rules (rules.idsFor f.extension)) c
        (lines.map fun l => Token.tokens l.toList)) (Candidates.ofKeys keys) := by
    rw [ofLines, List.take_length]
    rfl
  rw [linesFor, hof]
  cases hp : Token.probe key.toList with
  | none =>
    rw [lookup_hitsOf_of_ne]
    · rfl
    · rintro c hc rfl
      rw [(Candidates.mem_ofKeys.1 hc).2] at hp
      cases hp
  | some p =>
    refine lookup_hitsOf (c := ⟨key, p⟩) _ ?_ (Candidates.mem_ofKeys.2 ⟨hk, hp⟩)
    rintro ⟨k, q⟩ hd rfl
    have hq := (Candidates.mem_ofKeys.1 hd).2
    obtain rfl : q = p := Option.some.inj (hq.symm.trans hp)
    rfl

/-- The lines of the file that may refer to a key. -/
def work (x : FileIndex) (key : String) : List (FileIndex × Nat) :=
  (x.linesFor key).map fun i => (x, i)

theorem work_of_not_containsKey {x : FileIndex} {key : String} (h : x.containsKey key = false) :
    x.work key = [] := by
  rw [containsKey, Option.isSome_eq_false_iff, Option.isNone_iff_eq_none] at h
  rw [work, linesFor, h]
  rfl

end FileIndex

/-- Dropping what contributes nothing makes no difference. -/
theorem flatMap_filter {α β : Type} (f : α → List β) (p : α → Bool) (s : List α)
    (h : ∀ a ∈ s, p a = false → f a = []) : (s.filter p).flatMap f = s.flatMap f := by
  induction s with
  | nil => rfl
  | cons a rest ih =>
    have hrest := ih fun b hb => h b (List.mem_cons_of_mem a hb)
    rw [List.filter_cons, List.flatMap_cons]
    split
    · rw [List.flatMap_cons, hrest]
    · rename_i ha
      rw [h a (List.mem_cons_self ..) (by simpa using ha), hrest, List.nil_append]

/-- **The lines of a lookup for a key**, file by file. An index that no rule covers must not have
any. -/
theorem Lookup.work_ofIndexes {indexes : List FileIndex} {key : String}
    (h : ∀ x ∈ indexes, x.isApplicable = false → x.work key = []) :
    (ofIndexes indexes).work key = indexes.flatMap fun x => x.work key := by
  have hcontains : (ofIndexes indexes).work key =
      (indexes.filter FileIndex.isApplicable).flatMap fun x => x.work key :=
    flatMap_filter (fun x : FileIndex => x.work key) (fun x => x.containsKey key) _
      fun x _ hx => FileIndex.work_of_not_containsKey hx
  rw [hcontains, flatMap_filter (fun x : FileIndex => x.work key) _ _ h]

end KeyTrace
