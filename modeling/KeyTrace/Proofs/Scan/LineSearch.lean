import KeyTrace.Proofs.Rule.Index
import KeyTrace.Proofs.Scan.Tasks

/-!
# The rules compiled so far make no difference

While an entry is searched for, rules are compiled when they are first needed and kept. What is kept
for a rule is what compiling it again would yield, on any line of any file; so each line can be
looked at on its own, with the first rule that compiles and matches. Which rules are compiled at all
can be told line by line as well: those that are tried on some line.

## Main definitions

* `SearchContext.compiled`: a rule compiled for the entry.
* `SearchContext.firstMatch`: the segments that the first matching rule makes of a line.
* `SearchContext.Kept`: what is kept is what compiling yields.
* `SearchContext.Tries`: a rule is tried on a line.

## Main results

* `SearchContext.tryRules_eq`: trying rules in order finds the first match.
* `SearchContext.references_eq`: the references on some lines, line by line.
* `SearchContext.mem_tryLines`: the rules that are compiled for some lines.
-/

namespace KeyTrace

namespace SearchContext

variable (x : SearchContext)

/-- A rule compiled for the entry, if it compiles. -/
def compiled (id : Nat) : Option LineMatcher :=
  (x.rules.rule? id).bind fun r =>
    (LineMatcher.compile r x.entry.container x.entry.key x.sizeLimit).toOption

/-- The segments that the first rule that compiles and matches makes of a line. -/
def firstMatch (ids : List Nat) (line : String) : Option Segments :=
  ids.findSome? fun id => (x.compiled id).bind fun m => m.apply line

/-- What is kept for a rule is what compiling it yields. -/
def Kept (matchers : Matchers) : Prop :=
  ∀ id m, matchers.lookup id = some m → m = x.compiled id

variable {x} {matchers : Matchers}

theorem kept_nil : x.Kept [] := nofun

theorem fst_compile (file : SourceFile) (lineNumber id : Nat) :
    (x.compile file lineNumber id).1 = x.compiled id := by
  rw [compile, compiled]
  cases x.rules.rule? id with
  | none => rfl
  | some r =>
    dsimp only [Option.bind_some]
    cases LineMatcher.compile r x.entry.container x.entry.key x.sizeLimit <;> rfl

theorem Kept.cons (h : x.Kept matchers) (id : Nat) : x.Kept ((id, x.compiled id) :: matchers) := by
  intro i m hm
  rw [List.lookup_cons] at hm
  split at hm
  · rename_i hi
    obtain rfl := beq_iff_eq.1 hi
    exact (Option.some.inj hm).symm
  · exact h i m hm

variable (file : SourceFile) (lineNumber : Nat) (line : String)

/-- The rule that comes next is compiled now or was before. -/
theorem tryRules_cons (h : x.Kept matchers) (id : Nat) (rest : List Nat) :
    ∃ matchers' log, x.Kept matchers' ∧
      (∀ n, n ∈ matchers'.map Prod.fst ↔ n = id ∨ n ∈ matchers.map Prod.fst) ∧
      x.tryRules file lineNumber line matchers (id :: rest) =
        match (x.compiled id).bind fun m => m.apply line with
        | some s => ⟨some s, matchers', log⟩
        | none =>
          let more := x.tryRules file lineNumber line matchers' rest
          { more with log := log ++ more.log } := by
  cases hid : matchers.lookup id with
  | some m =>
    have hmem : id ∈ matchers.map Prod.fst := by
      obtain ⟨before, after, rfl, -⟩ := List.lookup_eq_some_iff.1 hid
      simp
    refine ⟨matchers, [], h, fun n => (or_iff_right_of_imp fun hn => hn ▸ hmem).symm, ?_⟩
    cases hm : (x.compiled id).bind fun m => m.apply line <;>
      simp [tryRules, hid, h id m hid, hm]
  | none =>
    refine ⟨(id, x.compiled id) :: matchers, (x.compile file lineNumber id).2, h.cons id,
      fun n => List.mem_cons, ?_⟩
    cases hm : (x.compiled id).bind fun m => m.apply line <;>
      simp [tryRules, hid, fst_compile, hm]

/-- **Trying rules in order finds the first match**, whatever has been compiled before. -/
theorem tryRules_eq (h : x.Kept matchers) (ids : List Nat) :
    (x.tryRules file lineNumber line matchers ids).segments = x.firstMatch ids line ∧
      x.Kept (x.tryRules file lineNumber line matchers ids).matchers := by
  induction ids generalizing matchers with
  | nil => exact ⟨rfl, h⟩
  | cons id rest ih =>
    obtain ⟨matchers', log, h', -, hcons⟩ := tryRules_cons file lineNumber line h id rest
    rw [hcons, firstMatch, List.findSome?_cons]
    cases (x.compiled id).bind fun m => m.apply line with
    | some s => exact ⟨rfl, h'⟩
    | none => exact ih h'

variable (x)

/-- The reference on a line of an indexed file, if there is one. -/
def referenceOn (file : FileIndex) (i : Nat) : Option Reference :=
  (file.line? i).bind fun line =>
    (x.firstMatch file.ruleIds line).map (Tracker.referenceAt file i)

variable {x}

theorem tryLine_eq (file : FileIndex) (i : Nat) {p : Matchers × List Reference} (h : x.Kept p.1) :
    (x.tryLine file i p).2 = p.2 ++ (x.referenceOn file i).toList ∧
      x.Kept (x.tryLine file i p).1 := by
  rw [tryLine, referenceOn]
  cases file.line? i with
  | none => exact ⟨(List.append_nil _).symm, h⟩
  | some line =>
    obtain ⟨hsegments, hkept⟩ := tryRules_eq file.file (i + 1) line h file.ruleIds
    refine ⟨?_, hkept⟩
    dsimp only [Option.bind_some]
    rw [hsegments]

theorem foldl_tryLine (work : List (FileIndex × Nat)) {p : Matchers × List Reference}
    (h : x.Kept p.1) :
    (work.foldl (fun p w => x.tryLine w.1 w.2 p) p).2 =
      p.2 ++ work.filterMap fun w => x.referenceOn w.1 w.2 := by
  induction work generalizing p with
  | nil => exact (List.append_nil _).symm
  | cons w rest ih =>
    obtain ⟨hfound, hkept⟩ := tryLine_eq w.1 w.2 h
    rw [List.foldl_cons, ih hkept, hfound, List.filterMap_cons, List.append_assoc]
    cases x.referenceOn w.1 w.2 <;> rfl

/-- **The references on some lines, line by line.** -/
theorem references_eq (work : List (FileIndex × Nat)) :
    x.references work = work.filterMap fun w => x.referenceOn w.1 w.2 := by
  rw [references, tryLines, foldl_tryLine work kept_nil, List.nil_append]

/-! ### The rules that are compiled -/

variable (x) in
/-- A rule is tried on a line when its turn comes before another one has matched. -/
def Tries (line : String) (n : Nat) : List Nat → Prop
  | [] => False
  | id :: rest =>
    n = id ∨ ((x.compiled id).bind fun m => m.apply line) = none ∧ Tries line n rest

/-- In ascending order, those that come before a rule are those with smaller numbers. -/
theorem tries_iff {ids : List Nat} (h : ids.Pairwise (· ≤ ·)) {n : Nat} :
    x.Tries line n ids ↔
      n ∈ ids ∧ ∀ i ∈ ids, i < n → ((x.compiled i).bind fun m => m.apply line) = none := by
  induction ids with
  | nil => simp [Tries]
  | cons id rest ih =>
    obtain ⟨hle, hrest⟩ := List.pairwise_cons.1 h
    rw [Tries, ih hrest, List.mem_cons, List.forall_mem_cons]
    constructor
    · rintro (rfl | ⟨hnone, hmem, hall⟩)
      · exact ⟨Or.inl rfl, fun hlt => absurd hlt (Nat.lt_irrefl n),
          fun i hi hlt => absurd hlt (Nat.not_lt.2 (hle i hi))⟩
      · exact ⟨Or.inr hmem, fun _ => hnone, hall⟩
    · rintro ⟨hmem, hfirst, hall⟩
      by_cases hn : n = id
      · exact Or.inl hn
      · have hmem := hmem.resolve_left hn
        exact Or.inr ⟨hfirst (Nat.lt_of_le_of_ne (hle n hmem) (Ne.symm hn)), hmem, hall⟩

theorem mem_tryRules (h : x.Kept matchers) (ids : List Nat) {n : Nat} :
    n ∈ (x.tryRules file lineNumber line matchers ids).matchers.map Prod.fst ↔
      n ∈ matchers.map Prod.fst ∨ x.Tries line n ids := by
  induction ids generalizing matchers with
  | nil => simp [tryRules, Tries]
  | cons id rest ih =>
    obtain ⟨matchers', log, h', hmem, hcons⟩ := tryRules_cons file lineNumber line h id rest
    rw [hcons, Tries]
    cases hm : (x.compiled id).bind fun m => m.apply line with
    | some s =>
      dsimp only
      rw [hmem]
      simp [or_comm]
    | none =>
      dsimp only
      rw [ih h', hmem]
      simp only [true_and]
      tauto

theorem mem_tryLine (file : FileIndex) (i : Nat) {p : Matchers × List Reference}
    (h : x.Kept p.1) {n : Nat} :
    n ∈ (x.tryLine file i p).1.map Prod.fst ↔
      n ∈ p.1.map Prod.fst ∨ ∃ line, file.line? i = some line ∧ x.Tries line n file.ruleIds := by
  rw [tryLine]
  cases file.line? i with
  | none => simp
  | some line =>
    dsimp only
    rw [mem_tryRules file.file (i + 1) line h]
    simp

theorem kept_tryLines (work : List (FileIndex × Nat)) : x.Kept (x.tryLines work).1 := by
  induction work using List.reverseRecOn with
  | nil => exact kept_nil
  | append_singleton work w ih =>
    rw [tryLines_append_singleton]
    exact (tryLine_eq w.1 w.2 ih).2

/-- **The rules that are compiled for some lines** are those that are tried on one of them. -/
theorem mem_tryLines (work : List (FileIndex × Nat)) {n : Nat} :
    n ∈ (x.tryLines work).1.map Prod.fst ↔
      ∃ w ∈ work, ∃ line, w.1.line? w.2 = some line ∧ x.Tries line n w.1.ruleIds := by
  induction work using List.reverseRecOn with
  | nil => simp [tryLines]
  | append_singleton work w ih =>
    rw [tryLines_append_singleton, mem_tryLine w.1 w.2 (kept_tryLines work), ih]
    simp [or_and_right, exists_or]

end SearchContext

end KeyTrace
