import KeyTrace.Proofs.Rule.Failing
import KeyTrace.Proofs.Scan.OneScan
import KeyTrace.Proofs.Scan.Reference
import KeyTrace.Proofs.Scan.TemplateErrors

/-!
# Which rules are noted

The notes that a completed scan has made for an entry are known from its rules and from the lines of
its files alone: they are those of `RuleSet.Fails`. What is noted for an entry that is being worked
on is what its work keeps. A scan that was not asked to stop tries all lines, and what it has noted
then stays; so an entry whose list was published is one for which all lines have been tried.

## Main definitions

* `Tracker.AllNoted`: the rules that fail on all the lines there are to try.
* `EntryTask.Noted`: what has been noted, by how far the work on the entry is.
* `NotesInv`: the same for all entries of all scans.

## Main results

* `SearchContext.mem_broken_tryLines`: the rules that fail on some lines.
* `Scan.Reads.mem_broken`: the rules that fail in the lines of a scan's files.
* `EntryTask.Noted.move`, `NotesInv.step`, `NotesInv.run`: each step keeps to the notes.
* `Tracker.mem_failures_of_completed`: what a completed scan has noted.
-/

namespace KeyTrace

/-! ### The rules that fail on some lines -/

namespace SearchContext

variable {x : SearchContext} {n : Nat}

theorem compiled_eq_none {r : Rule} (hr : x.rules.rule? n = some r) :
    x.compiled n = none ↔
      ∃ fault, LineMatcher.compile r x.entry.container x.entry.key x.sizeLimit = .error fault := by
  rw [compiled, hr, Option.bind_some]
  cases LineMatcher.compile r x.entry.container x.entry.key x.sizeLimit <;> simp [Except.toOption]

/-- What is kept for a rule tells whether it fails. -/
theorem mem_broken {m : Matchers} (h : x.Kept m) (hnodup : (m.map Prod.fst).Nodup) :
    n ∈ x.rules.broken m ↔
      n ∈ m.map Prod.fst ∧ (x.rules.rule? n).isSome = true ∧ x.compiled n = none := by
  have hkept : ∀ v, (n, v) ∈ m → v = x.compiled n := by
    intro v hv
    refine h n v (List.lookup_eq_some_iff.2 ?_)
    obtain ⟨before, after, rfl⟩ := List.append_of_mem hv
    refine ⟨before, after, rfl, fun p hp => ?_⟩
    rw [List.map_append, List.nodup_append] at hnodup
    have hne := hnodup.2.2 p.1 (List.mem_map_of_mem hp) n (List.mem_map_of_mem List.mem_cons_self)
    simpa using Ne.symm hne
  rw [RuleSet.broken, List.mem_filterMap]
  constructor
  · rintro ⟨⟨i, v⟩, hv, hsome⟩
    split at hsome
    · rename_i hfail
      obtain rfl : i = n := Option.some.inj hsome
      obtain ⟨hnone, hrule⟩ := Bool.and_eq_true_iff.1 hfail
      obtain rfl := hkept v hv
      exact ⟨List.mem_map_of_mem hv, hrule, Option.isNone_iff_eq_none.1 hnone⟩
    · cases hsome
  · rintro ⟨hmem, hrule, hnone⟩
    obtain ⟨⟨i, v⟩, hv, rfl⟩ := List.mem_map.1 hmem
    refine ⟨(i, v), hv, ?_⟩
    rw [hkept v hv, hnone, hrule]
    rfl

/-- **The rules that fail on some lines**: those that are tried on one of them and do not
compile. -/
theorem mem_broken_tryLines (work : List (FileIndex × Nat)) :
    n ∈ x.rules.broken (x.tryLines work).1 ↔
      (∃ r fault, x.rules.rule? n = some r ∧
        LineMatcher.compile r x.entry.container x.entry.key x.sizeLimit = .error fault) ∧
      ∃ w ∈ work, ∃ line, w.1.line? w.2 = some line ∧ x.Tries line n w.1.ruleIds := by
  rw [mem_broken (kept_tryLines work) (x.nodup_tryLines work), mem_tryLines, and_comm,
    and_congr_left_iff]
  intro _
  cases hr : x.rules.rule? n with
  | none => simp
  | some r => simp [compiled_eq_none hr]

end SearchContext

/-- The rules for an extension, tried on a line in their order. -/
theorem RuleSet.tries_idsFor {s : RuleSet} {limit n : Nat} {e : Entry} {extension line : String} :
    SearchContext.Tries ⟨s, e, limit⟩ line n (s.idsFor extension) ↔
      n ∈ s.idsFor extension ∧ s.NoneBefore limit e extension line n := by
  rw [SearchContext.tries_iff line (s.pairwise_le_idsFor extension), and_congr_right_iff]
  intro _
  constructor
  · intro h i r hlt hr happlies
    have hnone := h i (mem_idsFor.2 ⟨r, hr, happlies⟩) hlt
    rwa [SearchContext.compiled, hr] at hnone
  · intro h i hi hlt
    obtain ⟨r, hr, happlies⟩ := mem_idsFor.1 hi
    rw [SearchContext.compiled, hr]
    exact h i r hlt hr happlies

/-- The lines that a whole index has for a key are those that have its probe. -/
theorem FileIndex.mem_work_whole {rules : RuleSet} {f : SourceFile} {keys : List String}
    {key : String} (hk : key ∈ keys) {lines : List String} {w : FileIndex × Nat} :
    w ∈ (whole rules (Candidates.ofKeys keys) f lines).work key ↔
      rules.covers f.extension = true ∧
        w.1 = ofLines f rules (Candidates.ofKeys keys) lines lines.length ∧
        ∃ line, lines[w.2]? = some line ∧ rules.mentions f.extension key line = true := by
  rw [whole]
  split
  · rename_i hcovers
    rw [work, linesFor_eq rules f hk]
    obtain ⟨index, i⟩ := w
    simp only [List.mem_map, List.mem_filterMap, List.mem_zipIdx_iff_getElem?, Prod.mk.injEq,
      Option.ite_none_right_eq_some, Option.some.injEq, Prod.exists, hcovers, true_and]
    constructor
    · rintro ⟨_, ⟨line, _, hline, hmentions, rfl⟩, rfl, rfl⟩
      exact ⟨rfl, line, hline, hmentions⟩
    · rintro ⟨rfl, line, hline, hmentions⟩
      exact ⟨i, ⟨line, i, hline, hmentions, rfl⟩, rfl, rfl⟩
  · rename_i hcovers
    simp only [hcovers, false_and, iff_false, Bool.false_eq_true]
    exact List.not_mem_nil

/-- **The rules that fail in the lines of a scan's files**, said without indexes. -/
theorem Scan.Reads.mem_broken {entries : List Entry} {linesOf : SourceFile → List String}
    {s : Scan} (h : s.Reads entries linesOf) (limit : Nat) {id n : Nat} {e : Entry}
    (hid : id ∈ s.entries) (he : entries[id]? = some e) :
    n ∈ s.rules.broken
        (SearchContext.tryLines ⟨s.rules, e, limit⟩ (s.lookup.work e.key)).1 ↔
      s.rules.Fails limit e linesOf s.files n := by
  have hkey := mem_keys hid he
  have hwork : s.lookup.work e.key = s.files.flatMap fun f =>
      (FileIndex.whole s.rules (Candidates.ofKeys (s.keys entries)) f (linesOf f)).work e.key := by
    rw [h, Lookup.work_ofIndexes, List.flatMap_map]
    intro x hx hnot
    obtain ⟨f, -, rfl⟩ := List.mem_map.1 hx
    exact FileIndex.work_whole_of_not_isApplicable hnot
  rw [SearchContext.mem_broken_tryLines (x := ⟨s.rules, e, limit⟩), hwork]
  constructor
  · rintro ⟨⟨r, fault, hr, hfault⟩, w, hw, line, hline, htries⟩
    obtain ⟨f, hf, hw⟩ := List.mem_flatMap.1 hw
    obtain ⟨-, hindex, line', hline', hmentions⟩ := (FileIndex.mem_work_whole hkey).1 hw
    rw [hindex] at hline htries
    obtain rfl : line = line' := Option.some.inj (hline.symm.trans hline')
    obtain ⟨hmem, hnone⟩ := RuleSet.tries_idsFor.1 htries
    obtain ⟨q, hq, happlies⟩ := RuleSet.mem_idsFor.1 hmem
    obtain rfl : r = q := Option.some.inj (hr.symm.trans hq)
    exact ⟨r, fault, hr, hfault, f, hf, happlies, line, List.mem_of_getElem? hline', hmentions,
      hnone⟩
  · rintro ⟨r, fault, hr, hfault, f, hf, happlies, line, hline, hmentions, hnone⟩
    obtain ⟨i, hi⟩ := List.mem_iff_getElem?.1 hline
    have hcovers : s.rules.covers f.extension = true :=
      List.any_eq_true.2 ⟨r, List.mem_of_getElem? hr, happlies⟩
    exact ⟨⟨r, fault, hr, hfault⟩, _, List.mem_flatMap.2 ⟨f, hf, (FileIndex.mem_work_whole
      (w := (_, i)) hkey).2 ⟨hcovers, rfl, line, hi, hmentions⟩⟩, line, hi,
      RuleSet.tries_idsFor.2 ⟨RuleSet.mem_idsFor.2 ⟨r, hr, happlies⟩, hnone⟩⟩

/-! ### What is noted by how far the work is -/

variable {t t' : Tracker} {g k : Nat} {s s' : Scan} {e : Entry} {noted noted' : Nat → Prop}
  {attempted attempted' : Prop} {task task' : EntryTask}

/-- The rules noted are those that fail on all the lines there are to try. -/
def Tracker.AllNoted (t : Tracker) (s : Scan) (e : Entry) (noted : Nat → Prop) : Prop :=
  ∀ n, noted n ↔ n ∈ s.rules.broken ((t.context s e).tryLines (s.lookup.work e.key)).1

/-- The rules that have been noted for an entry, by how far the work on it is, and whether it has
tried to publish. What is noted later on counts only if it has. -/
def EntryTask.Noted (t : Tracker) (s : Scan) (e : Entry) (noted : Nat → Prop) (attempted : Prop) :
    EntryTask → Prop
  | .waiting _ => ¬attempted ∧ ∀ n, ¬noted n
  | .lookingUp => ¬attempted ∧ ∀ n, ¬noted n
  | .searching _ _ m _ => ¬attempted ∧ ∀ n, noted n ↔ n ∈ s.rules.broken m
  | .checking .flag _ => ¬attempted ∧ (t.AllNoted s e noted ∨ t.Stops s)
  | .checking .number _ => ¬attempted ∧ (t.AllNoted s e noted ∨ t.generation ≠ s.generation)
  | .publishing _ => ¬attempted ∧ t.AllNoted s e noted
  | _ => attempted → t.AllNoted s e noted

/-- What leaves the work on an entry alone leaves it with the same notes. -/
theorem EntryTask.Noted.frame (h : task.Noted t s e noted attempted) (ht : t.Grows t')
    (hb : s.generation ≤ t.generation) (hrules : s'.rules = s.rules)
    (hlookup : s'.lookup = s.lookup) (hnumber : s'.generation = s.generation)
    (hstop : t.Stops s → t'.Stops s') (hnoted : ∀ n, noted' n ↔ noted n)
    (hattempted : attempted' ↔ attempted) : task.Noted t' s' e noted' attempted' := by
  obtain rfl : noted' = noted := funext fun n => propext (hnoted n)
  obtain rfl : attempted' = attempted := propext hattempted
  have hall : t.AllNoted s e noted' → t'.AllNoted s' e noted' := by
    intro hall n
    rw [hall n, Tracker.context, Tracker.context, ht.settings, hrules, hlookup]
  cases task with
  | waiting | lookingUp => exact h
  | searching poll left m found =>
    rw [EntryTask.Noted, hrules]
    exact h
  | checking poll found =>
    cases poll with
    | flag => exact h.imp_right fun h => h.imp hall hstop
    | number =>
      refine h.imp_right fun h => h.imp hall fun hne => ?_
      rw [hnumber]
      exact generation_ne_grow hne hb ht
  | publishing => exact h.imp_right hall
  | counting | visiting | done => exact fun ha => hall (h ha)

/-- Without any new note. -/
theorem Tracker.AllNoted.congr (h : t.AllNoted s e noted) (hnoted : ∀ n, noted' n ↔ noted n) :
    t.AllNoted s e noted' :=
  fun n => (hnoted n).trans (h n)

/-- **A step of the work on an entry notes what it compiles in vain.** -/
theorem EntryTask.Noted.move (h : task.Noted t s e noted attempted)
    (hm : task.Move t s e task') (hsound : task.Sound t s e)
    (hnoted : ∀ n, noted' n ↔ noted n ∨ n ∈ s.rules.broken task'.matchers ∧
      n ∉ s.rules.broken task.matchers) : task'.Noted t s e noted' attempted := by
  have hsame (hnone : s.rules.broken task'.matchers = []) (n : Nat) : noted' n ↔ noted n := by
    rw [hnoted n, hnone]
    simp
  -- The work keeps a rule that failed.
  have hkeeps {m m' : Matchers} (hm : task.matchers = m) (hm' : task'.matchers = m')
      (hold : ∀ n, noted n ↔ n ∈ s.rules.broken m)
      (hsub : ∀ n, n ∈ s.rules.broken m → n ∈ s.rules.broken m') (n : Nat) :
      noted' n ↔ n ∈ s.rules.broken m' := by
    rw [hnoted n, hold n, hm, hm']
    refine ⟨fun hn => hn.elim (hsub n) And.left, fun hn => ?_⟩
    by_cases hbefore : n ∈ s.rules.broken m
    · exact Or.inl hbefore
    · exact Or.inr ⟨hn, hbefore⟩
  cases hm with
  | unflagged | begun => exact h.imp_right fun hnone n hn => hnone n ((hsame rfl n).1 hn)
  | dropped => exact fun ha => absurd ha h.1
  | @givenUp poll => cases poll <;> exact fun ha => absurd ha h.1
  | lookedUp =>
    refine h.imp_right fun hnone n => ?_
    rw [hsame rfl n]
    exact iff_of_false (hnone n) List.not_mem_nil
  | exhausted =>
    obtain ⟨tried, hwork, htried⟩ := hsound
    refine h.imp_right fun hold => Or.inl fun n => ?_
    rw [List.append_nil] at hwork
    rw [hsame rfl n, hold n, hwork, htried]
  | lineUnflagged => exact h.imp_right fun hold => hkeeps rfl rfl hold fun _ => id
  | cut hs => exact h.imp_right fun _ => Or.inr hs
  | @tried file i left m m' found found' _ hx =>
    refine h.imp_right fun hold => hkeeps rfl rfl hold fun n hn => ?_
    obtain ⟨new, hnew, -⟩ := SearchContext.exists_append_tryLine _ file i (m, found)
    rw [hx] at hnew
    change m' = new ++ m at hnew
    rw [hnew, RuleSet.broken_append]
    exact List.mem_append_right _ hn
  | checkUnflagged hc =>
    exact h.imp_right fun h => h.imp (fun hall => hall.congr (hsame rfl))
      fun hs => hs.resolve_left (by simp [hc])
  | cleared hn =>
    exact h.imp_right fun h => (h.resolve_right fun hne => hne hn).congr (hsame rfl)
  | entryCounted | referencesCounted | entryTotalled | referencesTotalled | visited =>
    exact fun ha => (h ha).congr (hsame rfl)

/-! ### What is noted along a run -/

variable {l : Ledger} {notes : List TemplateError} {a : Action}

/-- A scan has tried to publish on the entry at a position in its request. -/
def Ledger.Attempted (l : Ledger) (g k : Nat) : Prop :=
  ∃ p ∈ l.attempts, p.scan = g ∧ p.task = k

/-- What has been noted for each entry of a scan, by how far the work on it is. -/
def Scan.Noted (notes : List TemplateError) (l : Ledger) (t : Tracker) (g : Nat) (s : Scan) :
    Prop :=
  ∀ {k id : Nat} {e : Entry} {task : EntryTask}, s.entries[k]? = some id →
    t.entries[id]? = some e → s.entryTasks[k]? = some task →
      task.Noted t s e (fun n => ⟨g, k, n⟩ ∈ notes) (l.Attempted g k)

/-- What has been noted by all scans. -/
def NotesInv (notes : List TemplateError) (l : Ledger) (t : Tracker) : Prop :=
  ∀ {g : Nat} {s : Scan}, t.scans[g]? = some s → s.Noted notes l t g

namespace Tracker

/-- A step notes only what the work on an entry finds that takes the step. -/
theorem mem_failures? {x : TemplateError} :
    x ∈ t.failures? a ↔ a = .entry x.scan x.task ∧
      x.rule ∈ (t.step a).brokenIn x.scan x.task ∧ x.rule ∉ t.brokenIn x.scan x.task := by
  cases a with
  | entry g k =>
    obtain ⟨i, j, n⟩ := x
    simp only [failures?, List.mem_map, List.mem_filter, TemplateError.mk.injEq, Action.entry.injEq,
      Bool.not_eq_true', ← Bool.not_eq_true, List.contains_iff_mem]
    constructor
    · rintro ⟨_, hn, rfl, rfl, rfl⟩
      exact ⟨⟨rfl, rfl⟩, hn⟩
    · rintro ⟨⟨rfl, rfl⟩, hn⟩
      exact ⟨n, hn, rfl, rfl, rfl⟩
  | _ => simp [failures?]

/-- A step that is not one of the work on the entry at a position notes nothing there. -/
theorem mem_notes_iff (ha : a ≠ .entry g k) (n : Nat) :
    (⟨g, k, n⟩ : TemplateError) ∈ notes ++ t.failures? a ↔ ⟨g, k, n⟩ ∈ notes := by
  rw [List.mem_append, mem_failures?]
  exact or_iff_left fun h => ha h.1

theorem attempted_iff (ha : a ≠ .entry g k) :
    (l.step t a).Attempted g k ↔ l.Attempted g k := by
  refine ⟨?_, fun ⟨p, hp, hat⟩ => ⟨p, List.mem_append_left _ hp, hat⟩⟩
  rintro ⟨p, hp, rfl, rfl⟩
  refine ⟨p, (Ledger.mem_attempts_step hp).resolve_right fun hnew => ha ?_, rfl, rfl⟩
  obtain ⟨_, _, haction, -⟩ := scan_of_attempt? hnew
  exact haction

end Tracker

namespace Scan.Move

/-- Where no entry has been worked on, the work begins with all of them waiting. -/
theorem eq_waiting (hm : s.Move t g a s') (hnil : s.entryTasks = [])
    (htask : s'.entryTasks[k]? = some task) : task = .waiting .flag := by
  have hno {xs : List EntryTask} (hxs : xs = []) (h : xs[k]? = some task) : task = .waiting .flag :=
    absurd hxs (ne_nil_of_getElem? h)
  cases hm with
  | entry ht | attempted _ ht => exact absurd hnil (ne_nil_of_getElem? ht)
  | thread hm =>
    cases hm with
    | matchingBegun =>
      obtain ⟨_, -, rfl⟩ := List.mem_map.1 (List.mem_of_getElem? htask)
      rfl
    | _ => exact hno hnil htask
  | _ => exact hno hnil htask

/-- Once it has begun, the work on an entry is changed by its own steps only. -/
theorem getElem?_entryTasks (hm : s.Move t g a s') (h : ScanInv l t g s) (ha : a ≠ .entry g k)
    (hne : s.entryTasks ≠ []) : s'.entryTasks[k]? = s.entryTasks[k]? := by
  have hset {j : Nat} (hj : Action.entry g j ≠ .entry g k) (task' : EntryTask) :
      (s.entryTasks.set j task')[k]? = s.entryTasks[k]? :=
    List.getElem?_set_ne fun hjk => hj (congrArg (Action.entry g) hjk)
  cases hm with
  | entry => exact hset ha _
  | attempted => exact hset ha _
  | thread hm =>
    have hstage := h.stage
    cases hm with
    | matchingBegun hst =>
      rw [hst] at hstage
      exact absurd hstage.2.1 hne
    | _ => rfl
  | _ => rfl

end Scan.Move

/-- When the work on all entries is over, that on each of them is. -/
theorem Scan.EntriesOver.getElem?_eq_done (h : s.EntriesOver) (hk : k < s.entries.length) :
    s.entryTasks[k]? = some .done := by
  have hk : k < s.entryTasks.length := h.length ▸ hk
  have hdone := List.all_eq_true.1 h.done _ (List.getElem_mem hk)
  rw [List.getElem?_eq_getElem hk]
  generalize s.entryTasks[k] = task at hdone
  cases task with
  | done => rfl
  | _ => cases hdone

/-- What the own step of the work on an entry makes of it. -/
inductive EntryTask.OwnStep (t : Tracker) (s : Scan) (e : Entry) (tries : Prop) :
    EntryTask → EntryTask → Prop
  | none {task : EntryTask} (h : ¬tries) : OwnStep t s e tries task task
  | move {task task' : EntryTask} (h : ¬tries) (hm : task.Move t s e task') :
      OwnStep t s e tries task task'
  | attempt {found : List Reference} (accepted : Bool) :
      OwnStep t s e tries (.publishing found) (.afterAttempt accepted found)

theorem Tracker.ownStep (hs : t.scans[g]? = some s) {id : Nat} (hid : s.entries[k]? = some id)
    (he : t.entries[id]? = some e) (htask : s.entryTasks[k]? = some task)
    (hs' : (t.step (.entry g k)).scans[g]? = some s') (htask' : s'.entryTasks[k]? = some task') :
    task.OwnStep t s e (t.attempt? (.entry g k) ≠ none) task' := by
  have hset {s₀ s₁ : Scan} {task₁ : EntryTask} (hs₀ : t.scans[g]? = some s₀)
      (hs₁ : (t.scans.set g s₁)[g]? = some s')
      (htasks : s₁.entryTasks = s₀.entryTasks.set k task₁) : s₀ = s ∧ task₁ = task' := by
    obtain rfl := Option.some.inj (hs₀.symm.trans hs)
    have hlt := (List.getElem?_eq_some_iff.1 hs).1
    have hklt := (List.getElem?_eq_some_iff.1 htask).1
    obtain rfl : s₁ = s' := by simpa [hlt] using hs₁
    exact ⟨rfl, by simpa [htasks, hklt] using htask'⟩
  generalize ht : t.step (.entry g k) = t' at hs'
  have hm : Tracker.Move t (.entry g k) t' := ht ▸ t.move_step (.entry g k)
  cases hm with
  | idle hnone =>
    obtain rfl := Option.some.inj (hs.symm.trans hs')
    obtain rfl := Option.some.inj (htask.symm.trans htask')
    exact .none (not_not.2 hnone)
  | called h => cases h
  | launched ha => rcases ha with h | ⟨_, h⟩ <;> cases h
  | entry hs₀ hid₀ he₀ htask₀ hm =>
    obtain ⟨rfl, rfl⟩ := hset hs₀ hs' rfl
    obtain rfl := Option.some.inj (hid.symm.trans hid₀)
    obtain rfl := Option.some.inj (he.symm.trans he₀)
    obtain rfl := Option.some.inj (htask.symm.trans htask₀)
    exact .move (not_not.2 (attempt?_of_move hs hid he htask hm)) hm
  | published hs₀ _ _ htask₀ =>
    obtain ⟨rfl, rfl⟩ := hset hs₀ hs' rfl
    obtain rfl := Option.some.inj (htask.symm.trans htask₀)
    exact .attempt true
  | refused hs₀ _ _ htask₀ =>
    obtain ⟨rfl, rfl⟩ := hset hs₀ hs' rfl
    obtain rfl := Option.some.inj (htask.symm.trans htask₀)
    exact .attempt false

/-- There was work on an entry before its own step if there is after it. -/
theorem Tracker.exists_task_of_step (hs : t.scans[g]? = some s) {id : Nat}
    (hid : s.entries[k]? = some id) (hs' : (t.step (.entry g k)).scans[g]? = some s')
    (htask' : s'.entryTasks[k]? = some task') : ∃ task, s.entryTasks[k]? = some task := by
  cases hnone : s.entryTasks[k]? with
  | some task => exact ⟨task, rfl⟩
  | none =>
    have hstep : t.step (.entry g k) = t := by simp [step, hs, hid, hnone]
    rw [hstep, hs] at hs'
    obtain rfl := Option.some.inj hs'
    cases hnone.symm.trans htask'

/-- A step of something else leaves the notes of an entry as they are. -/
theorem EntryTask.Noted.step (h : task.Noted t s e noted attempted) (hinv : TrackerInv l t)
    (hs : t.scans[g]? = some s) (hne : s.entryTasks ≠ []) (a : Action)
    (hs' : (t.step a).scans[g]? = some s') (hnoted : ∀ n, noted' n ↔ noted n)
    (hattempted : attempted' ↔ attempted) : task.Noted (t.step a) s' e noted' attempted' := by
  obtain ⟨s₁, hs₁, hm⟩ := Tracker.scanMove hs a
  obtain rfl : s₁ = s' := Option.some.inj (hs₁.symm.trans hs')
  obtain ⟨s₂, hs₂, hf⟩ := Tracker.scansFollow_step hinv.scans a g s hs
  obtain rfl : s₂ = s₁ := Option.some.inj (hs₂.symm.trans hs')
  have hbound := (hinv.scans hs).core.bound
  exact h.frame (t.grows_step a) hbound hf.rules (hf.lookup hne).2.2 hm.flag.1 (hm.stops hbound)
    hnoted hattempted

namespace NotesInv

/-- What the work on an entry notes in its own step. -/
theorem entry (h : NotesInv notes l t) (hinv : TrackerInv l t) (hs : t.scans[g]? = some s)
    {id : Nat} (hid : s.entries[k]? = some id) (he : t.entries[id]? = some e)
    (htask : s.entryTasks[k]? = some task) (hs' : (t.step (.entry g k)).scans[g]? = some s')
    (htask' : s'.entryTasks[k]? = some task') (hrules : s'.rules = s.rules) :
    task'.Noted t s e (fun n => ⟨g, k, n⟩ ∈ notes ++ t.failures? (.entry g k))
      ((l.step t (.entry g k)).Attempted g k) := by
  have hbefore := h hs hid he htask
  have hnoted (n : Nat) : (⟨g, k, n⟩ : TemplateError) ∈ notes ++ t.failures? (.entry g k) ↔
      ⟨g, k, n⟩ ∈ notes ∨ n ∈ s.rules.broken task'.matchers ∧
        n ∉ s.rules.broken task.matchers := by
    rw [List.mem_append, Tracker.mem_failures?, Tracker.brokenIn_of_task hs htask,
      Tracker.brokenIn_of_task hs' htask', hrules]
    simp
  have hattempted (hnone : ¬t.attempt? (.entry g k) ≠ none) :
      (l.step t (.entry g k)).Attempted g k = l.Attempted g k := by
    simp [Ledger.Attempted, Ledger.step, not_not.1 hnone]
  have hown := Tracker.ownStep hs hid he htask hs' htask'
  cases hown with
  | none hnone =>
    rw [hattempted hnone]
    refine hbefore.frame (.refl t) (hinv.scans hs).core.bound rfl rfl rfl (fun h => h) (fun n => ?_)
      Iff.rfl
    rw [hnoted n, or_iff_left fun hn => hn.2 hn.1]
  | move hnone hm =>
    rw [hattempted hnone]
    exact hbefore.move hm ((hinv.scans hs).core.entries hid he htask) hnoted
  | attempt accepted =>
    have hall : t.AllNoted s e fun n => ⟨g, k, n⟩ ∈ notes ++ t.failures? (.entry g k) := by
      refine hbefore.2.congr fun n => ?_
      rw [hnoted n]
      cases accepted <;> exact or_iff_left fun hn => List.not_mem_nil hn.1
    cases accepted <;> exact fun _ => hall

/-- A scan that has not begun to work on entries has not tried to publish. -/
theorem not_attempted (hinv : TrackerInv l t) (hs : t.scans[g]? = some s)
    (hnil : s.entryTasks = []) : ¬(l.step t a).Attempted g k := by
  rintro ⟨p, hp, rfl, rfl⟩
  rcases Ledger.mem_attempts_step hp with hp | hp
  · exact (hinv.scans hs).core.quiet hnil p hp rfl
  · obtain ⟨s₀, _, -, hs₀, -, -, htask, -⟩ := Tracker.scan_of_attempt? hp
    obtain rfl := Option.some.inj (hs.symm.trans hs₀)
    exact ne_nil_of_getElem? htask hnil

/-- Nor has it noted anything, when the entries are only waiting. -/
theorem not_mem (herrors : Tracker.ErrorsInv notes t) (hs : t.scans[g]? = some s)
    (hnil : s.entryTasks = []) (hs' : (t.step a).scans[g]? = some s')
    (htask' : s'.entryTasks[k]? = some (.waiting .flag)) (n : Nat) :
    (⟨g, k, n⟩ : TemplateError) ∉ notes ++ t.failures? a := by
  intro hn
  rcases List.mem_append.1 hn with hn | hn
  · obtain ⟨s₀, task, hs₀, htask, -⟩ := herrors.known _ hn
    obtain rfl := Option.some.inj (hs.symm.trans hs₀)
    exact ne_nil_of_getElem? htask hnil
  · obtain ⟨-, hbroken, -⟩ := Tracker.mem_failures?.1 hn
    rw [Tracker.brokenIn_of_task hs' htask'] at hbroken
    exact List.not_mem_nil hbroken

/-- **Each step keeps to the notes.** -/
theorem step (h : NotesInv notes l t) (herrors : Tracker.ErrorsInv notes t) (hinv : TrackerInv l t)
    (a : Action) : NotesInv (notes ++ t.failures? a) (l.step t a) (t.step a) := by
  intro g s' hs' k id e task' hid he htask'
  cases hs : t.scans[g]? with
  | none =>
    obtain ⟨r, n, hnew⟩ := Tracker.isNew_of_step hs hs'
    cases hnew <;> cases htask'
  | some s =>
    obtain ⟨s₁, hs₁, hm⟩ := Tracker.scanMove hs a
    obtain rfl : s₁ = s' := Option.some.inj (hs₁.symm.trans hs')
    obtain ⟨s₂, hs₂, hf⟩ := Tracker.scansFollow_step hinv.scans a g s hs
    obtain rfl : s₂ = s₁ := Option.some.inj (hs₂.symm.trans hs')
    rw [hf.entries] at hid
    rw [(t.grows_step a).entries] at he
    by_cases hnil : s.entryTasks = []
    · obtain rfl := hm.eq_waiting hnil htask'
      exact ⟨not_attempted hinv hs hnil, not_mem herrors hs hnil hs' htask'⟩
    · by_cases ha : a = .entry g k
      · subst ha
        obtain ⟨task, htask⟩ := Tracker.exists_task_of_step hs hid hs' htask'
        exact (h.entry hinv hs hid he htask hs' htask' hf.rules).step hinv hs hnil _ hs'
          (fun _ => Iff.rfl) Iff.rfl
      · have hsame := hm.getElem?_entryTasks (hinv.scans hs) ha hnil
        exact (h hs hid he (hsame ▸ htask')).step hinv hs hnil a hs' (Tracker.mem_notes_iff ha)
          (Tracker.attempted_iff ha)

theorem run (h : NotesInv notes l t) (herrors : Tracker.ErrorsInv notes t) (hinv : TrackerInv l t)
    (actions : List Action) :
    NotesInv (notes ++ t.failures actions) (l.run t actions) (t.run actions) := by
  induction actions generalizing t l notes with
  | nil =>
    rw [Tracker.failures, List.append_nil]
    exact h
  | cons a rest ih =>
    rw [Tracker.failures, ← List.append_assoc]
    exact ih (h.step herrors hinv a) (herrors.step hinv a) (hinv.step a)

end NotesInv

namespace Tracker

variable (settings : ScanSettings) (entries : List Entry) (files : FileTree)
  (actions : List Action)

/-- What has been noted in a run from the start. -/
theorem notes_run : NotesInv ((initial settings entries files).failures actions)
    ⟨treesOf files actions, actions.filterMap Action.request?,
      (initial settings entries files).attempts actions⟩
    ((initial settings entries files).run actions) := by
  have hstart : NotesInv [] ⟨[files], [], []⟩ (initial settings entries files) := nofun
  have hrun : NotesInv _ _ _ :=
    hstart.run ⟨rfl, .nil, nofun⟩ (TrackerInv.initial settings entries files) actions
  rwa [ledger_run] at hrun

/-- **What a completed scan has noted**: for each entry of its request, just the rules that fail in
the lines it has read, whatever was going on beside it. -/
theorem mem_failures_of_completed {m : Summary} {linesOf : SourceFile → List String} {id n : Nat}
    (hs : ((initial settings entries files).run actions).scans[g]? = some s)
    (ho : s.outcome = some (.completed m)) (hreads : s.Reads entries linesOf)
    (hid : s.entries[k]? = some id) (he : entries[id]? = some e) :
    ⟨g, k, n⟩ ∈ (initial settings entries files).failures actions ↔
      s.rules.Fails settings.patternSizeLimit e linesOf s.files n := by
  obtain ⟨hcomplete, -⟩ := complete_of_outcome settings entries files actions hs ho
  have hlt := (List.getElem?_eq_some_iff.1 hid).1
  have hdone := hcomplete.entriesOver.getElem?_eq_done hlt
  have he' : ((initial settings entries files).run actions).entries[id]? = some e := by
    rwa [entries_run]
  have hnoted := notes_run settings entries files actions hs hid he' hdone
  obtain ⟨p, hp, -, hat⟩ := hcomplete.published k hlt
  refine (hnoted ⟨p, hp, hat⟩ n).trans ?_
  rw [context, settings_run]
  exact hreads.mem_broken _ (List.mem_of_getElem? hid) he

end Tracker

end KeyTrace
