import KeyTrace.Proofs.Scan.History

/-!
# The work on files and entries

Two kinds of work are cut short when a scan is asked to stop: a file is then indexed in part or not
at all, and an entry is searched for in part. What has been cut short can only be told from what is
whole by the fact that the scan was asked to stop, and this fact stays: the flag is never taken
back, and the number of the current scan only goes up. So every task is in one of two cases, `whole`
or `asked to stop`, and each step keeps it there.

## Main definitions

* `FileIndex.Full`: the index of a file over all of its lines.
* `SearchContext.references`: what a search finds that is never interrupted.
* `FileTask.Sound`, `EntryTask.Sound`: the two cases.

## Main results

* `FileTask.Move.sound`, `EntryTask.Move.sound`: each step keeps a task sound.
-/

namespace KeyTrace

/-- The index of a file over all of its lines, which are read from one of some trees. A file that no
rule covers is not read. -/
inductive FileIndex.Full (trees : List FileTree) (rules : RuleSet) (candidates : Candidates)
    (f : SourceFile) : FileIndex → Prop
  | unread (h : rules.idsFor f.extension = []) :
      Full trees rules candidates f (FileIndex.unread f)
  | read {tree : FileTree} (h : rules.idsFor f.extension ≠ []) (ht : tree ∈ trees) :
      Full trees rules candidates f
        (FileIndex.ofLines f rules candidates (f.readLines tree).1 (f.readLines tree).1.length)

theorem FileIndex.Full.mono {trees trees' : List FileTree} {rules : RuleSet}
    {candidates : Candidates} {f : SourceFile} {x : FileIndex} (h : trees ⊆ trees')
    (hx : Full trees rules candidates f x) : Full trees' rules candidates f x := by
  cases hx with
  | unread hf => exact .unread hf
  | read hf ht => exact .read hf (h ht)

namespace SearchContext

/-- The rules compiled and the references found once some lines have been tried, one after the
other. -/
def tryLines (x : SearchContext) (work : List (FileIndex × Nat)) : Matchers × List Reference :=
  work.foldl (fun p w => x.tryLine w.1 w.2 p) ([], [])

/-- The references on some lines, when no stop is looked for. -/
def references (x : SearchContext) (work : List (FileIndex × Nat)) : List Reference :=
  (x.tryLines work).2

theorem tryLines_append_singleton (x : SearchContext) (work : List (FileIndex × Nat))
    (file : FileIndex) (i : Nat) :
    x.tryLines (work ++ [(file, i)]) = x.tryLine file i (x.tryLines work) := by
  simp [tryLines]

end SearchContext

/-- What a scan looks for when it works on an entry. -/
def Tracker.context (t : Tracker) (s : Scan) (e : Entry) : SearchContext :=
  ⟨s.rules, e, t.settings.patternSizeLimit⟩

/-- The references to an entry in all the lines that the scan's lookup has for it. -/
def Tracker.found (t : Tracker) (s : Scan) (e : Entry) : List Reference :=
  (t.context s e).references (s.lookup.work e.key)

/-! ### Files -/

/-- The index that the work on a file leaves is whole, or the scan has been asked to stop. -/
def FileTask.Sound (trees : List FileTree) (t : Tracker) (s : Scan) (f : SourceFile) :
    FileTask → Prop
  | .waiting _ => True
  | .opening => True
  | .indexing _ lines _ =>
    s.rules.idsFor f.extension ≠ [] ∧ ∃ tree ∈ trees, lines = (f.readLines tree).1
  | .counting x => FileIndex.Full trees s.rules s.candidates f x ∨ t.Stops s
  | .visiting x => FileIndex.Full trees s.rules s.candidates f x ∨ t.Stops s
  | .done (some x) => FileIndex.Full trees s.rules s.candidates f x ∨ t.Stops s
  | .done none => t.Stops s

theorem FileTask.Move.sound {trees : List FileTree} {t : Tracker} {s : Scan} {f : SourceFile}
    {task task' : FileTask} (hm : task.Move t s f task') (ht : t.files ∈ trees)
    (h : task.Sound trees t s f) : task'.Sound trees t s f := by
  cases hm with
  | unflagged => trivial
  | dropped hs => exact hs
  | begun => trivial
  | unread hf => exact Or.inl (.unread hf)
  | read hf => exact ⟨hf, t.files, ht, rfl⟩
  | exhausted =>
    obtain ⟨hf, tree, htree, rfl⟩ := h
    exact Or.inl (.read hf htree)
  | lineUnflagged => exact h
  | cut hs => exact Or.inr hs
  | line => exact h
  | counted => exact h
  | visited => exact h

/-- A file that is done takes no more steps. -/
theorem FileTask.Move.not_done {t : Tracker} {s : Scan} {f : SourceFile} {task task' : FileTask}
    (hm : task.Move t s f task') : Tracker.fileDone task = false := by
  cases hm <;> rfl

/-! ### Entries -/

/-- The list that the work on an entry is about to publish is whole, or the scan has been asked to
stop. Between the two steps of the last look the flag does not count any more; when the list is
about to be published, nothing does. -/
def EntryTask.Sound (t : Tracker) (s : Scan) (e : Entry) : EntryTask → Prop
  | .searching _ left m found =>
    ∃ tried, s.lookup.work e.key = tried ++ left ∧ (t.context s e).tryLines tried = (m, found)
  | .checking .flag found => found = t.found s e ∨ t.Stops s
  | .checking .number found => found = t.found s e ∨ t.generation ≠ s.generation
  | .publishing found => found = t.found s e
  | _ => True

theorem EntryTask.Move.sound {t : Tracker} {s : Scan} {e : Entry} {task task' : EntryTask}
    (hm : task.Move t s e task') (h : task.Sound t s e) : task'.Sound t s e := by
  cases hm with
  | lookedUp => exact ⟨[], rfl, rfl⟩
  | exhausted =>
    obtain ⟨tried, hw, htried⟩ := h
    refine Or.inl ?_
    rw [List.append_nil] at hw
    rw [Tracker.found, SearchContext.references, hw, htried]
  | lineUnflagged => exact h
  | cut hs => exact Or.inr hs
  | @tried file i left m m' found found' _ hx =>
    obtain ⟨tried, hw, htried⟩ := h
    refine ⟨tried ++ [(file, i)], by simp [hw], ?_⟩
    rw [SearchContext.tryLines_append_singleton, htried]
    exact hx
  | checkUnflagged hc =>
    exact h.imp_right fun hs => hs.resolve_left (by simp [hc])
  | cleared hn => exact h.resolve_right fun hne => hne hn
  | _ => trivial

/-- Whether the work on an entry is past publishing, or was given up. -/
def EntryTask.isPast : EntryTask → Bool
  | .counting _ _ => true
  | .visiting => true
  | .done => true
  | _ => false

/-- An entry that is done takes no more steps. -/
theorem EntryTask.Move.not_done {t : Tracker} {s : Scan} {e : Entry} {task task' : EntryTask}
    (hm : task.Move t s e task') : Tracker.entryDone task = false := by
  cases hm <;> rfl

/-- Without an attempt, an entry gets past publishing only when the scan has been asked to stop. -/
theorem EntryTask.Move.isPast {t : Tracker} {s : Scan} {e : Entry} {task task' : EntryTask}
    (hm : task.Move t s e task') (h : task'.isPast = true) : task.isPast = true ∨ t.Stops s := by
  cases hm with
  | dropped hs => exact Or.inr hs
  | givenUp hs => exact Or.inr hs
  | entryCounted => exact Or.inl rfl
  | referencesCounted => exact Or.inl rfl
  | entryTotalled => exact Or.inl rfl
  | referencesTotalled => exact Or.inl rfl
  | visited => exact Or.inl rfl
  | _ => cases h

end KeyTrace
