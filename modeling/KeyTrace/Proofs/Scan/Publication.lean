import KeyTrace.Proofs.Scan.Reachable

/-!
# What scans publish

A scan publishes whole lists only, over whole indexes of all of its files, however its steps and
those of other scans and callers follow each other. A list that was published stays until another
one is, and an entry that has been claimed for a scan is out of reach for earlier ones.

Contents of files are those of some tree there has been so far: files may change while a scan reads
them one after the other.

## Main definitions

* `Tracker.treesOf`: the file trees of a run.

## Main results

* `Tracker.publication`: what scans publish, what stays and what is out of reach.
-/

namespace KeyTrace

namespace Tracker

/-- The file trees of a run, from the first one on. -/
def treesOf (files : FileTree) (actions : List Action) : List FileTree :=
  files :: actions.filterMap Action.tree?

variable (settings : ScanSettings) (entries : List Entry) (files : FileTree)
  (actions : List Action)

/-- What has happened in a run from the start. -/
theorem ledger_run : Ledger.run ⟨[files], [], []⟩ (initial settings entries files) actions =
    ⟨treesOf files actions, actions.filterMap Action.request?,
      (initial settings entries files).attempts actions⟩ := by
  refine Ledger.ext ?_ ?_ ?_
  · rw [Ledger.run_trees]
    rfl
  · rw [Ledger.run_requests]
    rfl
  · rw [Ledger.run_attempts]
    rfl

/-- The invariant holds after every run from the start. -/
theorem inv_run :
    TrackerInv ⟨treesOf files actions, actions.filterMap Action.request?,
      (initial settings entries files).attempts actions⟩
      ((initial settings entries files).run actions) := by
  have hrun := (TrackerInv.initial settings entries files).run actions
  rwa [ledger_run] at hrun

theorem entries_run (t : Tracker) : (t.run actions).entries = t.entries := by
  induction actions generalizing t with
  | nil => rfl
  | cons a rest ih => rw [run_cons, ih, (t.grows_step a).entries]

theorem settings_run (t : Tracker) : (t.run actions).settings = t.settings := by
  induction actions generalizing t with
  | nil => rfl
  | cons a rest ih => rw [run_cons, ih, (t.grows_step a).settings]

/-- Marking an entry claims its slot: no later scan can have done so before. -/
theorem generation_of_marked {l : Ledger} {t : Tracker} (h : TrackerInv l t) {i id n : Nat}
    {r : ScanRequest} {rest : List Nat} (hc : t.calls[i]? = some (.marking r n (id :: rest)))
    {slot : Slot} (hslot : (t.step (.call i)).slots[id]? = some slot) : slot.generation = n := by
  obtain ⟨-, -, -, rfl, -⟩ := h.calls.sound hc
  have hs : (t.step (.call i)).slots = t.slots.modify id fun slot => slot.mark t.generation := by
    rw [step, hc]
    rfl
  rw [hs, List.getElem?_modify_eq] at hslot
  obtain ⟨old, hold, rfl⟩ := Option.map_eq_some_iff.1 hslot
  simp [Slot.mark, h.slots.bound hold]

/-- **What scans publish.** In any run, each list that a scan gets accepted is all there is to find
for the entry in whole indexes of all the scan's files. From then on, the list of an entry is the
one that was published last. After an entry has been marked for scan number `n`, only steps that
are taken for this scan or a later one change its slot. -/
theorem publication :
    (∀ p ∈ (initial settings entries files).attempts actions, p.accepted = true →
      ∃ s e, ((initial settings entries files).run actions).scans[p.scan]? = some s ∧
        (∃ r ∈ actions.filterMap Action.request?, s.entries = r.entries ∧ s.rules = r.rules ∧
          s.files = SourceFile.distinct settings r.files) ∧
        s.entries[p.task]? = some p.entry ∧ entries[p.entry]? = some e ∧
        s.LookupFull (treesOf files actions) entries ∧
        p.references =
          SearchContext.references ⟨s.rules, e, settings.patternSizeLimit⟩
            (s.lookup.work e.key)) ∧
    (∀ id more, ((initial settings entries files).run (actions ++ more)).list? id =
      (published? id (((initial settings entries files).run actions).attempts more)).or
        (((initial settings entries files).run actions).list? id)) ∧
    (∀ i r n id rest,
      ((initial settings entries files).run actions).calls[i]? =
        some (.marking r n (id :: rest)) →
      ∀ later a t', t' = (initial settings entries files).run (actions ++ .call i :: later) →
        (t'.step a).slots[id]? ≠ t'.slots[id]? →
        ∃ m, t'.author? a = some m ∧ n ≤ m) := by
  have hinv := inv_run settings entries files actions
  have hsettings := settings_run actions (initial settings entries files)
  have hentries := entries_run actions (initial settings entries files)
  refine ⟨fun p hp _ => ?_, fun id more => ?_, fun i r n id rest hc later a t' ht' hne => ?_⟩
  · obtain ⟨s, e, hs, hid, he, -, hlook, hfound⟩ := hinv.attempts p hp
    obtain ⟨r, hr, hreq⟩ := (hinv.scans hs).core.request
    rw [hsettings] at hreq
    rw [hentries] at he hlook
    rw [found, context, hsettings] at hfound
    exact ⟨s, e, hs, ⟨r, hr, hreq⟩, hid, he, hlook, hfound⟩
  · rw [run_append, list?_run]
  · rw [run_append, run_cons] at ht'
    subst ht'
    exact author_of_slots_ne (fun slot hslot => (generation_of_marked hinv hc hslot).ge) later hne

end Tracker

end KeyTrace
