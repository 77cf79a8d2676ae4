import KeyTrace.Proofs.Rule.Index
import KeyTrace.Proofs.Scan.Publication

/-!
# What a completed scan has done

A scan says that it is complete only when nothing was left out: no file was dropped or cut short, no
entry given up and no list refused. The counts in its summary are the numbers of what it worked on.

## Main results

* `Tracker.completion`: what it means that a scan is complete.
-/

namespace KeyTrace

/-- Whether a whole index is of use can be told from the file's extension. -/
theorem FileIndex.Full.isApplicable {trees : List FileTree} {rules : RuleSet}
    {candidates : Candidates} {f : SourceFile} {x : FileIndex}
    (h : Full trees rules candidates f x) : x.isApplicable = rules.covers f.extension := by
  have hcovers := rules.isEmpty_idsFor f.extension
  cases h with
  | unread hf =>
    rw [hf] at hcovers
    simpa [FileIndex.isApplicable, FileIndex.unread] using hcovers
  | read hf => simp [FileIndex.isApplicable, FileIndex.ofLines, hcovers]

/-- The lookup over whole indexes has one for each file that some rule covers. -/
theorem fileCount_ofIndexes {trees : List FileTree} {rules : RuleSet} {candidates : Candidates}
    {files : List SourceFile} {indexes : List FileIndex}
    (h : List.Forall₂ (FileIndex.Full trees rules candidates) files indexes) :
    (Lookup.ofIndexes indexes).fileCount =
      (files.filter fun f => rules.covers f.extension).length := by
  rw [Lookup.fileCount, Lookup.ofIndexes]
  induction h with
  | nil => rfl
  | cons hx _ ih =>
    simp only [List.filter_cons, hx.isApplicable]
    split <;> simp [ih]

namespace Tracker

/-- A slot is not left pending with the number of a scan that is complete. -/
theorem generation_ne_of_complete {l l' : Ledger} {t t' : Tracker} {g : Nat} {s s' : Scan}
    (h : TrackerInv l t) (h' : TrackerInv l' t') (hl : l.attempts ⊆ l'.attempts)
    (hs : t.scans[g]? = some s) (hs' : t'.scans[g]? = some s') (hf : s'.entries = s.entries)
    (hc : s.Complete l t.entries g) {id : Nat} {slot : Slot} (hslot : t'.slots[id]? = some slot)
    (hp : slot.pending = true) : slot.generation ≠ s.generation := by
  rw [(h.scans hs).core.number]
  intro hg
  have hlt := (List.getElem?_eq_some_iff.1 hs').1
  rcases h'.slots.claimed hslot with hzero | hclaims
  · omega
  · rw [hg] at hclaims
    generalize hn : g + 1 = n at hclaims
    cases hclaims with
    | scan hs'' hid =>
      obtain rfl := Nat.succ.inj hn
      obtain rfl := Option.some.inj (hs'.symm.trans hs'')
      obtain ⟨k, hk⟩ := List.mem_iff_getElem?.1 (hf ▸ hid)
      obtain ⟨p, hpa, hacc, hscan, htask⟩ := hc.published k (List.getElem?_eq_some_iff.1 hk).1
      obtain ⟨s₀, _, hs₀, hentry, -⟩ := h.attempts p hpa
      rw [hscan, hs] at hs₀
      obtain rfl := Option.some.inj hs₀
      obtain rfl : p.entry = id := Option.some.inj (hentry.symm.trans (htask ▸ hk))
      exact h'.slots.settled p (hl hpa) hacc slot hslot hp (hscan ▸ hg)
    | call hcall =>
      -- The scan whose entries are just being marked is not there yet.
      obtain ⟨-, hgen, -, hmark, -⟩ := h'.calls.sound hcall
      omega

variable (settings : ScanSettings) (entries : List Entry) (files : FileTree)
  (actions : List Action)

/-- A scan that has handed over the outcome of being complete has done all its work. -/
theorem complete_of_outcome {g : Nat} {s : Scan} {m : Summary}
    (hs : ((initial settings entries files).run actions).scans[g]? = some s)
    (ho : s.outcome = some (.completed m)) :
    s.Complete ⟨treesOf files actions, actions.filterMap Action.request?,
      (initial settings entries files).attempts actions⟩ entries g ∧ m = summaryOf s := by
  have hscan := (inv_run settings entries files actions).scans hs
  have hended : s.stage = .ended := hscan.outcome.resolve_right (by simp [ho])
  have hstage := hscan.stage
  rw [hended] at hstage
  have hcomplete := hstage m ho
  rwa [entries_run] at hcomplete

/-- What a scan was asked for. -/
theorem request_of_scan {g : Nat} {s : Scan}
    (hs : ((initial settings entries files).run actions).scans[g]? = some s) :
    ∃ r ∈ actions.filterMap Action.request?, s.entries = r.entries ∧ s.rules = r.rules ∧
      s.files = SourceFile.distinct settings r.files := by
  have hrequest := ((inv_run settings entries files actions).scans hs).core.request
  rwa [settings_run] at hrequest

/-- **What it means that a scan is complete.** All its files were read and indexed to the end, and a
list was published for each of its entries; none was refused. The summary counts just that. No slot
is left pending with the number of the scan, then or later. -/
theorem completion {g : Nat} {s : Scan} {m : Summary}
    (hs : ((initial settings entries files).run actions).scans[g]? = some s)
    (ho : s.outcome = some (.completed m)) :
    (∃ r ∈ actions.filterMap Action.request?, s.entries = r.entries ∧ s.rules = r.rules ∧
      s.files = SourceFile.distinct settings r.files) ∧
    s.LookupFull (treesOf files actions) entries ∧
    (∀ k < s.entries.length, ∃ p ∈ (initial settings entries files).attempts actions,
      p.accepted = true ∧ p.scan = g ∧ p.task = k) ∧
    (∀ p ∈ (initial settings entries files).attempts actions, p.scan = g → p.accepted = true) ∧
    m.entriesMatched = s.entries.length ∧
    m.filesIndexed = (s.files.filter fun f => s.rules.covers f.extension).length ∧
    m.filesIndexed + m.filesSkipped = s.files.length ∧
    m.referencesFound =
      ((Attempt.publishedBy g ((initial settings entries files).attempts actions)).map
        fun p => p.references.length).sum ∧
    s.progress.visited = s.progress.total ∧
    s.progress.total = s.entries.length + s.files.length ∧
    ∀ (more : List Action) (id : Nat) (slot : Slot),
      ((initial settings entries files).run (actions ++ more)).slots[id]? = some slot →
        slot.pending = true → slot.generation ≠ s.generation := by
  have hinv := inv_run settings entries files actions
  have hscan := hinv.scans hs
  obtain ⟨hcomplete, rfl⟩ := complete_of_outcome settings entries files actions hs ho
  obtain ⟨-, indexes, hfull, hlookup⟩ := hcomplete.lookup
  have hindexed := fileCount_ofIndexes hfull
  have hle := List.length_filter_le (fun f => s.rules.covers f.extension) s.files
  refine ⟨request_of_scan settings entries files actions hs, hcomplete.lookup,
    hcomplete.published, hcomplete.noneRefused, hcomplete.entriesMatched, ?_, ?_, ?_,
    hcomplete.visited, hscan.core.total, fun more id slot hslot hp => ?_⟩
  · rw [summaryOf, hlookup, hindexed]
  · rw [summaryOf, hlookup, hindexed]
    exact Nat.add_sub_of_le hle
  · have hsummed := hscan.core.summed
    rw [ScanCore.sum_weight_entries hcomplete.entriesOver] at hsummed
    exact hsummed
  · obtain ⟨s', hs', hentries'⟩ := hinv.entries_of_run more hs
    have hentries := entries_run actions (initial settings entries files)
    change Scan.Complete _ (initial settings entries files).entries g s at hcomplete
    rw [← hentries] at hcomplete
    refine generation_ne_of_complete hinv (inv_run settings entries files (actions ++ more)) ?_ hs
      ?_ hentries' hcomplete hslot hp
    · rw [attempts_append]
      exact List.subset_append_left _ _
    · rwa [run_append]

/-- The steps of a scan that nothing interrupts, from its beginning to its end. The files and the
entries are worked on one after the other, each in at most `n` steps. -/
def aloneRun (r : ScanRequest) (n : Nat) : List Action :=
  [.begins r] ++ List.replicate (r.entries.length + 3) (.call 0) ++ [.thread 0] ++
    (List.range r.files.length).flatMap (fun k => List.replicate n (.file 0 k)) ++
    List.replicate 6 (.thread 0) ++
    (List.range r.entries.length).flatMap (fun k => List.replicate n (.entry 0 k)) ++
    List.replicate 8 (.thread 0)

/-- Three files, one of them with two lines. -/
def threeFiles : FileTree :=
  ⟨[(["f.t"], .file (Utf8.ofText "a=b\na")), (["g.t"], .file (Utf8.ofText "b")),
    (["h.u"], .file (Utf8.ofText "a"))], []⟩

/-- A scan for two entries in these files, which are not given in order, and one of them twice. The
rules cover two of them. -/
def threeFilesRun : List Action :=
  aloneRun ⟨[0, 1], ["h.u", "g.t", "f.t", "f.t"].map SourceFile.ofPath,
    RuleSet.ofRules [⟨[".t"], true, some "($Key)=", none⟩, ⟨[".t"], true, none, none⟩]⟩ 20

/-- The tracker after that scan. -/
def threeFilesDone : Tracker :=
  (initial .standard [⟨"", "a"⟩, ⟨"", "b"⟩] threeFiles).run threeFilesRun

theorem outcome_threeFilesRun :
    (threeFilesDone.scans[0]?).map Scan.outcome = some (some (.completed ⟨2, 1, 2, 4⟩)) := by
  decide +kernel

/-- The scan completes with four references to two entries, in two of the three files. -/
theorem completion_of_threeFilesRun :
    ∃ s, threeFilesDone.scans[0]? = some s ∧ s.outcome = some (.completed ⟨2, 1, 2, 4⟩) ∧
      s.entries.length = 2 ∧ s.files.length = 3 ∧
      (s.files.filter fun f => s.rules.covers f.extension).length = 2 ∧
      ((Attempt.publishedBy 0 ((initial .standard [⟨"", "a"⟩, ⟨"", "b"⟩] threeFiles).attempts
        threeFilesRun)).map fun p => p.references.length).sum = 4 ∧
      s.progress.visited = 5 ∧ s.progress.total = 5 ∧
      ∀ (id : Nat) (slot : Slot), threeFilesDone.slots[id]? = some slot → slot.pending = true →
        slot.generation ≠ s.generation := by
  obtain ⟨s, hs, ho⟩ := Option.map_eq_some_iff.1 outcome_threeFilesRun
  obtain ⟨-, -, -, -, hmatched, hindexed, hfiles, hfound, hvisited, htotal, hslots⟩ :=
    completion _ _ _ threeFilesRun hs ho
  have htotal : s.progress.total = 2 + 3 :=
    htotal.trans (congrArg₂ (· + ·) hmatched.symm hfiles.symm)
  refine ⟨s, hs, ho, hmatched.symm, hfiles.symm, hindexed.symm, hfound.symm,
    hvisited.trans htotal, htotal, fun id slot hslot => hslots [] id slot ?_⟩
  rwa [List.append_nil]

/-- A scan of the line `a` with a rule that looks for the key `a` as plain text. -/
def plainRun : List Action :=
  [Action.begins ⟨[0], [SourceFile.ofPath "f.t"], RuleSet.ofRules [⟨[".t"], true, none, none⟩]⟩] ++
    List.replicate 4 (Action.call 0) ++ [Action.thread 0] ++ List.replicate 9 (Action.file 0 0) ++
    List.replicate 6 (Action.thread 0) ++ List.replicate 16 (Action.entry 0 0) ++
    List.replicate 8 (Action.thread 0)

theorem outcome_plainRun :
    (((initial .standard [⟨"", "a"⟩] ⟨[(["f.t"], .file [97])], []⟩).run
      plainRun).scans[0]?).map Scan.outcome = some (some (.completed ⟨1, 0, 1, 1⟩)) := by
  decide +kernel

end Tracker

end KeyTrace
