import KeyTrace.Proofs.Index.Lookup
import KeyTrace.Proofs.Rule.Reference
import KeyTrace.Proofs.Scan.Completion
import KeyTrace.Proofs.Scan.LineSearch
import KeyTrace.Proofs.Text.Token

/-!
# A completed scan finds what there is

Looking for lines in an index, with probes of keys for tokens, yields the lines that have the probe;
trying the rules whose positions are noted for an extension, compiled once and kept, yields the
first match. So the list that a completed scan has published on an entry is that of
`RuleSet.references`, with the lines of each file as they were in one of the trees there have been.

## Main definitions

* `FileIndex.whole`: the index of a file over given lines.
* `Scan.Reads`: a scan has indexed its files with given lines.

## Main results

* `SearchContext.references_work`: the references that whole indexes yield.
* `Tracker.references_of_completed`: the lists that a completed scan has published.
-/

namespace KeyTrace

namespace RuleSet

variable (s : RuleSet)

theorem ignoresCase_idsFor (extension : String) :
    FileIndex.ignoresCase s (s.idsFor extension) = s.ignoresCase extension := by
  rw [Bool.eq_iff_iff, FileIndex.ignoresCase, ignoresCase, List.any_eq_true, List.any_eq_true]
  constructor
  · rintro ⟨id, hid, hcase⟩
    obtain ⟨r, hr, ha⟩ := mem_idsFor.1 hid
    rw [hr] at hcase
    exact ⟨r, List.mem_of_getElem? hr, Bool.and_eq_true_iff.2 ⟨ha, hcase⟩⟩
  · rintro ⟨r, hr, hcase⟩
    obtain ⟨ha, hcase⟩ := Bool.and_eq_true_iff.1 hcase
    obtain ⟨id, hid⟩ := List.mem_iff_getElem?.1 hr
    have hid : s.rule? id = some r := hid
    refine ⟨id, mem_idsFor.2 ⟨r, hid, ha⟩, ?_⟩
    rw [hid]
    exact hcase

/-- The index points from a line to a key just when the line has the probe of the key. -/
theorem isHitBy_tokens {key : String} {p : List Char} (hp : Token.probe key.toList = some p)
    (extension line : String) :
    Candidate.isHitBy ⟨key, p⟩ (s.ignoresCase extension) (Token.tokens line.toList) =
      s.mentions extension key line := by
  have hlower := Token.lowerChars_of_mem (Token.probe_mem hp)
  simp only [mentions, hp]
  rw [Candidate.isHitBy, Bool.eq_iff_iff, List.any_eq_true, List.any_eq_true]
  refine exists_congr fun t => and_congr_right fun ht => ?_
  rw [Candidate.isHit, hlower, Token.lowerChars_of_mem ht]

theorem not_mentions_of_probe {key : String} (hp : Token.probe key.toList = none)
    (extension line : String) : s.mentions extension key line = false := by
  simp only [mentions, hp]

/-- The rules noted for an extension, compiled for an entry, yield the first match. -/
theorem firstMatch_idsFor (limit : Nat) (e : Entry) (extension line : String) :
    SearchContext.firstMatch ⟨s, e, limit⟩ (s.idsFor extension) line =
      s.firstMatch limit e extension line := by
  rw [SearchContext.firstMatch, findSome?_idsFor, firstMatch]
  have hfst : s.rules.filter (fun r => r.appliesTo extension) =
      (s.rules.zipIdx.filter fun p => p.1.appliesTo extension).map Prod.fst := by
    conv_lhs => rw [← List.zipIdx_map_fst 0 s.rules, List.filter_map]
    rfl
  rw [hfst, List.findSome?_map, ← List.head?_filterMap, ← List.head?_filterMap]
  refine congrArg List.head? (List.filterMap_congr fun p hp => ?_)
  obtain ⟨hmem, -⟩ := List.mem_filter.1 hp
  have hrule : s.rule? p.2 = some p.1 := List.mem_zipIdx_iff_getElem?.1 hmem
  rw [SearchContext.compiled, hrule]
  rfl

end RuleSet

namespace FileIndex

variable {rules : RuleSet} {candidates : Candidates} {f : SourceFile}

/-- The index of a file over given lines; they do not count for a file that no rule covers. -/
def whole (rules : RuleSet) (candidates : Candidates) (f : SourceFile) (lines : List String) :
    FileIndex :=
  if rules.covers f.extension then ofLines f rules candidates lines lines.length else unread f

theorem Full.eq_whole {trees : List FileTree} {x : FileIndex} (h : Full trees rules candidates f x)
    (hne : trees ≠ []) : ∃ tree ∈ trees, x = whole rules candidates f (f.readLines tree).1 := by
  have hcovers := rules.isEmpty_idsFor f.extension
  cases h with
  | unread hf =>
    obtain ⟨tree, htree⟩ := List.exists_mem_of_ne_nil _ hne
    rw [hf] at hcovers
    refine ⟨tree, htree, ?_⟩
    rw [whole, if_neg (by simpa using hcovers)]
  | @read tree hf htree =>
    rw [List.isEmpty_eq_false_iff.2 hf, eq_comm, Bool.not_eq_false'] at hcovers
    refine ⟨tree, htree, ?_⟩
    rw [whole, if_pos hcovers]

/-- Whole indexes of different files, each with the lines of one tree. -/
theorem Full.exists_content {trees : List FileTree} {files : List SourceFile}
    {indexes : List FileIndex} (h : List.Forall₂ (Full trees rules candidates) files indexes)
    (hne : trees ≠ []) (hnodup : files.Nodup) :
    ∃ content : SourceFile → FileTree, (∀ f, content f ∈ trees) ∧
      indexes = files.map fun f => whole rules candidates f (f.readLines (content f)).1 := by
  induction h with
  | nil =>
    obtain ⟨tree, htree⟩ := List.exists_mem_of_ne_nil _ hne
    exact ⟨fun _ => tree, fun _ => htree, rfl⟩
  | @cons f x files indexes hx _ ih =>
    obtain ⟨hf, hrest⟩ := List.nodup_cons.1 hnodup
    obtain ⟨content, hcontent, rfl⟩ := ih hrest
    obtain ⟨tree, htree, rfl⟩ := hx.eq_whole hne
    refine ⟨Function.update content f tree, fun f' => ?_, ?_⟩
    · by_cases heq : f' = f
      · rw [heq, Function.update_self]
        exact htree
      · rw [Function.update_of_ne heq]
        exact hcontent f'
    · rw [List.map_cons, Function.update_self]
      refine congrArg _ (List.map_congr_left fun f' hf' => ?_)
      have hne' : f' ≠ f := fun heq => hf (heq ▸ hf')
      rw [Function.update_of_ne hne']

/-- The lines of a whole index for a key are those that have the probe of the key. -/
theorem linesFor_eq (rules : RuleSet) (f : SourceFile) {keys : List String} {key : String}
    (hk : key ∈ keys) (lines : List String) :
    (ofLines f rules (Candidates.ofKeys keys) lines lines.length).linesFor key =
      lines.zipIdx.filterMap fun p =>
        if rules.mentions f.extension key p.1 then some p.2 else none := by
  rw [linesFor_ofLines f rules hk]
  cases hp : Token.probe key.toList with
  | none => simp [rules.not_mentions_of_probe hp]
  | some p =>
    dsimp only
    rw [hitLines, List.zipIdx_map, List.filterMap_map]
    refine List.filterMap_congr fun q _ => ?_
    have hhit := rules.isHitBy_tokens hp f.extension q.1
    rw [rules.ignoresCase_idsFor]
    simp only [Function.comp_apply, Prod.map, hhit, id]

/-- **The references in the lines that a whole index has for a key.** -/
theorem references_whole (limit : Nat) (e : Entry) {keys : List String} (hk : e.key ∈ keys)
    (lines : List String) :
    ((whole rules (Candidates.ofKeys keys) f lines).work e.key).filterMap
        (fun w => SearchContext.referenceOn ⟨rules, e, limit⟩ w.1 w.2) =
      rules.referencesIn limit e f lines := by
  rw [whole]
  split
  · rw [work, linesFor_eq rules f hk, List.filterMap_map, List.filterMap_filterMap,
      RuleSet.referencesIn]
    refine List.filterMap_congr fun p hp => ?_
    have hline : lines[p.2]? = some p.1 := List.mem_zipIdx_iff_getElem?.1 hp
    dsimp only
    split
    · change ((lines[p.2]?).bind _) = _
      rw [hline, Option.bind_some]
      change (SearchContext.firstMatch _ (rules.idsFor f.extension) p.1).map _ = _
      rw [RuleSet.firstMatch_idsFor]
      rfl
    · rfl
  · rename_i hcovers
    rw [RuleSet.referencesIn_of_not_covers (by simpa using hcovers)]
    rfl

theorem work_whole_of_not_isApplicable {lines : List String} {key : String}
    (h : (whole rules candidates f lines).isApplicable = false) :
    (whole rules candidates f lines).work key = [] := by
  have hcovers := rules.isEmpty_idsFor f.extension
  rw [whole] at h ⊢
  split
  · rename_i hf
    rw [if_pos hf, isApplicable, ofLines, hcovers, hf] at h
    cases h
  · rfl

end FileIndex

/-- **The references that whole indexes yield**, file by file. -/
theorem SearchContext.references_work (rules : RuleSet) (limit : Nat) (e : Entry)
    {keys : List String} (hk : e.key ∈ keys) (linesOf : SourceFile → List String)
    (files : List SourceFile) :
    references ⟨rules, e, limit⟩ ((Lookup.ofIndexes (files.map fun f =>
        FileIndex.whole rules (Candidates.ofKeys keys) f (linesOf f))).work e.key) =
      rules.references limit e linesOf files := by
  rw [references_eq, Lookup.work_ofIndexes, List.flatMap_map, List.filterMap_flatMap,
    RuleSet.references]
  · exact List.flatMap_congr fun f _ => FileIndex.references_whole limit e hk (linesOf f)
  · intro x hx hnot
    obtain ⟨f, -, rfl⟩ := List.mem_map.1 hx
    exact FileIndex.work_whole_of_not_isApplicable hnot

namespace Scan

variable {trees : List FileTree} {entries : List Entry} {s : Scan} {id : Nat} {e : Entry}

theorem mem_keys (hid : id ∈ s.entries) (he : entries[id]? = some e) : e.key ∈ s.keys entries :=
  List.mem_filterMap.2 ⟨id, hid, by rw [he]; rfl⟩

/-- The lookup of a scan is one over whole indexes of its files, each with the given lines. -/
def Reads (entries : List Entry) (linesOf : SourceFile → List String) (s : Scan) : Prop :=
  s.lookup = Lookup.ofIndexes (s.files.map fun f =>
    FileIndex.whole s.rules (Candidates.ofKeys (s.keys entries)) f (linesOf f))

/-- The lines of each file are as they are in one of the trees. -/
theorem LookupFull.exists_reads (h : s.LookupFull trees entries) (hne : trees ≠ [])
    (hnodup : s.files.Nodup) :
    ∃ content : SourceFile → FileTree, (∀ f, content f ∈ trees) ∧
      s.Reads entries fun f => (f.readLines (content f)).1 := by
  obtain ⟨hcandidates, indexes, hfull, hlookup⟩ := h
  obtain ⟨content, hcontent, rfl⟩ := FileIndex.Full.exists_content hfull hne hnodup
  refine ⟨content, hcontent, ?_⟩
  rw [Reads, hlookup, hcandidates]

/-- The lookup of a scan yields the references that there are to the entries of the scan. -/
theorem Reads.references {linesOf : SourceFile → List String} (h : s.Reads entries linesOf)
    (limit : Nat) (hid : id ∈ s.entries) (he : entries[id]? = some e) :
    SearchContext.references ⟨s.rules, e, limit⟩ (s.lookup.work e.key) =
      s.rules.references limit e linesOf s.files := by
  rw [h]
  exact SearchContext.references_work s.rules limit e (mem_keys hid he) linesOf s.files

end Scan

namespace Tracker

variable (settings : ScanSettings) (entries : List Entry) (files : FileTree)
  (actions : List Action)

/-- A list that a scan tries to publish is that of the references there are in the lines read. -/
theorem references_of_reads {g : Nat} {s : Scan} {linesOf : SourceFile → List String}
    (hs : ((initial settings entries files).run actions).scans[g]? = some s)
    (hreads : s.Reads entries linesOf) {p : Attempt}
    (hp : p ∈ (initial settings entries files).attempts actions) (hscan : p.scan = g) :
    ∃ e, s.entries[p.task]? = some p.entry ∧ entries[p.entry]? = some e ∧
      p.references = s.rules.references settings.patternSizeLimit e linesOf s.files := by
  obtain ⟨s', e, hs', hid, he, -, -, hfound⟩ :=
    (inv_run settings entries files actions).attempts p hp
  obtain rfl : s = s' := Option.some.inj (hs.symm.trans (hscan ▸ hs'))
  rw [entries_run] at he
  rw [found, context, settings_run] at hfound
  exact ⟨e, hid, he, hfound.trans (hreads.references _ (List.mem_of_getElem? hid) he)⟩

/-- The lists that get accepted from a completed scan are those of the references there are. -/
theorem references_of_accepted {g : Nat} {s : Scan} {m : Summary}
    (hs : ((initial settings entries files).run actions).scans[g]? = some s)
    (ho : s.outcome = some (.completed m)) :
    ∃ content : SourceFile → FileTree, (∀ f, content f ∈ treesOf files actions) ∧
      ∀ p ∈ (initial settings entries files).attempts actions, p.scan = g →
        ∃ e, s.entries[p.task]? = some p.entry ∧ entries[p.entry]? = some e ∧
          p.references = s.rules.references settings.patternSizeLimit e
            (fun f => (f.readLines (content f)).1) s.files := by
  obtain ⟨hcomplete, -⟩ := complete_of_outcome settings entries files actions hs ho
  obtain ⟨r, -, -, -, hfiles⟩ := request_of_scan settings entries files actions hs
  have hnodup : s.files.Nodup := hfiles ▸ SourceFile.nodup_distinct settings r.files
  obtain ⟨content, hcontent, hreads⟩ :=
    hcomplete.lookup.exists_reads (List.cons_ne_nil _ _) hnodup
  exact ⟨content, hcontent, fun p hp hscan =>
    references_of_reads settings entries files actions hs hreads hp hscan⟩

/-- **What a completed scan has published.** It went through the files it was asked for that are to
be searched, in ascending order and each once. The list it published on an entry has the references
there are in the lines of these files: it is ascending by file and line, has at most one reference
for each line, and the segments of each make up the line. Unless another scan has published on the
entry, this is the list the entry shows. -/
theorem references_of_completed {g : Nat} {s : Scan} {m : Summary}
    (hs : ((initial settings entries files).run actions).scans[g]? = some s)
    (ho : s.outcome = some (.completed m)) :
    (∃ r ∈ actions.filterMap Action.request?, s.entries = r.entries ∧ s.rules = r.rules ∧
      SourceFile.IsDistinct settings r.files s.files) ∧
    ∃ content : SourceFile → FileTree, (∀ f, content f ∈ treesOf files actions) ∧
      (∀ k < s.entries.length, ∃ p ∈ (initial settings entries files).attempts actions,
        p.accepted = true ∧ p.scan = g ∧ p.task = k) ∧
      (∀ p ∈ (initial settings entries files).attempts actions, p.scan = g →
        ∃ e, s.entries[p.task]? = some p.entry ∧ entries[p.entry]? = some e ∧
          p.references = s.rules.references settings.patternSizeLimit e
            (fun f => (f.readLines (content f)).1) s.files ∧
          p.references.Pairwise Reference.Before ∧
          (p.references.map fun r => (r.file, r.lineNumber)).Nodup ∧
          ∀ r ∈ p.references, r.file ∈ s.files ∧ 1 ≤ r.lineNumber ∧
            (r.file.readLines (content r.file)).1[r.lineNumber - 1]? = some r.segments.line) ∧
      ∀ id ∈ s.entries, (∀ p ∈ (initial settings entries files).attempts actions,
          p.accepted = true → p.entry = id → p.scan = g) →
        ∃ e, entries[id]? = some e ∧ ((initial settings entries files).run actions).list? id =
          some (s.rules.references settings.patternSizeLimit e
            (fun f => (f.readLines (content f)).1) s.files) := by
  obtain ⟨hcomplete, -⟩ := complete_of_outcome settings entries files actions hs ho
  obtain ⟨r, hr, hentries, hrules, hfiles⟩ := request_of_scan settings entries files actions hs
  have hdistinct : SourceFile.IsDistinct settings r.files s.files :=
    hfiles ▸ SourceFile.isDistinct_distinct settings r.files
  obtain ⟨content, hcontent, hrefs⟩ := references_of_accepted settings entries files actions hs ho
  refine ⟨⟨r, hr, hentries, hrules, hdistinct⟩, content, hcontent, hcomplete.published,
    fun p hp hscan => ?_, fun id hid honly => ?_⟩
  · obtain ⟨e, hid, he, hp⟩ := hrefs p hp hscan
    refine ⟨e, hid, he, hp, ?_, ?_, ?_⟩
    · rw [hp]
      exact RuleSet.pairwise_references hdistinct.ascending
    · rw [hp]
      exact RuleSet.nodup_references hdistinct.ascending
    · intro r hr
      exact RuleSet.line_of_mem_references (hp ▸ hr)
  · obtain ⟨k, hk⟩ := List.mem_iff_getElem?.1 hid
    obtain ⟨p, hp, hacc, hscan, htask⟩ := hcomplete.published k (List.getElem?_eq_some_iff.1 hk).1
    obtain ⟨-, hpid, -⟩ := hrefs p hp hscan
    obtain rfl : id = p.entry := Option.some.inj (hk.symm.trans (htask ▸ hpid))
    obtain ⟨q, hq, hqacc, hqentry, hpublished⟩ := exists_published? hp hacc
    obtain ⟨e, -, he, hqrefs⟩ := hrefs q hq (honly q hq hqacc hqentry)
    refine ⟨e, hqentry ▸ he, ?_⟩
    rw [list?_run, hpublished, hqrefs]
    rfl

/-- What the scan of three files publishes on its two entries: the first rule makes the first
reference, and the second one, which looks for the key as plain text, makes the others. -/
def threeFilesLists : List (Nat × List Reference) :=
  [(0, [⟨SourceFile.ofPath "f.t", 1, ["", "a", "=b"]⟩,
      ⟨SourceFile.ofPath "f.t", 2, ["", "a", ""]⟩]),
    (1, [⟨SourceFile.ofPath "f.t", 1, ["a=", "b", ""]⟩,
      ⟨SourceFile.ofPath "g.t", 1, ["", "b", ""]⟩])]

theorem attempts_threeFilesRun :
    ((initial .standard [⟨"", "a"⟩, ⟨"", "b"⟩] threeFiles).attempts threeFilesRun).map
      (fun p => (p.scan, p.entry, p.references)) = threeFilesLists.map fun x => (0, x) := by
  decide +kernel

/-- These lists are those of the references there are, in ascending order. -/
theorem references_of_threeFilesRun :
    ∃ s, threeFilesDone.scans[0]? = some s ∧ s.outcome = some (.completed ⟨2, 1, 2, 4⟩) ∧
      ∃ content : SourceFile → FileTree, (∀ f, content f = threeFiles) ∧
        ∀ x ∈ threeFilesLists, ∃ e, [⟨"", "a"⟩, ⟨"", "b"⟩][x.1]? = some e ∧
          x.2 = s.rules.references ScanSettings.standard.patternSizeLimit e
            (fun f => (f.readLines (content f)).1) s.files ∧
          x.2.Pairwise Reference.Before := by
  obtain ⟨s, hs, ho⟩ := Option.map_eq_some_iff.1 outcome_threeFilesRun
  obtain ⟨-, content, hcontent, -, hrefs, -⟩ :=
    references_of_completed .standard _ threeFiles threeFilesRun hs ho
  refine ⟨s, hs, ho, content, fun f => List.mem_singleton.1 (hcontent f), fun x hx => ?_⟩
  have hmem : (0, x) ∈ ((initial .standard [⟨"", "a"⟩, ⟨"", "b"⟩] threeFiles).attempts
      threeFilesRun).map fun p => (p.scan, p.entry, p.references) := by
    rw [attempts_threeFilesRun]
    exact List.mem_map_of_mem hx
  obtain ⟨p, hp, heq⟩ := List.mem_map.1 hmem
  obtain ⟨hscan, rfl⟩ := Prod.mk.inj heq
  obtain ⟨e, -, he, hlist, hpairwise, -⟩ := hrefs p hp hscan
  exact ⟨e, he, hlist, hpairwise⟩

end Tracker

end KeyTrace
