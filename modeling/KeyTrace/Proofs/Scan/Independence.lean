import KeyTrace.Proofs.Path
import KeyTrace.Proofs.Scan.Reference

/-!
# What a published list depends on

A scan works on all its entries and files at the same time, with tables for the keys of all entries
and a lookup over all files. None of this shows in the list of an entry: two scans publish the same
list on entries with the same container and key if they have the same rules and the same files,
whatever else they were asked for and in whatever order their work was done.

Files are the same if their paths are equal, and the files of two scans may be spelled in different
ways. The list then names them in different ways too. What is in a file could depend on how it is
spelled: a slash at the end asks for a folder, and of several spellings the first one in the list is
read.

## Main definitions

* `SourceFile.SameFiles`: lists of the same files, in any order and spelling.
* `Reference.Alike`: the same references to the same files.
* `Scan.IsFor`: the scan of a request.

## Main results

* `SourceFile.forall₂_distinct`: the files to search are the same, in the same order.
* `Tracker.references_independent`: two completed scans publish the same list on an entry.
* `Tracker.references_respelled`: a list can depend on which spelling comes first.
-/

namespace KeyTrace

namespace SourceFile

/-! ### Equal files -/

variable {f f' : SourceFile}

theorem extension_eq_of_parts (h : f.path.parts = f'.path.parts) : f.extension = f'.extension := by
  rw [f.extension_eq, f'.extension_eq, Path.normalExtension_eq_of_parts h]

/-- Files are equal if their paths have the same parts. -/
theorem compare_eq_iff : compare f f' = .eq ↔ f.path.parts = f'.path.parts := by
  rw [compare, Ordering.then_eq_eq, Path.compare_eq_iff, and_iff_left_iff_imp]
  intro h
  rw [extension_eq_of_parts h]
  exact Std.ReflCmp.compare_self

theorem isScannable_eq_of_parts (h : f.path.parts = f'.path.parts) (settings : ScanSettings) :
    f.isScannable settings = f'.isScannable settings := by
  rw [isScannable, isScannable, isDesigner, isDesigner, isResource, isResource,
    Path.stem?_eq_of_parts h, extension_eq_of_parts h]

/-- Equal files have the same lines, in whatever trees the content is the same. -/
theorem fst_readLines_eq_of_parts {t t' : FileTree} (h : f.path.parts = f'.path.parts)
    (hspelled : f.path = f'.path ∨ f.path.IsPlain ∧ f'.path.IsPlain)
    (hread : t.read f.path = t'.read f.path) : (f.readLines t).1 = (f'.readLines t').1 := by
  have hcontent : t.read f.path = t'.read f'.path := by
    rcases hspelled with hpath | ⟨hplain, hplain'⟩
    · rw [hread, hpath]
    · rw [hread, t'.read_eq_of_parts h hplain hplain']
  rw [readLines, readLines, hcontent]
  cases t'.read f'.path with
  | ok content => rfl
  | error e => rfl

/-- Two lists have the same files, in any order and spelling and any number of times. -/
structure SameFiles (files files' : List SourceFile) : Prop where
  left : ∀ f ∈ files, ∃ f' ∈ files', f.path.parts = f'.path.parts
  right : ∀ f' ∈ files', ∃ f ∈ files, f.path.parts = f'.path.parts

theorem exists_mem_distinct_of_parts {settings : ScanSettings} {files files' : List SourceFile}
    (h : ∀ f ∈ files, ∃ f' ∈ files', f.path.parts = f'.path.parts) :
    ∀ f ∈ distinct settings files, ∃ f' ∈ distinct settings files', compare f f' = .eq := by
  intro f hf
  obtain ⟨hmem, hscan⟩ := mem_of_mem_distinct hf
  obtain ⟨f', hf', hparts⟩ := h f hmem
  rw [isScannable_eq_of_parts hparts] at hscan
  obtain ⟨f'', hf'', heq⟩ := exists_mem_distinct hf' hscan
  exact ⟨f'', hf'', compare_eq_iff.2 (hparts.trans (compare_eq_iff.1 heq))⟩

/-- **The files to search are the same**, in the same order. -/
theorem forall₂_distinct (settings : ScanSettings) {files files' : List SourceFile}
    (h : SameFiles files files') :
    List.Forall₂ (fun f f' => f.path.parts = f'.path.parts) (distinct settings files)
      (distinct settings files') := by
  have hright : ∀ f' ∈ files', ∃ f ∈ files, f'.path.parts = f.path.parts := by
    intro f' hf'
    obtain ⟨f, hf, hparts⟩ := h.right f' hf'
    exact ⟨f, hf, hparts.symm⟩
  refine (Ascending.forall₂_of_pairwise (pairwise_distinct settings files)
    (pairwise_distinct settings files') (exists_mem_distinct_of_parts h.left)
    fun f' hf' => ?_).imp fun f f' => compare_eq_iff.1
  obtain ⟨f, hf, heq⟩ := exists_mem_distinct_of_parts hright f' hf'
  exact ⟨f, hf, Std.OrientedCmp.eq_symm heq⟩

end SourceFile

/-! ### References to equal files -/

/-- The same reference to the same file, which may be spelled in another way. -/
structure Reference.Alike (a b : Reference) : Prop where
  file : a.file.path.parts = b.file.path.parts
  lineNumber : a.lineNumber = b.lineNumber
  segments : a.segments = b.segments

namespace RuleSet

variable (s : RuleSet) (limit : Nat) (e : Entry)

/-- What is found in the lines of a file, named after the file. -/
theorem referencesIn_eq_map (f : SourceFile) (lines : List String) :
    s.referencesIn limit e f lines =
      (lines.zipIdx.filterMap fun q =>
        if s.mentions f.extension e.key q.1 then
          (s.firstMatch limit e f.extension q.1).map fun segments => (q.2 + 1, segments)
        else none).map fun p => ⟨f, p.1, p.2⟩ := by
  rw [referencesIn, List.map_filterMap]
  refine List.filterMap_congr fun q _ => ?_
  dsimp only
  split
  · rw [Option.map_map]
    rfl
  · rfl

theorem forall₂_referencesIn {f f' : SourceFile} (h : f.path.parts = f'.path.parts)
    (lines : List String) :
    List.Forall₂ Reference.Alike (s.referencesIn limit e f lines)
      (s.referencesIn limit e f' lines) := by
  rw [referencesIn_eq_map, referencesIn_eq_map, SourceFile.extension_eq_of_parts h,
    List.forall₂_map_left_iff, List.forall₂_map_right_iff, List.forall₂_same]
  intro p _
  exact ⟨h, rfl, rfl⟩

/-- The same files with the same lines have the same references. -/
theorem forall₂_references {linesOf linesOf' : SourceFile → List String}
    {files files' : List SourceFile}
    (h : List.Forall₂ (fun f f' => f.path.parts = f'.path.parts) files files')
    (hlines : ∀ f ∈ files, ∀ f' ∈ files', f.path.parts = f'.path.parts → linesOf f = linesOf' f') :
    List.Forall₂ Reference.Alike (s.references limit e linesOf files)
      (s.references limit e linesOf' files') := by
  induction h with
  | nil => exact .nil
  | @cons f f' files files' hf _ ih =>
    have hhead := hlines f (List.mem_cons_self ..) f' (List.mem_cons_self ..) hf
    have htail := ih fun g hg g' hg' =>
      hlines g (List.mem_cons_of_mem f hg) g' (List.mem_cons_of_mem f' hg')
    rw [references, references, List.flatMap_cons, List.flatMap_cons, hhead]
    exact List.rel_append (s.forall₂_referencesIn limit e hf _) htail

end RuleSet

/-- The scan of a request. -/
structure Scan.IsFor (settings : ScanSettings) (s : Scan) (r : ScanRequest) : Prop where
  entries : s.entries = r.entries
  rules : s.rules = r.rules
  files : s.files = SourceFile.distinct settings r.files

namespace Tracker

/-- A completed scan has published a list on each of its entries. -/
theorem exists_accepted (settings : ScanSettings) (entries : List Entry) (tree : FileTree)
    (actions : List Action) {g : Nat} {s : Scan} {m : Summary}
    (hs : ((initial settings entries tree).run actions).scans[g]? = some s)
    (ho : s.outcome = some (.completed m)) {id : Nat} (hid : id ∈ s.entries) :
    ∃ p ∈ (initial settings entries tree).attempts actions,
      p.accepted = true ∧ p.scan = g ∧ p.entry = id := by
  obtain ⟨hcomplete, -⟩ := complete_of_outcome settings entries tree actions hs ho
  obtain ⟨content, -, hrefs⟩ := references_of_accepted settings entries tree actions hs ho
  obtain ⟨k, hk⟩ := List.mem_iff_getElem?.1 hid
  obtain ⟨p, hp, hacc, hscan, htask⟩ := hcomplete.published k (List.getElem?_eq_some_iff.1 hk).1
  obtain ⟨e, hpid, -⟩ := hrefs p hp hscan
  rw [htask, hk] at hpid
  exact ⟨p, hp, hacc, hscan, (Option.some.inj hpid).symm⟩

/-- **Two completed scans publish the same list on an entry**, if it has the same container and key,
the rules are the same and the files are. The scans may be parts of different runs: they may be
asked for other entries besides, in another order, have the files in another order and spelling and
repeat them, and do their work in any order. The files must not change, and files that are spelled
differently must not be spelled as folders or beyond the length of a path. -/
theorem references_independent (settings : ScanSettings) {entries entries' : List Entry}
    {tree tree' : FileTree} {actions actions' : List Action} {g g' : Nat} {s s' : Scan}
    {m m' : Summary}
    (hs : ((initial settings entries tree).run actions).scans[g]? = some s)
    (ho : s.outcome = some (.completed m))
    (hs' : ((initial settings entries' tree').run actions').scans[g']? = some s')
    (ho' : s'.outcome = some (.completed m')) :
    (∃ r ∈ actions.filterMap Action.request?, s.IsFor settings r) ∧
    (∃ r ∈ actions'.filterMap Action.request?, s'.IsFor settings r) ∧
    ∀ r r', s.IsFor settings r → s'.IsFor settings r' → r.rules = r'.rules →
      SourceFile.SameFiles r.files r'.files →
      (∀ f ∈ r.files, ∀ f' ∈ r'.files, f.path.parts = f'.path.parts →
        f.path = f'.path ∨ f.path.IsPlain ∧ f'.path.IsPlain) →
      (∀ f ∈ r.files, ∀ t ∈ treesOf tree actions, ∀ t' ∈ treesOf tree' actions',
        t.read f.path = t'.read f.path) →
      ∀ id ∈ r.entries, ∀ id' ∈ r'.entries, entries[id]? = entries'[id']? →
        (∃ p ∈ (initial settings entries tree).attempts actions,
          p.accepted = true ∧ p.scan = g ∧ p.entry = id) ∧
        (∃ p' ∈ (initial settings entries' tree').attempts actions',
          p'.accepted = true ∧ p'.scan = g' ∧ p'.entry = id') ∧
        ∀ p ∈ (initial settings entries tree).attempts actions, p.scan = g → p.entry = id →
          ∀ p' ∈ (initial settings entries' tree').attempts actions', p'.scan = g' →
            p'.entry = id' → List.Forall₂ Reference.Alike p.references p'.references := by
  obtain ⟨r₀, hr₀, hentries₀, hrules₀, hfiles₀⟩ :=
    request_of_scan settings entries tree actions hs
  obtain ⟨r₁, hr₁, hentries₁, hrules₁, hfiles₁⟩ :=
    request_of_scan settings entries' tree' actions' hs'
  refine ⟨⟨r₀, hr₀, hentries₀, hrules₀, hfiles₀⟩, ⟨r₁, hr₁, hentries₁, hrules₁, hfiles₁⟩, ?_⟩
  intro r r' hr hr' hrules hsame hspelled hunchanged id hid id' hid' he
  refine ⟨exists_accepted settings entries tree actions hs ho (hr.entries ▸ hid),
    exists_accepted settings entries' tree' actions' hs' ho' (hr'.entries ▸ hid'), ?_⟩
  intro p hp hscan hentry p' hp' hscan' hentry'
  obtain ⟨content, hcontent, hrefs⟩ := references_of_accepted settings entries tree actions hs ho
  obtain ⟨content', hcontent', hrefs'⟩ :=
    references_of_accepted settings entries' tree' actions' hs' ho'
  obtain ⟨e, -, hpe, hfound⟩ := hrefs p hp hscan
  obtain ⟨e', -, hpe', hfound'⟩ := hrefs' p' hp' hscan'
  obtain rfl : e = e' := by
    rw [hentry, he, ← hentry', hpe'] at hpe
    exact (Option.some.inj hpe).symm
  have hlines : ∀ f ∈ s.files, ∀ f' ∈ s'.files, f.path.parts = f'.path.parts →
      (f.readLines (content f)).1 = (f'.readLines (content' f')).1 := by
    intro f hf f' hf' hparts
    rw [hr.files] at hf
    rw [hr'.files] at hf'
    have hmem := (SourceFile.mem_of_mem_distinct hf).1
    have hmem' := (SourceFile.mem_of_mem_distinct hf').1
    exact SourceFile.fst_readLines_eq_of_parts hparts (hspelled f hmem f' hmem' hparts)
      (hunchanged f hmem _ (hcontent f) _ (hcontent' f'))
  have hfiles : List.Forall₂ (fun f f' => f.path.parts = f'.path.parts) s.files s'.files := by
    rw [hr.files, hr'.files]
    exact SourceFile.forall₂_distinct settings hsame
  have hsets : s.rules = s'.rules := by rw [hr.rules, hr'.rules, hrules]
  rw [hfound, hfound', ← hsets]
  exact s.rules.forall₂_references settings.patternSizeLimit e hfiles hlines

/-- A folder with one file, which has one line. -/
def oneFile : FileTree := ⟨[(["d"], .folder), (["d", "f.t"], .file [97])], []⟩

/-- A scan of that file for one entry, with the given spellings of its path. -/
def spelledRun (paths : List Path) : List Action :=
  Action.begins ⟨[0], paths.map SourceFile.ofPath, RuleSet.ofRules [⟨[".t"], true, none, none⟩]⟩ ::
    plainRun.tail

theorem outcome_spelledRun_once :
    (((initial .standard [⟨"", "a"⟩] oneFile).run (spelledRun ["d/f.t"])).scans[0]?).map
      Scan.outcome = some (some (.completed ⟨1, 0, 1, 1⟩)) := by
  decide +kernel

theorem outcome_spelledRun_twice :
    (((initial .standard [⟨"", "a"⟩] oneFile).run (spelledRun ["d//f.t", "d/f.t"])).scans[0]?).map
      Scan.outcome = some (some (.completed ⟨1, 0, 1, 1⟩)) := by
  decide +kernel

/-- A file that is listed once has the same references as one that is listed in two spellings. -/
theorem references_independent_of_spelling :
    ∃ p ∈ (initial .standard [⟨"", "a"⟩] oneFile).attempts (spelledRun ["d/f.t"]),
      ∃ p' ∈ (initial .standard [⟨"", "a"⟩] oneFile).attempts (spelledRun ["d//f.t", "d/f.t"]),
        p.accepted = true ∧ p'.accepted = true ∧ p.references.length = 1 ∧
        List.Forall₂ Reference.Alike p.references p'.references := by
  obtain ⟨s, hs, ho⟩ := Option.map_eq_some_iff.1 outcome_spelledRun_once
  obtain ⟨s', hs', ho'⟩ := Option.map_eq_some_iff.1 outcome_spelledRun_twice
  obtain ⟨⟨r, hr, hfor⟩, ⟨r', hr', hfor'⟩, hlists⟩ :=
    references_independent .standard hs ho hs' ho'
  obtain rfl := List.mem_singleton.1 hr
  obtain rfl := List.mem_singleton.1 hr'
  obtain ⟨⟨p, hp, hacc, hscan, hentry⟩, ⟨p', hp', hacc', hscan', hentry'⟩, halike⟩ :=
    hlists _ _ hfor hfor' rfl ⟨by decide +kernel, by decide +kernel⟩ (by decide +kernel)
      (fun f _ t ht t' ht' => by rw [List.mem_singleton.1 ht, List.mem_singleton.1 ht'])
      0 (List.mem_singleton.2 rfl) 0 (List.mem_singleton.2 rfl) rfl
  have hone : ∀ p ∈ (initial .standard [⟨"", "a"⟩] oneFile).attempts (spelledRun ["d/f.t"]),
      p.references.length = 1 := by decide +kernel
  exact ⟨p, hp, p', hp', hacc, hacc', hone p hp, halike p hp hscan hentry p' hp' hscan' hentry'⟩

/-- The path of that file with more slashes than a path may have bytes. -/
def longSpelling : Path :=
  Utf8.ofText "d" ++ (List.replicate (FileTree.pathLimit + 1) Path.slash ++ Utf8.ofText "f.t")

theorem parts_longSpelling : longSpelling.parts = Path.parts "d/f.t" :=
  Path.parts_slashes (Utf8.ofText "d") (Utf8.ofText "f.t") FileTree.pathLimit

theorem read_longSpelling : oneFile.read longSpelling = .error .nameTooLong := by
  have hslash : (0 : UInt8) ≠ Path.slash := by decide
  have hfront : (0 : UInt8) ∉ Utf8.ofText "d" := by decide
  have hname : (0 : UInt8) ∉ Utf8.ofText "f.t" := by decide
  refine oneFile.read_of_long ?_ ?_
  · simp [longSpelling, hslash, hfront, hname]
  · simp only [longSpelling, List.length_append, List.length_replicate]
    omega

/-- **A list can depend on which spelling comes first.** One of the two spellings asks for a folder,
so that nothing is found if that is the one to be read. A spelling that is too long is not read
either. -/
theorem references_respelled :
    ["d/f.t/", "d/f.t"].Perm ["d/f.t", "d/f.t/"] ∧
    Path.parts "d/f.t/" = Path.parts "d/f.t" ∧
    (((initial .standard [⟨"", "a"⟩] oneFile).run (spelledRun ["d/f.t", "d/f.t/"])).scans[0]?).map
      Scan.outcome = some (some (.completed ⟨1, 0, 1, 1⟩)) ∧
    (((initial .standard [⟨"", "a"⟩] oneFile).run (spelledRun ["d/f.t/", "d/f.t"])).scans[0]?).map
      Scan.outcome = some (some (.completed ⟨1, 0, 1, 0⟩)) ∧
    ((initial .standard [⟨"", "a"⟩] oneFile).attempts (spelledRun ["d/f.t", "d/f.t/"])).map
      (fun p => (p.accepted, p.entry, p.references.length)) = [(true, 0, 1)] ∧
    ((initial .standard [⟨"", "a"⟩] oneFile).attempts (spelledRun ["d/f.t/", "d/f.t"])).map
      (fun p => (p.accepted, p.entry, p.references.length)) = [(true, 0, 0)] ∧
    longSpelling.parts = Path.parts "d/f.t" ∧
    oneFile.read longSpelling = .error .nameTooLong ∧ oneFile.read "d/f.t" = .ok [97] := by
  refine ⟨?_, ?_, ?_, ?_, ?_, ?_, parts_longSpelling, read_longSpelling, ?_⟩
  · decide +kernel
  · decide +kernel
  · decide +kernel
  · decide +kernel
  · decide +kernel
  · decide +kernel
  · rfl

end Tracker

end KeyTrace
