import KeyTrace.Proofs.Rule.Failing
import KeyTrace.Proofs.Scan.Failures
import KeyTrace.Proofs.Scan.Independence

/-!
# Scans with one more rule

Two completed scans of the same files, of which one was given one rule more than the other. The rule
may cover files that no other one covers, and make a scan look at more lines of the files that the
others cover; what the others find is found all the same, and those that fail still do.

A scan keeps what it has compiled only while it works on an entry. An entry that is listed twice in
a request is worked on twice, and what fails for it is noted again.

## Main definitions

* `Tracker.Completes`: a scan has been completed for a request.
* `Tracker.Publishes`: the list that a scan has published on an entry.
* `Tracker.Finds`: what a scan has published and noted is what there is in some lines.
* `Tracker.rulesAt`, `Tracker.ownNotes`: what has been noted where a request lists an entry, and of
  one rule for an entry.

## Main results

* `Tracker.exists_linesOf`: two scans of the same files find what there is in the same lines.
* `Tracker.sublist_of_appended`: a rule at the end loses no reference and changes none.
* `Tracker.isolation_of_broken`: what a rule does, at any place, that does not compile.
-/

namespace KeyTrace

namespace Tracker

/-- In a run from the start, the scan at a position is complete, and a request is what it was asked
for. -/
structure Completes (settings : ScanSettings) (entries : List Entry) (tree : FileTree)
    (actions : List Action) (g : Nat) (r : ScanRequest) : Prop where
  requested : r ∈ actions.filterMap Action.request?
  complete : ∃ s m, ((initial settings entries tree).run actions).scans[g]? = some s ∧
    s.outcome = some (.completed m) ∧ s.IsFor settings r

/-- In a run from the start, the scan at a position has published a list on an entry, and has not
tried to publish anything else there. -/
structure Publishes (settings : ScanSettings) (entries : List Entry) (tree : FileTree)
    (actions : List Action) (g id : Nat) (references : List Reference) : Prop where
  accepted : ∃ p ∈ (initial settings entries tree).attempts actions,
    p.accepted = true ∧ p.scan = g ∧ p.entry = id
  only : ∀ p ∈ (initial settings entries tree).attempts actions, p.scan = g → p.entry = id →
    p.accepted = true ∧ p.references = references

/-- In a run from the start, the scan at a position has published the references that there are in
some lines, and has noted the rules that fail there. -/
structure Finds (settings : ScanSettings) (entries : List Entry) (tree : FileTree)
    (actions : List Action) (g : Nat) (r : ScanRequest) (linesOf : SourceFile → List String) :
    Prop where
  publishes : ∀ id ∈ r.entries, ∃ e, entries[id]? = some e ∧
    Publishes settings entries tree actions g id
      (r.rules.references settings.patternSizeLimit e linesOf
        (SourceFile.distinct settings r.files))
  notes : ∀ {k id : Nat} {e : Entry}, r.entries[k]? = some id → entries[id]? = some e → ∀ n,
    ⟨g, k, n⟩ ∈ (initial settings entries tree).failures actions ↔
      r.rules.Fails settings.patternSizeLimit e linesOf (SourceFile.distinct settings r.files) n

variable {settings : ScanSettings} {entries entries' : List Entry} {tree tree' : FileTree}
  {actions actions' : List Action} {g g' : Nat} {r r' : ScanRequest}

theorem Finds.congr {linesOf linesOf' : SourceFile → List String}
    (h : Finds settings entries tree actions g r linesOf)
    (hlines : ∀ f ∈ SourceFile.distinct settings r.files, linesOf f = linesOf' f) :
    Finds settings entries tree actions g r linesOf' where
  publishes id hid := by
    obtain ⟨e, he, hpublishes⟩ := h.publishes id hid
    have hsame : r.rules.references settings.patternSizeLimit e linesOf
          (SourceFile.distinct settings r.files) =
        r.rules.references settings.patternSizeLimit e linesOf'
          (SourceFile.distinct settings r.files) :=
      List.flatMap_congr fun f hf =>
        congrArg (r.rules.referencesIn settings.patternSizeLimit e f) (hlines f hf)
    exact ⟨e, he, hsame ▸ hpublishes⟩
  notes hk he n := (h.notes hk he n).trans
    ⟨RuleSet.Fails.congr hlines, RuleSet.Fails.congr fun f hf => (hlines f hf).symm⟩

/-- A completed scan finds what there is in the lines that the files had in one of the trees. -/
theorem Completes.exists_content (h : Completes settings entries tree actions g r) :
    ∃ content : SourceFile → FileTree, (∀ f, content f ∈ treesOf tree actions) ∧
      Finds settings entries tree actions g r fun f => (f.readLines (content f)).1 := by
  obtain ⟨s, m, hs, ho, hfor⟩ := h.complete
  obtain ⟨hcomplete, -⟩ := complete_of_outcome settings entries tree actions hs ho
  have hnodup : s.files.Nodup := hfor.files ▸ SourceFile.nodup_distinct settings r.files
  obtain ⟨content, hcontent, hreads⟩ :=
    hcomplete.lookup.exists_reads (List.cons_ne_nil _ _) hnodup
  refine ⟨content, hcontent, ⟨fun id hid => ?_, fun hk he n => ?_⟩⟩
  · obtain ⟨p, hp, hacc, hscan, hentry⟩ :=
      exists_accepted settings entries tree actions hs ho (hfor.entries ▸ hid)
    obtain ⟨e, -, he, -⟩ := references_of_reads settings entries tree actions hs hreads hp hscan
    rw [hentry] at he
    refine ⟨e, he, ⟨p, hp, hacc, hscan, hentry⟩, fun q hq hqscan hqentry => ?_⟩
    obtain ⟨e', -, he', hfound⟩ :=
      references_of_reads settings entries tree actions hs hreads hq hqscan
    rw [hqentry, he] at he'
    obtain rfl := Option.some.inj he'
    rw [hfor.rules, hfor.files] at hfound
    exact ⟨hcomplete.noneRefused q hq hqscan, hfound⟩
  · rw [← hfor.rules, ← hfor.files]
    exact mem_failures_of_completed settings entries tree actions hs ho hreads
      (hfor.entries ▸ hk) he

/-- **Two completed scans of the same files** find what there is for their rules in the same lines,
if the files have not changed. -/
theorem exists_linesOf (h : Completes settings entries tree actions g r)
    (h' : Completes settings entries' tree' actions' g' r') (hfiles : r'.files = r.files)
    (hread : ∀ f ∈ r.files, ∀ t ∈ treesOf tree actions, ∀ t' ∈ treesOf tree' actions',
      t.read f.path = t'.read f.path) :
    ∃ linesOf : SourceFile → List String, Finds settings entries tree actions g r linesOf ∧
      Finds settings entries' tree' actions' g' r' linesOf := by
  obtain ⟨content, hcontent, hfinds⟩ := h.exists_content
  obtain ⟨content', hcontent', hfinds'⟩ := h'.exists_content
  refine ⟨fun f => (f.readLines (content f)).1, hfinds, hfinds'.congr fun f hf => ?_⟩
  have hf : f ∈ r.files := hfiles ▸ (SourceFile.mem_of_mem_distinct hf).1
  exact (SourceFile.fst_readLines_eq_of_parts rfl (Or.inl rfl)
    (hread f hf _ (hcontent f) _ (hcontent' f))).symm

/-- **A rule at the end loses no reference and changes none.** Two completed scans of the same files
have published lists on an entry, and the one with a further rule at the end has, in their order,
all references that the other one has. -/
theorem sublist_of_appended (h : Completes settings entries tree actions g r)
    (h' : Completes settings entries' tree' actions' g' r') {rule : Rule}
    (hrules : r'.rules.rules = r.rules.rules ++ [rule]) (hfiles : r'.files = r.files)
    (hread : ∀ f ∈ r.files, ∀ t ∈ treesOf tree actions, ∀ t' ∈ treesOf tree' actions',
      t.read f.path = t'.read f.path)
    {id id' : Nat} (hid : id ∈ r.entries) (hid' : id' ∈ r'.entries)
    (he : entries[id]? = entries'[id']?) :
    ∃ list list', Publishes settings entries tree actions g id list ∧
      Publishes settings entries' tree' actions' g' id' list' ∧ list.Sublist list' := by
  obtain ⟨linesOf, hfinds, hfinds'⟩ := exists_linesOf h h' hfiles hread
  obtain ⟨e, hentry, hpublishes⟩ := hfinds.publishes id hid
  obtain ⟨e', hentry', hpublishes'⟩ := hfinds'.publishes id' hid'
  obtain rfl : e = e' := Option.some.inj (hentry.symm.trans (he.trans hentry'))
  rw [hfiles] at hpublishes'
  exact ⟨_, _, hpublishes, hpublishes', RuleSet.references_sublist_append hrules _ _⟩

/-- Two files, each with one line. -/
def twoFiles : FileTree := ⟨[(["f.t"], .file [97]), (["g.u"], .file [97])], []⟩

/-- A request to search both of them for entries. -/
def twoFilesRequest (ids : List Nat) (rules : List Rule) : ScanRequest :=
  ⟨ids, [SourceFile.ofPath "f.t", SourceFile.ofPath "g.u"], RuleSet.ofRules rules⟩

/-- The steps of that scan. -/
def twoFilesRun (ids : List Nat) (rules : List Rule) : List Action :=
  aloneRun (twoFilesRequest ids rules) 20

theorem completes_twoFilesRun {ids : List Nat} {rules : List Rule} {m : Summary}
    (h : (((initial .standard [⟨"", "a"⟩] twoFiles).run (twoFilesRun ids rules)).scans[0]?).map
      Scan.outcome = some (some (.completed m)))
    (honly : (twoFilesRun ids rules).filterMap Action.request? = [twoFilesRequest ids rules]) :
    Completes .standard [⟨"", "a"⟩] twoFiles (twoFilesRun ids rules) 0
      (twoFilesRequest ids rules) := by
  obtain ⟨s, hs, ho⟩ := Option.map_eq_some_iff.1 h
  obtain ⟨r, hr, hentries, hrules, hfiles⟩ := request_of_scan _ _ _ _ hs
  rw [honly] at hr
  obtain rfl := List.mem_singleton.1 hr
  exact ⟨honly ▸ hr, s, m, hs, ho, ⟨hentries, hrules, hfiles⟩⟩

/-- A rule that looks for the key as plain text in files with an extension. -/
def plainRule (extension : String) : Rule := ⟨[extension], true, none, none⟩

/-- What such a rule finds in a file. -/
def plainReference (name : String) : Reference := ⟨SourceFile.ofPath name, 1, ["", "a", ""]⟩

theorem completes_plain : Completes .standard [⟨"", "a"⟩] twoFiles
    (twoFilesRun [0] [plainRule ".t"]) 0 (twoFilesRequest [0] [plainRule ".t"]) :=
  completes_twoFilesRun (m := ⟨1, 1, 1, 1⟩) (by decide +kernel) rfl

theorem attempts_plain : ((initial .standard [⟨"", "a"⟩] twoFiles).attempts
    (twoFilesRun [0] [plainRule ".t"])).map Attempt.references = [[plainReference "f.t"]] := by
  decide +kernel

theorem completes_appended : Completes .standard [⟨"", "a"⟩] twoFiles
    (twoFilesRun [0] [plainRule ".t", plainRule ".u"]) 0
    (twoFilesRequest [0] [plainRule ".t", plainRule ".u"]) :=
  completes_twoFilesRun (m := ⟨2, 0, 1, 2⟩) (by decide +kernel) rfl

/-- What a run with one list to publish has published. -/
theorem Publishes.eq_of_attempts {id : Nat} {list list' : List Reference}
    (h : Publishes settings entries tree actions g id list)
    (hall : ((initial settings entries tree).attempts actions).map Attempt.references = [list']) :
    list = list' := by
  obtain ⟨p, hp, -, hscan, hentry⟩ := h.accepted
  have hmem : p.references ∈ ((initial settings entries tree).attempts actions).map
    Attempt.references := List.mem_map_of_mem hp
  rw [hall] at hmem
  exact (h.only p hp hscan hentry).2.symm.trans (List.mem_singleton.1 hmem)

/-- A rule for the second file leaves the reference in the first one, and adds one of its own. -/
theorem sublist_of_twoFiles :
    Publishes .standard [⟨"", "a"⟩] twoFiles (twoFilesRun [0] [plainRule ".t"]) 0 0
      [plainReference "f.t"] ∧
    Publishes .standard [⟨"", "a"⟩] twoFiles (twoFilesRun [0] [plainRule ".t", plainRule ".u"]) 0 0
      [plainReference "f.t", plainReference "g.u"] ∧
    [plainReference "f.t"].Sublist [plainReference "f.t", plainReference "g.u"] := by
  obtain ⟨list, list', hlist, hlist', hsublist⟩ :=
    sublist_of_appended completes_plain completes_appended rfl rfl
      (fun f _ t ht t' ht' => by rw [List.mem_singleton.1 ht, List.mem_singleton.1 ht'])
      (List.mem_singleton.2 rfl) (List.mem_singleton.2 rfl) rfl
  obtain rfl := hlist.eq_of_attempts attempts_plain
  obtain rfl : list' = [plainReference "f.t", plainReference "g.u"] :=
    hlist'.eq_of_attempts (by decide +kernel)
  exact ⟨hlist, hlist', hsublist⟩

/-! ### A rule that does not compile -/

section Notes

variable {notes : List TemplateError} {ids : List Nat} {k id n : Nat}

/-- The rules that a scan has noted for the entry at a position in its request. -/
def rulesAt (notes : List TemplateError) (g k : Nat) : List Nat :=
  notes.filterMap fun x => if x.scan = g ∧ x.task = k then some x.rule else none

/-- What a scan has noted of a rule for an entry, at all places where its request lists the
entry. -/
def ownNotes (notes : List TemplateError) (g : Nat) (ids : List Nat) (id n : Nat) :
    List TemplateError :=
  notes.filter fun x => x.scan = g ∧ ids[x.task]? = some id ∧ x.rule = n

theorem mem_rulesAt : n ∈ rulesAt notes g k ↔ ⟨g, k, n⟩ ∈ notes := by
  rw [rulesAt, List.mem_filterMap]
  constructor
  · rintro ⟨x, hx, hsome⟩
    obtain ⟨⟨rfl, rfl⟩, hn⟩ := Option.ite_none_right_eq_some.1 hsome
    obtain rfl := Option.some.inj hn
    exact hx
  · intro hx
    exact ⟨_, hx, if_pos ⟨rfl, rfl⟩⟩

theorem nodup_rulesAt (h : notes.Nodup) : (rulesAt notes g k).Nodup := by
  refine h.filterMap fun x y n hx hy => ?_
  obtain ⟨⟨hscan, htask⟩, hx⟩ := Option.ite_none_right_eq_some.1 hx
  obtain ⟨⟨hscan', htask'⟩, hy⟩ := Option.ite_none_right_eq_some.1 hy
  exact TemplateError.ext (hscan.trans hscan'.symm) (htask.trans htask'.symm)
    (Option.some.inj (hx.trans hy.symm))

theorem mem_ownNotes {x : TemplateError} : x ∈ ownNotes notes g ids id n ↔
    x ∈ notes ∧ x.scan = g ∧ ids[x.task]? = some id ∧ x.rule = n := by
  rw [ownNotes, List.mem_filter, decide_eq_true_iff]

/-- **No rule is noted more often for an entry than the entry is listed.** -/
theorem length_ownNotes_le (h : notes.Nodup) :
    (ownNotes notes g ids id n).length ≤ ids.count id := by
  have hnodup : ((ownNotes notes g ids id n).map TemplateError.task).Nodup := by
    refine (h.filter _).map_on fun x hx y hy htask => ?_
    obtain ⟨-, hscan, -, hrule⟩ := mem_ownNotes.1 hx
    obtain ⟨-, hscan', -, hrule'⟩ := mem_ownNotes.1 hy
    exact TemplateError.ext (hscan.trans hscan'.symm) htask (hrule.trans hrule'.symm)
  have hlisted : (ownNotes notes g ids id n).map TemplateError.task ⊆ ids.idxsOf id := by
    intro k hk
    obtain ⟨x, hx, rfl⟩ := List.mem_map.1 hk
    obtain ⟨-, -, hid, -⟩ := mem_ownNotes.1 hx
    obtain ⟨hlt, hid⟩ := List.getElem?_eq_some_iff.1 hid
    exact List.mem_idxsOf_iff_exists_getElem_pos.2 ⟨hlt, beq_iff_eq.2 hid⟩
  have hle := (List.subperm_of_subset hnodup hlisted).length_le
  rwa [List.length_map, List.length_idxsOf] at hle

end Notes

/-- **A rule that does not compile keeps to itself.** Two completed scans of the same files have
published lists on an entry, and one of them had a further rule, at any place, that does not compile
for the entry. Then it still has all the references that the other one has, in their order, and it
has no others if the rule does not ignore case. Each reference is made by one of the other rules.

The counter of such errors counts notes. The rule is noted for the entry at most once for each time
the request lists the entry. Where the entry is listed, no fewer rules are noted than without the
rule, and at most one more if it does not ignore case. -/
theorem isolation_of_broken (h : Completes settings entries tree actions g r)
    (h' : Completes settings entries' tree' actions' g' r') {before after : List Rule} {rule : Rule}
    (hrules : r.rules.rules = before ++ after) (hrules' : r'.rules.rules = before ++ rule :: after)
    (hfiles : r'.files = r.files)
    (hread : ∀ f ∈ r.files, ∀ t ∈ treesOf tree actions, ∀ t' ∈ treesOf tree' actions',
      t.read f.path = t'.read f.path)
    {id id' : Nat} (hid : id ∈ r.entries) (hid' : id' ∈ r'.entries) {e : Entry}
    (he : entries[id]? = some e) (he' : entries'[id']? = some e) {fault : Failure}
    (hbroken : LineMatcher.compile rule e.container e.key settings.patternSizeLimit =
      .error fault) :
    (∃ list list', Publishes settings entries tree actions g id list ∧
      Publishes settings entries' tree' actions' g' id' list' ∧ list.Sublist list' ∧
      (rule.caseSensitive = true → list' = list) ∧
      ∀ x ∈ list', ∃ n q, n ≠ before.length ∧ r'.rules.rule? n = some q ∧
        q.appliesTo x.file.extension = true ∧
        RuleSet.matchRule settings.patternSizeLimit e q x.segments.line = some x.segments) ∧
    ((initial settings entries tree).run actions).counters.templateErrors =
      ((initial settings entries tree).failures actions).length ∧
    ((initial settings entries' tree').run actions').counters.templateErrors =
      ((initial settings entries' tree').failures actions').length ∧
    (ownNotes ((initial settings entries' tree').failures actions') g' r'.entries id'
      before.length).length ≤ r'.entries.count id' ∧
    ∀ k k', r.entries[k]? = some id → r'.entries[k']? = some id' →
      ((initial settings entries' tree').failures actions').count ⟨g', k', before.length⟩ ≤ 1 ∧
      (rulesAt ((initial settings entries tree).failures actions) g k).length ≤
        (rulesAt ((initial settings entries' tree').failures actions') g' k').length ∧
      (rule.caseSensitive = true →
        (rulesAt ((initial settings entries' tree').failures actions') g' k').length ≤
          (rulesAt ((initial settings entries tree).failures actions) g k).length + 1) := by
  have hnone : ∀ line, RuleSet.matchRule settings.patternSizeLimit e rule line = none :=
    RuleSet.matchRule_of_error hbroken
  obtain ⟨linesOf, hfinds, hfinds'⟩ := exists_linesOf h h' hfiles hread
  constructor
  · obtain ⟨e₁, hentry, hpublishes⟩ := hfinds.publishes id hid
    obtain ⟨e₂, hentry', hpublishes'⟩ := hfinds'.publishes id' hid'
    obtain rfl : e = e₁ := Option.some.inj (he.symm.trans hentry)
    obtain rfl : e = e₂ := Option.some.inj (he'.symm.trans hentry')
    rw [hfiles] at hpublishes'
    refine ⟨_, _, hpublishes, hpublishes',
      RuleSet.references_sublist_insert hrules hrules' hnone _ _, fun hcase =>
      RuleSet.references_insert_of_caseSensitive hrules hrules' hnone hcase _ _, fun x hx => ?_⟩
    obtain ⟨n, q, hq, happlies, hmatch⟩ := RuleSet.exists_rule_of_mem_references hx
    refine ⟨n, q, ?_, hq, happlies, hmatch⟩
    intro hn
    rw [hn, RuleSet.rule?_inserted hrules'] at hq
    obtain rfl := Option.some.inj hq
    rw [hnone] at hmatch
    cases hmatch
  · obtain ⟨hcount, hnodup⟩ := templateErrors_run settings entries tree actions
    obtain ⟨hcount', hnodup'⟩ := templateErrors_run settings entries' tree' actions'
    refine ⟨hcount, hcount', length_ownNotes_le hnodup', fun k k' hk hk' => ?_⟩
    refine ⟨List.nodup_iff_count_le_one.1 hnodup' _, ?_⟩
    refine RuleSet.length_le_of_fails hrules hrules' hnone (nodup_rulesAt hnodup)
      (nodup_rulesAt hnodup') (fun n => mem_rulesAt.trans (hfinds.notes hk he n)) fun n => ?_
    rw [mem_rulesAt, hfinds'.notes hk' he' n, hfiles]

/-- A rule for both files whose pattern is not one. -/
def brokenRule : Rule := ⟨[".t", ".u"], true, some "(", none⟩

theorem completes_broken : Completes .standard [⟨"", "a"⟩] twoFiles
    (twoFilesRun [0] [brokenRule, plainRule ".t"]) 0
    (twoFilesRequest [0] [brokenRule, plainRule ".t"]) :=
  completes_twoFilesRun (m := ⟨2, 0, 1, 1⟩) (by decide +kernel) rfl

/-- In front of another rule, and tried in both files, it leaves the one reference there is, and is
counted once. -/
theorem isolation_of_brokenRule :
    Publishes .standard [⟨"", "a"⟩] twoFiles (twoFilesRun [0] [plainRule ".t"]) 0 0
      [plainReference "f.t"] ∧
    Publishes .standard [⟨"", "a"⟩] twoFiles (twoFilesRun [0] [brokenRule, plainRule ".t"]) 0 0
      [plainReference "f.t"] ∧
    ((initial .standard [⟨"", "a"⟩] twoFiles).run
      (twoFilesRun [0] [plainRule ".t"])).counters.templateErrors = 0 ∧
    ((initial .standard [⟨"", "a"⟩] twoFiles).run
      (twoFilesRun [0] [brokenRule, plainRule ".t"])).counters.templateErrors = 1 ∧
    (ownNotes ((initial .standard [⟨"", "a"⟩] twoFiles).failures
      (twoFilesRun [0] [brokenRule, plainRule ".t"])) 0 [0] 0 0).length ≤ 1 := by
  have hrules : (twoFilesRequest [0] [plainRule ".t"]).rules.rules = [] ++ [plainRule ".t"] := rfl
  have hrules' : (twoFilesRequest [0] [brokenRule, plainRule ".t"]).rules.rules =
    [] ++ brokenRule :: [plainRule ".t"] := rfl
  obtain ⟨⟨list, list', hlist, hlist', -, heq, -⟩, -, -, hown, -⟩ :=
    isolation_of_broken completes_plain completes_broken hrules hrules' rfl
      (fun f _ t ht t' ht' => by rw [List.mem_singleton.1 ht, List.mem_singleton.1 ht'])
      (List.mem_singleton.2 rfl) (List.mem_singleton.2 rfl) rfl rfl rfl
  obtain rfl := heq rfl
  obtain rfl := hlist.eq_of_attempts attempts_plain
  exact ⟨hlist, hlist', by decide +kernel, by decide +kernel, hown⟩

/-- For an entry that is listed twice it is counted twice. -/
theorem templateErrors_listed_twice :
    (∃ fault, LineMatcher.compile brokenRule "" "a" ScanSettings.standard.patternSizeLimit =
      .error fault) ∧
    Completes .standard [⟨"", "a"⟩] twoFiles (twoFilesRun [0, 0] [plainRule ".t"]) 0
      (twoFilesRequest [0, 0] [plainRule ".t"]) ∧
    Completes .standard [⟨"", "a"⟩] twoFiles (twoFilesRun [0, 0] [brokenRule, plainRule ".t"]) 0
      (twoFilesRequest [0, 0] [brokenRule, plainRule ".t"]) ∧
    ((initial .standard [⟨"", "a"⟩] twoFiles).run
      (twoFilesRun [0, 0] [plainRule ".t"])).counters.templateErrors = 0 ∧
    ((initial .standard [⟨"", "a"⟩] twoFiles).run
      (twoFilesRun [0, 0] [brokenRule, plainRule ".t"])).counters.templateErrors = 2 ∧
    (ownNotes ((initial .standard [⟨"", "a"⟩] twoFiles).failures
      (twoFilesRun [0, 0] [brokenRule, plainRule ".t"])) 0 [0, 0] 0 0).length = 2 :=
  ⟨⟨_, rfl⟩, completes_twoFilesRun (m := ⟨1, 1, 2, 2⟩) (by decide +kernel) rfl,
    completes_twoFilesRun (m := ⟨2, 0, 2, 2⟩) (by decide +kernel) rfl, by decide +kernel,
    by decide +kernel, by decide +kernel⟩

end Tracker

end KeyTrace
