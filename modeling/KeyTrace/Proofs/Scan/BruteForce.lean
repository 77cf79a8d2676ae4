import KeyTrace.Proofs.Pattern.Size
import KeyTrace.Proofs.Rule.Builtin
import KeyTrace.Proofs.Rule.Comment
import KeyTrace.Proofs.Scan.Reference

/-!
# With the built-in rules the index hides nothing

What a completed scan has published on an entry comes from lines with the probe of its key. With the
built-in rules, files whose extensions have only rules that mind case lose nothing by that: the list
has for each of them what trying the rules on every line of the file would find.

## Main results

* `RuleSet.filter_references`: the references in one of several files.
* `Tracker.bruteForce_of_completed`: what a completed scan with the built-in rules has published.
-/

namespace KeyTrace

/-- The references in one of several files. -/
theorem RuleSet.filter_references (s : RuleSet) (limit : Nat) (e : Entry)
    (linesOf : SourceFile → List String) {files : List SourceFile} (hnodup : files.Nodup)
    {f : SourceFile} (hf : f ∈ files) :
    (s.references limit e linesOf files).filter (fun r => r.file = f) =
      s.referencesIn limit e f (linesOf f) := by
  have hother : ∀ f' ∈ files, decide (f' = f) = false →
      (s.referencesIn limit e f' (linesOf f')).filter (fun r => r.file = f) = [] := by
    intro f' _ hne
    rw [List.filter_eq_nil_iff]
    intro r hr
    rw [file_of_mem_referencesIn hr, hne]
    exact Bool.false_ne_true
  have hone : files.filter (fun f' => f' = f) = [f] := by
    rw [List.filter_eq, List.count_eq_one_of_mem hnodup hf]
    rfl
  rw [references, List.filter_flatMap, ← flatMap_filter _ _ _ hother, hone, List.flatMap_singleton,
    List.filter_eq_self]
  intro r hr
  rw [file_of_mem_referencesIn hr, decide_eq_true rfl]

namespace Tracker

variable (settings : ScanSettings) (entries : List Entry) (files : FileTree)
  (actions : List Action)

/-- **What a completed scan with the built-in rules has published.** For each file with an extension
that only rules which mind case cover (`RuleSet.sensitive_builtin` lists these), a list has the
references that trying these rules on every line would find, if there is an ASCII word character in
the key. -/
theorem bruteForce_of_completed {g : Nat} {s : Scan} {m : Summary}
    (hs : ((initial settings entries files).run actions).scans[g]? = some s)
    (ho : s.outcome = some (.completed m)) (hrules : s.rules = RuleSet.builtin) :
    ∃ content : SourceFile → FileTree, (∀ f, content f ∈ treesOf files actions) ∧
      (∀ k < s.entries.length, ∃ p ∈ (initial settings entries files).attempts actions,
        p.accepted = true ∧ p.scan = g ∧ p.task = k) ∧
      ∀ p ∈ (initial settings entries files).attempts actions, p.scan = g →
        ∃ e, s.entries[p.task]? = some p.entry ∧ entries[p.entry]? = some e ∧
          ((∃ c ∈ e.key.toList, Word.isAsciiWord c = true) →
            ∀ f ∈ s.files, f.extension ∈ RuleSet.builtin.sensitive →
              p.references.filter (fun r => r.file = f) =
                RuleSet.builtin.searchIn settings.patternSizeLimit e f
                  (f.readLines (content f)).1) := by
  obtain ⟨hcomplete, -⟩ := complete_of_outcome settings entries files actions hs ho
  obtain ⟨r, -, -, -, hfiles⟩ := request_of_scan settings entries files actions hs
  obtain ⟨content, hcontent, hrefs⟩ := references_of_accepted settings entries files actions hs ho
  refine ⟨content, hcontent, hcomplete.published, fun p hp hscan => ?_⟩
  obtain ⟨e, hid, he, hp⟩ := hrefs p hp hscan
  refine ⟨e, hid, he, ?_⟩
  rintro ⟨c, hc, hword⟩ f hf hext
  have hnodup : s.files.Nodup := hfiles ▸ SourceFile.nodup_distinct settings r.files
  rw [hp, RuleSet.filter_references _ _ _ _ hnodup hf, hrules]
  exact RuleSet.referencesIn_builtin hext hc hword _

/-! ### A scan with the built-in rules -/

/-- What is read from the built-in template for names with a dot. -/
def dottedNode (name : List Char) : Node :=
  .cat (.set CharClass.nonWord) (.cat (.group 1 (.literal name)) (.set CharClass.nonWord))

theorem size_dottedNode_le (name : List Char) :
    (dottedNode name).size ≤ 2 * stateBytes * Utf8.width name + 200000 := by
  have hforward := CharClass.bytes_nonWord_le .forward
  have hbackward := CharClass.bytes_nonWord_le .backward
  simp [Node.size, dottedNode, Node.bytes, Node.bytesIn, Node.lead, Node.fromStart, Node.toEnd,
    Node.zeroWidth, Node.within, stateBytes, branchBytes, rangeBytes, Utf8.length_encode]
  omega

/-- The built-in rules with this template find the name `A.b`. -/
theorem matchRule_dotted {r : Rule} (hr : r.pattern = some "\\W($File\\.$Key)\\W")
    (hcase : r.caseSensitive = true) (hcomment : r.commentToken = some "//") :
    RuleSet.matchRule LineMatcher.defaultLimit ⟨"A", "b"⟩ r "x = A.b;" =
      some ["x = ", "A.b", ";"] := by
  have hread : Pattern.readNode (!r.caseSensitive)
      (Template.expand "\\W($File\\.$Key)\\W" "A" "b").toList =
        some (dottedNode "A.b".toList, 1) := by
    rw [hcase]
    decide +kernel
  have hsize : (dottedNode "A.b".toList).size ≤ LineMatcher.defaultLimit :=
    (size_dottedNode_le _).trans (by decide +kernel)
  have hcompile : LineMatcher.compile r "A" "b" LineMatcher.defaultLimit =
      .ok ⟨.template ⟨Program.ofNode (dottedNode "A.b".toList), 1⟩, some "//"⟩ :=
    (LineMatcher.compile_template_iff hr).2 ⟨_, Pattern.compile_of_size_le hread hsize, by
      rw [hcomment]⟩
  rw [RuleSet.matchRule, hcompile]
  decide +kernel

/-- A text of two lines. A rule finds the name `A.b` in the first one, and the index hides the
other. -/
def twoNames : Bytes := Utf8.ofText "x = A.b;\nA.bx"

/-- Two files with this text. -/
def builtinFiles : FileTree := ⟨[(["f.cs"], .file twoNames), (["g.js"], .file twoNames)], []⟩

/-- A scan of these files with the built-in rules. -/
def builtinRun : List Action :=
  aloneRun ⟨[0], ["f.cs", "g.js"].map SourceFile.ofPath, RuleSet.builtin⟩ 20

/-- What that scan publishes. -/
def builtinList : List Reference :=
  [⟨SourceFile.ofPath "f.cs", 1, ["x = ", "A.b", ";"]⟩,
    ⟨SourceFile.ofPath "g.js", 1, ["x = ", "A.b", ";"]⟩]

/-- The first built-in rule for these files is one with that template. -/
theorem firstMatch_dotted {extension : String} (hext : extension ∈ [".cs", ".js"]) :
    RuleSet.builtin.firstMatch LineMatcher.defaultLimit ⟨"A", "b"⟩ extension "x = A.b;" =
      some ["x = ", "A.b", ";"] := by
  have hall : ∀ extension ∈ [".cs", ".js"],
      (RuleSet.builtin.rules.filter fun r => r.appliesTo extension).head?.any (fun r =>
        r.pattern = some "\\W($File\\.$Key)\\W" ∧ r.caseSensitive = true ∧
          r.commentToken = some "//") = true := by
    decide +kernel
  obtain ⟨r, hr, hdotted⟩ := (Option.any_eq_true _ _).1 (hall extension hext)
  obtain ⟨hpattern, hcase, hcomment⟩ := of_decide_eq_true hdotted
  obtain ⟨rest, hrules⟩ := List.head?_eq_some_iff.1 hr
  rw [RuleSet.firstMatch, hrules, List.findSome?_cons, matchRule_dotted hpattern hcase hcomment]

/-- The references in a file with that text. -/
theorem referencesIn_twoNames {f : SourceFile} (hext : f.extension ∈ [".cs", ".js"]) :
    RuleSet.builtin.referencesIn LineMatcher.defaultLimit ⟨"A", "b"⟩ f ["x = A.b;", "A.bx"] =
      [⟨f, 1, ["x = ", "A.b", ";"]⟩] := by
  have hall : ∀ extension ∈ [".cs", ".js"],
      RuleSet.builtin.mentions extension "b" "x = A.b;" = true ∧
        RuleSet.builtin.mentions extension "b" "A.bx" = false := by
    decide +kernel
  have hmentions := hall _ hext
  have hfirst := firstMatch_dotted hext
  rw [RuleSet.referencesIn]
  generalize RuleSet.builtin = s at hmentions hfirst ⊢
  generalize LineMatcher.defaultLimit = limit at hfirst ⊢
  simp [List.zipIdx_cons, hmentions, hfirst]

/-- What there is for these rules in the two files. -/
theorem references_builtinFiles :
    RuleSet.builtin.references LineMatcher.defaultLimit ⟨"A", "b"⟩
      (fun f => (f.readLines builtinFiles).1)
      [SourceFile.ofPath "f.cs", SourceFile.ofPath "g.js"] = builtinList := by
  have hlines : ∀ f ∈ [SourceFile.ofPath "f.cs", SourceFile.ofPath "g.js"],
      (f.readLines builtinFiles).1 = ["x = A.b;", "A.bx"] ∧ f.extension ∈ [".cs", ".js"] := by
    decide +kernel
  have hrefs : ∀ f ∈ [SourceFile.ofPath "f.cs", SourceFile.ofPath "g.js"],
      RuleSet.builtin.referencesIn LineMatcher.defaultLimit ⟨"A", "b"⟩ f
        (f.readLines builtinFiles).1 = [⟨f, 1, ["x = ", "A.b", ";"]⟩] := by
    intro f hf
    obtain ⟨hread, hext⟩ := hlines f hf
    rw [hread, referencesIn_twoNames hext]
  rw [RuleSet.references, List.flatMap_congr hrefs]
  rfl

theorem completed_builtinRun :
    ∃ s m, ((initial .standard [⟨"A", "b"⟩] builtinFiles).run builtinRun).scans[0]? = some s ∧
      s.outcome = some (.completed m) := by
  have h : (((initial .standard [⟨"A", "b"⟩] builtinFiles).run builtinRun).scans[0]?.bind
      Scan.outcome).any (fun o => o ≠ .cancelled) = true := by
    decide +kernel
  obtain ⟨o, ho, hcompleted⟩ := (Option.any_eq_true _ _).1 h
  obtain ⟨s, hs, ho⟩ := Option.bind_eq_some_iff.1 ho
  cases o with
  | completed m => exact ⟨s, m, hs, ho⟩
  | cancelled => cases hcompleted

/-- The list that the scan publishes has one reference in each of the files. -/
theorem bruteForce_of_builtinRun :
    ∃ s m, ((initial .standard [⟨"A", "b"⟩] builtinFiles).run builtinRun).scans[0]? = some s ∧
      s.outcome = some (.completed m) ∧ s.rules = RuleSet.builtin ∧
      s.files = [SourceFile.ofPath "f.cs", SourceFile.ofPath "g.js"] ∧
      ∃ p ∈ (initial .standard [⟨"A", "b"⟩] builtinFiles).attempts builtinRun,
        p.accepted = true ∧ p.references = builtinList ∧
        ∀ f ∈ s.files, p.references.filter (fun r => r.file = f) =
          RuleSet.builtin.searchIn LineMatcher.defaultLimit ⟨"A", "b"⟩ f
            (f.readLines builtinFiles).1 := by
  obtain ⟨s, m, hs, ho⟩ := completed_builtinRun
  obtain ⟨r, hr, hentries, hrules, hfiles⟩ := request_of_scan _ _ _ _ hs
  obtain rfl : r = ⟨[0], [SourceFile.ofPath "f.cs", SourceFile.ofPath "g.js"],
    RuleSet.builtin⟩ := List.mem_singleton.1 hr
  have hfiles : s.files = [SourceFile.ofPath "f.cs", SourceFile.ofPath "g.js"] :=
    hfiles.trans (by decide +kernel)
  have hsensitive : ∀ f ∈ s.files, f.extension ∈ RuleSet.builtin.sensitive := by
    rw [hfiles, RuleSet.sensitive_builtin]
    decide +kernel
  obtain ⟨content, hcontent, hpublished, hbrute⟩ := bruteForce_of_completed _ _ _ _ hs ho hrules
  obtain rfl : content = fun _ => builtinFiles :=
    funext fun f => List.mem_singleton.1 (hcontent f)
  obtain ⟨p, hp, hacc, hscan, -⟩ := hpublished 0 (by rw [hentries]; decide)
  obtain ⟨e, -, he, hlist⟩ := hbrute p hp hscan
  obtain rfl : ⟨"A", "b"⟩ = e := List.mem_singleton.1 (List.mem_of_getElem? he) ▸ rfl
  refine ⟨s, m, hs, ho, hrules, hfiles, p, hp, hacc, ?_, fun f hf =>
    hlist ⟨'b', by decide, by decide⟩ f hf (hsensitive f hf)⟩
  obtain ⟨content, hcontent, hrefs⟩ := references_of_accepted _ _ _ _ hs ho
  obtain rfl : content = fun _ => builtinFiles :=
    funext fun f => List.mem_singleton.1 (hcontent f)
  obtain ⟨e, -, he, hp⟩ := hrefs p hp hscan
  obtain rfl : ⟨"A", "b"⟩ = e := List.mem_singleton.1 (List.mem_of_getElem? he) ▸ rfl
  rw [hp, hrules, hfiles]
  exact references_builtinFiles

end Tracker

end KeyTrace
