import KeyTrace.Index.Token
import KeyTrace.Proofs.Ascending
import KeyTrace.Proofs.Rule.Index
import KeyTrace.Proofs.Rule.Segments
import KeyTrace.Resource.Entry
import KeyTrace.Rule.Set
import KeyTrace.Scan.Slot

/-!
# What a search should find

The references to an entry, said without indexes, tokens of other keys or compiled rules that are
kept: the files are gone through in their order and the lines of each file from the first to the
last. A line counts when it has the probe of the key as a token, and the first rule that compiles
and matches cuts it into segments.

## Main definitions

* `RuleSet.mentions`: whether a line has the probe of a key.
* `RuleSet.firstMatch`: the segments that the first matching rule makes of a line.
* `RuleSet.referencesIn`, `RuleSet.references`: the references in one file and in several.
* `Reference.Before`: the order of references.
* `SourceFile.IsDistinct`: which files a search goes through.

## Main results

* `RuleSet.pairwise_references`: the references are in strictly ascending order.
* `RuleSet.nodup_references`: there is at most one for each line.
* `RuleSet.line_of_mem_references`: the segments of each make up its line.
-/

namespace KeyTrace

/-- A list has all those of some files that are to be searched, in ascending order and without
repetition. -/
structure SourceFile.IsDistinct (settings : ScanSettings) (given files : List SourceFile) :
    Prop where
  ascending : files.Pairwise fun a b => compare a b = .lt
  subset : ∀ f ∈ files, f ∈ given ∧ f.isScannable settings = true
  all : ∀ f ∈ given, f.isScannable settings = true → ∃ f' ∈ files, compare f f' = .eq

theorem SourceFile.isDistinct_distinct (settings : ScanSettings) (given : List SourceFile) :
    IsDistinct settings given (distinct settings given) where
  ascending := pairwise_distinct settings given
  subset _ hf := mem_of_mem_distinct hf
  all _ hf hs := exists_mem_distinct hf hs

/-- One reference stands before another: in an earlier file, or earlier in the same file. -/
def Reference.Before (a b : Reference) : Prop :=
  SourceFile.compare a.file b.file = .lt ∨ a.file = b.file ∧ a.lineNumber < b.lineNumber

/-- References that stand in different places. -/
theorem Reference.Before.ne {a b : Reference} (h : a.Before b) :
    (a.file, a.lineNumber) ≠ (b.file, b.lineNumber) := by
  intro heq
  obtain ⟨hfile, hline⟩ := Prod.mk.inj heq
  rcases h with h | ⟨-, h⟩
  · have hself : SourceFile.compare b.file b.file = .eq := Std.ReflCmp.compare_self
    rw [hfile, hself] at h
    cases h
  · exact Nat.ne_of_lt h hline

namespace RuleSet

variable (s : RuleSet) (limit : Nat) (e : Entry)

/-- Whether some rule that covers an extension ignores case. -/
def ignoresCase (extension : String) : Bool :=
  s.rules.any fun r => r.appliesTo extension && !r.caseSensitive

/-- Whether a line has the probe of a key as a token. Where case is ignored, the letters of ASCII
may differ in case. -/
def mentions (extension key line : String) : Bool :=
  match Token.probe key.toList with
  | none => false
  | some p => (Token.tokens line.toList).any fun t =>
      p == t ||
        (s.ignoresCase extension && p.map Lowercase.lowerAscii == t.map Lowercase.lowerAscii)

/-- The segments that a rule makes of a line, if it compiles for an entry and matches. -/
def matchRule (r : Rule) (line : String) : Option Segments :=
  (LineMatcher.compile r e.container e.key limit).toOption.bind fun m => m.apply line

/-- The segments that the first rule for an extension makes of a line. -/
def firstMatch (extension line : String) : Option Segments :=
  (s.rules.filter fun r => r.appliesTo extension).findSome? fun r => matchRule limit e r line

/-- The references to an entry in a file with the given lines. -/
def referencesIn (f : SourceFile) (lines : List String) : List Reference :=
  lines.zipIdx.filterMap fun (line, i) =>
    if s.mentions f.extension e.key line then
      (s.firstMatch limit e f.extension line).map fun segments => ⟨f, i + 1, segments⟩
    else none

/-- The references to an entry in some files. -/
def references (linesOf : SourceFile → List String) (files : List SourceFile) : List Reference :=
  files.flatMap fun f => s.referencesIn limit e f (linesOf f)

variable {s limit e}

theorem exists_of_matchRule {r : Rule} {line : String} {segments : Segments}
    (h : matchRule limit e r line = some segments) :
    ∃ m, LineMatcher.compile r e.container e.key limit = .ok m ∧ m.apply line = some segments := by
  rw [matchRule] at h
  obtain ⟨m, hm, happly⟩ := Option.bind_eq_some_iff.1 h
  cases hcompile : LineMatcher.compile r e.container e.key limit with
  | error _ =>
    rw [hcompile] at hm
    cases hm
  | ok m' =>
    rw [hcompile] at hm
    obtain rfl := Option.some.inj hm
    exact ⟨m', rfl, happly⟩

theorem exists_of_firstMatch {extension line : String} {segments : Segments}
    (h : s.firstMatch limit e extension line = some segments) :
    ∃ r ∈ s.rules, r.appliesTo extension = true ∧ matchRule limit e r line = some segments := by
  obtain ⟨r, hmem, hr⟩ := List.exists_of_findSome?_eq_some h
  obtain ⟨hrules, ha⟩ := List.mem_filter.1 hmem
  exact ⟨r, hrules, ha, hr⟩

theorem line_of_firstMatch {extension line : String} {segments : Segments}
    (h : s.firstMatch limit e extension line = some segments) : segments.line = line := by
  obtain ⟨r, -, -, hr⟩ := exists_of_firstMatch h
  obtain ⟨m, hm, happly⟩ := exists_of_matchRule hr
  exact LineMatcher.line_of_apply hm happly

/-- There are no references in a file that no rule covers. -/
theorem referencesIn_of_not_covers {f : SourceFile} (h : s.covers f.extension = false)
    (lines : List String) : s.referencesIn limit e f lines = [] := by
  rw [covers, List.any_eq_false] at h
  have hnone : s.rules.filter (fun r => r.appliesTo f.extension) = [] :=
    List.filter_eq_nil_iff.2 h
  simp [referencesIn, firstMatch, hnone]

/-- A reference in a file stands on one of its lines. -/
theorem mem_referencesIn {f : SourceFile} {lines : List String} {r : Reference}
    (h : r ∈ s.referencesIn limit e f lines) :
    ∃ i line, lines[i]? = some line ∧ r.file = f ∧ r.lineNumber = i + 1 ∧
      s.firstMatch limit e f.extension line = some r.segments := by
  obtain ⟨⟨line, i⟩, hmem, hr⟩ := List.mem_filterMap.1 h
  dsimp only at hr
  split at hr
  · obtain ⟨segments, hfirst, rfl⟩ := Option.map_eq_some_iff.1 hr
    exact ⟨i, line, by simpa [List.mem_zipIdx_iff_getElem?] using hmem, rfl, rfl, hfirst⟩
  · cases hr

theorem file_of_mem_referencesIn {f : SourceFile} {lines : List String} {r : Reference}
    (h : r ∈ s.referencesIn limit e f lines) : r.file = f := by
  obtain ⟨_, _, -, hfile, -⟩ := mem_referencesIn h
  exact hfile

theorem pairwise_referencesIn (f : SourceFile) (lines : List String) :
    (s.referencesIn limit e f lines).Pairwise Reference.Before := by
  have hidx : lines.zipIdx.Pairwise fun p q => p.2 < q.2 := by
    rw [← List.pairwise_map, List.zipIdx_map_snd]
    exact List.pairwise_lt_range'
  refine hidx.filterMap _ fun p q hlt r hr r' hr' => ?_
  dsimp only at hr hr'
  split at hr
  · split at hr'
    · obtain ⟨_, -, rfl⟩ := Option.map_eq_some_iff.1 hr
      obtain ⟨_, -, rfl⟩ := Option.map_eq_some_iff.1 hr'
      exact Or.inr ⟨rfl, Nat.succ_lt_succ hlt⟩
    · cases hr'
  · cases hr

/-- **The references are in strictly ascending order**, if the files are. -/
theorem pairwise_references {linesOf : SourceFile → List String} {files : List SourceFile}
    (h : files.Pairwise fun a b => SourceFile.compare a b = .lt) :
    (s.references limit e linesOf files).Pairwise Reference.Before := by
  rw [references, List.pairwise_flatMap]
  refine ⟨fun f _ => pairwise_referencesIn f _, h.imp fun {a b} hlt r hr r' hr' => ?_⟩
  refine Or.inl ?_
  rw [file_of_mem_referencesIn hr, file_of_mem_referencesIn hr']
  exact hlt

/-- **There is at most one reference for each line.** -/
theorem nodup_references {linesOf : SourceFile → List String} {files : List SourceFile}
    (h : files.Pairwise fun a b => SourceFile.compare a b = .lt) :
    ((s.references limit e linesOf files).map fun r => (r.file, r.lineNumber)).Nodup := by
  rw [List.Nodup, List.pairwise_map]
  exact (pairwise_references h).imp Reference.Before.ne

/-- **The segments of a reference make up the line that it names.** -/
theorem line_of_mem_references {linesOf : SourceFile → List String} {files : List SourceFile}
    {r : Reference} (h : r ∈ s.references limit e linesOf files) :
    r.file ∈ files ∧ 1 ≤ r.lineNumber ∧
      (linesOf r.file)[r.lineNumber - 1]? = some r.segments.line := by
  obtain ⟨f, hf, hr⟩ := List.mem_flatMap.1 h
  obtain ⟨i, line, hline, hfile, hnumber, hfirst⟩ := mem_referencesIn hr
  rw [hfile, hnumber, line_of_firstMatch hfirst]
  exact ⟨hf, Nat.le_add_left 1 i, hline⟩

end RuleSet

end KeyTrace
