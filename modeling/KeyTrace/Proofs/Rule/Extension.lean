import KeyTrace.CommandLine
import KeyTrace.Index.FileIndex
import KeyTrace.Proofs.Ascending
import KeyTrace.Proofs.Attempts
import KeyTrace.Proofs.Rule.Index
import KeyTrace.Proofs.Text.Blank
import KeyTrace.Proofs.Text.Lowercase

/-!
# Extensions in any spelling

An extension is brought into its normal form wherever it comes in: when a rule is loaded, when a
path is looked at, when rules are looked up and when they are listed. Some texts go through this
several times on their way, which makes no difference, for the normal form of a normal form is the
form itself. So the index of a rule set, the rules themselves, a scan and the list of rules give the
same answer for each spelling.

## Main definitions

* `CommandLine.shownRules`: the lines of the rules at some positions.

## Main results

* `Extension.normalize_normalize`: the normal form is its own normal form.
* `RuleSet.idsFor_of_load`: the rules for an extension, in the index, in a scan and in the list.
-/

namespace KeyTrace

namespace Extension

/-- **The normal form is its own normal form.** -/
theorem normalize_normalize {raw e : String} (h : normalize raw = some e) :
    normalize e = some e := by
  rw [normalize] at h
  split at h
  · cases h
  · rename_i hne
    obtain rfl := Option.some.inj h
    generalize hbare : ((Blank.trim raw.toList).dropWhile fun c => c == '*').dropWhile
      (fun c => c == '.') = bare at hne
    have hhead : ∀ c ∈ (Lowercase.lowerChars bare).head?, c ≠ '.' :=
      Lowercase.head?_lowerChars (hbare ▸ fun c hc => by simpa using head?_dropWhile hc)
    have hlast : ∀ c ∈ (Lowercase.lowerChars bare).getLast?, Blank.isBlank c = false :=
      Lowercase.getLast?_lowerFrom [] (hbare ▸ fun c hc =>
        Blank.getLast?_trim _ c (getLast?_of_dropWhile (getLast?_of_dropWhile hc)))
    have hnonempty : Lowercase.lowerChars bare ≠ [] :=
      Lowercase.lowerFrom_ne_nil [] (by simpa using hne)
    have htrim : Blank.trim ('.' :: Lowercase.lowerChars bare) =
        '.' :: Lowercase.lowerChars bare := by
      refine Blank.trim_eq_self (by rintro _ ⟨⟩; rfl) fun c hc => hlast c ?_
      rwa [← List.singleton_append, List.getLast?_append_of_ne_nil _ hnonempty] at hc
    rw [normalize, String.toList_ofList, htrim, List.dropWhile_cons_of_neg (by decide),
      List.dropWhile_cons_of_pos (by rfl), dropWhile_eq_self fun c hc => by simpa using hhead c hc,
      Lowercase.lowerChars_lowerChars, if_neg (by simpa using hnonempty)]

end Extension

namespace RuleSet

theorem idsFor_normalize (s : RuleSet) {e n : String} (h : Extension.normalize e = some n) :
    s.idsFor n = s.idsFor e := by
  rw [idsFor, idsFor, h, Extension.normalize_normalize h]

end RuleSet

theorem FileIndex.ruleIds_ofLines (f : SourceFile) (s : RuleSet) (candidates : Candidates)
    (lines : List String) (handled : Nat) :
    (ofLines f s candidates lines handled).ruleIds = s.idsFor f.extension := rfl

/-- A loaded rule lists each extension once. -/
theorem Rule.nodup_of_load {d : RuleDecl} {r : Rule} (h : load d = .ok r) :
    r.extensions.Nodup := by
  rw [load] at h
  split at h
  · cases h
  · obtain rfl := Except.ok.inj h
    exact Ascending.nodup_ofList _

namespace RuleSet

/-- The rules of a loaded set list each extension once. -/
theorem nodup_of_load {decls : List RuleDecl} {s : RuleSet} (h : load decls = .ok s) :
    ∀ r ∈ s.rules, r.extensions.Nodup := by
  intro r hr
  rw [load] at h
  cases hrules : decls.mapM Rule.load with
  | error e =>
    rw [hrules] at h
    cases h
  | ok rules =>
    rw [hrules] at h
    obtain rfl := Except.ok.inj h
    obtain ⟨d, -, hd⟩ := exists_of_mem_of_mapM_eq_ok hrules hr
    exact Rule.nodup_of_load hd

/-- The rules for an extension, where each rule lists it once at most. -/
theorem idsFor_eq_map {s : RuleSet} (h : ∀ r ∈ s.rules, r.extensions.Nodup) (e : String) :
    s.idsFor e = (s.rules.zipIdx.filter fun p => p.1.appliesTo e).map Prod.snd := by
  cases he : Extension.normalize e with
  | none => simp [idsFor, Rule.appliesTo, he]
  | some n =>
    have hnodup : ∀ p ∈ s.rules.zipIdx, p.1.extensions.Nodup :=
      fun p hp => h p.1 (List.fst_mem_of_mem_zipIdx hp)
    rw [idsFor_eq s he]
    generalize s.rules.zipIdx = l at hnodup
    induction l with
    | nil => rfl
    | cons p rest ih =>
      rw [List.flatMap_cons, ih fun q hq => hnodup q (List.mem_cons_of_mem p hq), List.filter_cons,
        (hnodup p (List.mem_cons_self ..)).count]
      simp only [Rule.appliesTo, he, List.contains_iff_mem]
      split
      · rfl
      · rfl

/-- **The rules for an extension are in ascending order.** -/
theorem pairwise_idsFor {s : RuleSet} (h : ∀ r ∈ s.rules, r.extensions.Nodup) (e : String) :
    (s.idsFor e).Pairwise (· < ·) := by
  rw [idsFor_eq_map h]
  have hsnd : s.rules.zipIdx.map Prod.snd = List.range' 0 s.rules.length :=
    List.zipIdx_map_snd 0 s.rules
  have hsublist := (List.filter_sublist (p := fun p => p.1.appliesTo e)
    (l := s.rules.zipIdx)).map Prod.snd
  rw [hsnd] at hsublist
  exact List.Pairwise.sublist hsublist List.pairwise_lt_range'

end RuleSet

/-! ### The list of rules -/

namespace CommandLine

/-- The lines of the rules at some positions, or the notice that there are none. -/
def shownRules (color : Bool) (s : RuleSet) (ids : List Nat) : String :=
  if ids.isEmpty then Style.yellow.paint color "No match rules apply" ++ "\n"
  else String.join (ids.filterMap fun id => (s.rule? id).map (ruleLine color id))

/-- The rules that are shown are those at the positions for the extension. -/
theorem ruleList_eq {s : RuleSet} (h : ∀ r ∈ s.rules, r.extensions.Nodup) (color : Bool)
    (extension : String) :
    ruleList color s (some extension) = shownRules color s (s.idsFor extension) ++
      String.join (s.check.map (problemLine color)) := by
  have hlines : (s.idsFor extension).filterMap (fun id => (s.rule? id).map (ruleLine color id)) =
      (s.rules.zipIdx.filter fun p => p.1.appliesTo extension).map
        fun p => ruleLine color p.2 p.1 := by
    rw [RuleSet.idsFor_eq_map h, List.filterMap_map, ← List.filterMap_eq_map]
    refine List.filterMap_congr fun p hp => ?_
    have hget : s.rule? p.2 = some p.1 :=
      List.mem_zipIdx_iff_getElem?.1 (List.mem_of_mem_filter hp)
    simp [hget]
  rw [shownRules, hlines, ruleList, RuleSet.idsFor_eq_map h, List.isEmpty_map]
  rfl

end CommandLine

/-- **The rules for an extension are the same everywhere.** In a loaded set they stand at ascending
positions and are those that apply to the extension, in whatever spelling; the rules of an index
over a file whose path has the extension are these, and the list of rules shows these. What is no
extension at all has no rules, and asking for their list is refused. -/
theorem RuleSet.idsFor_of_load {decls : List RuleDecl} {s : RuleSet} (h : load decls = .ok s)
    (e : String) :
    (s.idsFor e).Pairwise (· < ·) ∧
    (∀ id, id ∈ s.idsFor e ↔ ∃ r, s.rules[id]? = some r ∧ r.appliesTo e = true) ∧
    (∀ n, Extension.normalize e = some n → s.idsFor n = s.idsFor e) ∧
    (Extension.normalize e = none → s.idsFor e = []) ∧
    (∀ p : Path, p.textExtension? = some e → ∀ candidates lines handled,
      (FileIndex.ofLines (SourceFile.ofPath p) s candidates lines handled).ruleIds =
        s.idsFor e) ∧
    ∀ color (settings : Settings), settings.rules = decls →
      CommandLine.listRules color settings (some e) =
        if Extension.normalize e = none then .error (.config (.notExtension e))
        else .ok (CommandLine.shownRules color s (s.idsFor e) ++
          String.join (s.check.map (CommandLine.problemLine color))) := by
  have hnodup := nodup_of_load h
  have hnone : Extension.normalize e = none → s.idsFor e = [] := by
    intro he
    rw [idsFor, he]
  refine ⟨pairwise_idsFor hnodup e, fun id => mem_idsFor, fun n => s.idsFor_normalize, hnone,
    fun p hp candidates lines handled => ?_, fun color settings hrules => ?_⟩
  · have hextension : (SourceFile.ofPath p).extension = p.normalExtension := rfl
    rw [FileIndex.ruleIds_ofLines, hextension, Path.normalExtension, hp, Option.bind_some]
    cases he : Extension.normalize e with
    | none => exact (hnone he).symm
    | some n => exact s.idsFor_normalize he
  · rw [CommandLine.listRules, Settings.ruleSet, hrules, h]
    cases he : Extension.normalize e with
    | none => simp [CommandLine.askedExtension, he, Except.bind, Except.map]
    | some n =>
      have hasked : CommandLine.askedExtension (some e) = .ok (some n) := by
        simp [CommandLine.askedExtension, he]
      rw [hasked, if_neg (by simp), ← s.idsFor_normalize he, ← CommandLine.ruleList_eq hnodup]
      rfl

/-- Rules of which the first one lists an extension in two spellings. -/
def respelledDecls : List RuleDecl :=
  [⟨".CS, *.cs", true, none, none⟩, ⟨"vb", true, none, none⟩, ⟨"cs", false, none, none⟩]

/-- The rules as they are loaded. -/
def respelledRules : RuleSet :=
  .ofRules [⟨[".cs"], true, none, none⟩, ⟨[".vb"], true, none, none⟩, ⟨[".cs"], false, none, none⟩]

theorem RuleSet.idsFor_respelledRules :
    load respelledDecls = .ok respelledRules ∧
      (FileIndex.ofLines (SourceFile.ofPath "A.Cs") respelledRules [] [] 0).ruleIds = [0, 2] ∧
      CommandLine.listRules false ⟨.standard, respelledDecls⟩ (some "Cs") =
        .ok ("  1. .cs <literal key> (case sensitive)\n" ++
          "  3. .cs <literal key> (ignore case)\n") := by
  have hload : load respelledDecls = .ok respelledRules := by
    have hrules : respelledDecls.mapM Rule.load = .ok respelledRules.rules := by decide +kernel
    rw [load, hrules]
    rfl
  have hids : respelledRules.idsFor "Cs" = [0, 2] := by decide +kernel
  obtain ⟨-, -, -, -, hfile, hlist⟩ := idsFor_of_load hload "Cs"
  refine ⟨hload, ?_, ?_⟩
  · rw [hfile "A.Cs" (by decide +kernel), hids]
  · rw [hlist false ⟨.standard, respelledDecls⟩ rfl, hids, if_neg (by decide +kernel)]
    exact congrArg Except.ok (by decide +kernel)

end KeyTrace
