import KeyTrace.Proofs.FileTree
import KeyTrace.Proofs.Toml.Lines
import KeyTrace.Settings.Store

/-!
# Settings are loaded as they were saved

The document of some settings names every field that has a value, so no standard value comes in when
it is read, and a list of rules that is empty stands there as such. Each rule has a table of its
own.

## Main definitions

* `Settings.scanMembers`, `Settings.ruleMembers`: the tables of the document, as they are written.
* `Settings.quotedSettings`: settings whose texts need escapes.

## Main results

* `Settings.scan?_members`, `Settings.rule?_members`: what is read from these tables.
* `Settings.parse?_print`: the document of some settings is read as these settings.
* `Settings.load_save`: settings are loaded as they were saved.
-/

namespace KeyTrace

namespace Settings

open Toml WrittenMember

/-! ### Texts -/

theorem toList_line (name value : String) :
    (line name value).toList = name.toList ++ ' ' :: '=' :: ' ' :: value.toList ++ ['\n'] := by
  have hsign : " = ".toList = [' ', '=', ' '] := by decide
  have hfeed : "\n".toList = ['\n'] := by decide
  simp only [line, String.toList_append, hsign, hfeed, List.append_assoc, List.cons_append,
    List.nil_append]

theorem toList_optionalLine {α : Type} (name : String) (text : α → String) (value : α → TomlValue)
    (x : Option α) :
    (optionalLine name (x.map text)).toList =
      (x.map fun a => WrittenMember.mk name (text a).toList (value a)).toList.flatMap
        WrittenMember.line := by
  cases x with
  | none => rfl
  | some a => simp [optionalLine, toList_line, WrittenMember.line]

theorem isWritten_boolText (b : Bool) : IsWritten (boolText b).toList (.boolean b) := by
  cases b with
  | true => exact isWritten_true
  | false => exact isWritten_false

theorem isWritten_textsText (s : List String) :
    IsWritten (textsText s).toList (.array (s.map .string)) := by
  have hopen : "[".toList = ['['] := by decide
  have hopenLine : "[\n".toList = ['[', '\n'] := by decide
  have hclose : "]".toList = [']'] := by decide
  match s with
  | [] => exact isWritten_noItems
  | [t] =>
    have h := isWritten_oneItem t
    rw [textsText, String.toList_append, String.toList_append, hopen, hclose]
    exact h
  | t :: u :: s =>
    have h := isWritten_lines (t :: u :: s)
    show IsWritten ("[\n" ++ String.join _ ++ "]").toList _
    rw [String.toList_append, String.toList_append, hopenLine, hclose]
    exact h

/-! ### The settings of scans -/

/-- The table of the settings of scans. -/
def scanMembers (s : ScanSettings) : List WrittenMember :=
  [⟨"exclude_designer_files", (boolText s.excludeDesignerFiles).toList,
      .boolean s.excludeDesignerFiles⟩,
    ⟨"resource_extensions", (textsText s.resourceExtensions).toList,
      .array (s.resourceExtensions.map .string)⟩] ++
  (s.parallelJobs.map fun n => ⟨"parallel_jobs", (toString n).toList, .integer n⟩).toList ++
  [⟨"regex_size_limit", (toString s.patternSizeLimit).toList, .integer s.patternSizeLimit⟩,
    ⟨"respect_gitignore", (boolText s.respectIgnoreFiles).toList, .boolean s.respectIgnoreFiles⟩,
    ⟨"include_hidden", (boolText s.includeHidden).toList, .boolean s.includeHidden⟩]

theorem toList_printScan (s : ScanSettings) :
    (printScan s).toList =
      '[' :: "scan".toList ++ [']', '\n'] ++ (scanMembers s).flatMap WrittenMember.line := by
  have hheader : "[scan]\n".toList = '[' :: "scan".toList ++ [']', '\n'] := by decide
  rw [printScan, scanMembers]
  simp only [String.toList_append, hheader, toList_line, List.flatMap_append, List.flatMap_cons,
    List.flatMap_nil, WrittenMember.line, ← toList_optionalLine, List.append_assoc,
    List.append_nil]

/-- The settings of scans are read as they are written. -/
theorem follows_scan {st : ReadState} {before : Members} (hroot : st.root = ⟨.header, before⟩)
    (h : before.lookup "scan" = none) {s : ScanSettings}
    (hlimit : s.patternSizeLimit < 18446744073709551616)
    (hjobs : ∀ n ∈ s.parallelJobs, n < 18446744073709551616) :
    Follows st (printScan s).toList
      (inTable before "scan" ((scanMembers s).map WrittenMember.toMember)) := by
  have hsound : ∀ m ∈ scanMembers s, m.IsSound := by
    intro m hm
    simp only [scanMembers, List.cons_append, List.nil_append, List.mem_cons, List.mem_append,
      Option.mem_toList, Option.map_eq_some_iff, List.not_mem_nil, or_false] at hm
    rcases hm with rfl | rfl | ⟨n, hn, rfl⟩ | rfl | rfl | rfl
    · exact isSound_mk (by decide) (isWritten_boolText _)
    · exact isSound_mk (by decide) (isWritten_textsText _)
    · exact isSound_mk (by decide) (isWritten_toString (hjobs n hn))
    · exact isSound_mk (by decide) (isWritten_toString hlimit)
    · exact isSound_mk (by decide) (isWritten_boolText _)
    · exact isSound_mk (by decide) (isWritten_boolText _)
  have hdistinct : ((scanMembers s).map WrittenMember.name).Nodup := by
    rw [scanMembers]
    cases s.parallelJobs with
    | none =>
      have h : ["exclude_designer_files", "resource_extensions", "regex_size_limit",
        "respect_gitignore", "include_hidden"].Nodup := by decide
      exact h
    | some n =>
      have h : ["exclude_designer_files", "resource_extensions", "parallel_jobs",
        "regex_size_limit", "respect_gitignore", "include_hidden"].Nodup := by decide
      exact h
  rw [toList_printScan]
  exact (follows_header (by decide) hroot h).trans
    (follows_members (isSpot_inTable h) hsound hdistinct fun _ _ => rfl)

/-- A table of known names has these fields. -/
theorem fields?_table {names : List String} {members : Members}
    (h : (members.all fun m => names.contains m.1) = true) :
    fields? names (.table .header members) = some members := by
  have hpass : canPassOver names members = true := by
    rw [canPassOver, List.all_eq_true]
    intro m hm
    show (names.contains m.1 || m.2.isInRange) = true
    rw [List.all_eq_true.1 h m hm, Bool.true_or]
  rw [fields?, if_pos hpass]

section Fields

variable {α : Type} {fields : Members} {name : String} {read : TomlValue → Option α}

theorem field?_eq_some {v : TomlValue} {x standard : α} (h : fields.lookup name = some v)
    (hread : read v = some x) : field? fields name read standard = some x := by
  rw [field?, h]
  exact hread

theorem field?_eq_standard {standard : α} (h : fields.lookup name = none) :
    field? fields name read standard = some standard := by
  rw [field?, h]

end Fields

theorem texts?_map (s : List String) : texts? (.array (s.map .string)) = some s := by
  rw [texts?]
  induction s with
  | nil => rfl
  | cons t s ih =>
    rw [List.map_cons, List.mapM_cons, ih]
    rfl

theorem count?_integer {n : Nat} (h : n < 18446744073709551616) :
    count? (.integer n) = some n := by
  have hrange : (0 ≤ (n : Int) && (n : Int) < 18446744073709551616) = true := by
    rw [Bool.and_eq_true, decide_eq_true_iff, decide_eq_true_iff]
    omega
  rw [count?, if_pos hrange, Int.toNat_natCast]

/-- **The settings of scans in their table** are these settings. -/
theorem scan?_members {s : ScanSettings} (hlimit : s.patternSizeLimit < 18446744073709551616)
    (hjobs : ∀ n ∈ s.parallelJobs, n < 18446744073709551616) :
    scan? (.table .header ((scanMembers s).map WrittenMember.toMember)) = some s := by
  obtain ⟨designers, extensions, jobs, limit, ignores, hidden⟩ := s
  have hlimit := count?_integer hlimit
  cases jobs with
  | none =>
    rw [scan?]
    refine Option.bind_eq_some_iff.2 ⟨_, fields?_table rfl, ?_⟩
    refine Option.bind_eq_some_iff.2 ⟨_, field?_eq_some rfl rfl, ?_⟩
    refine Option.bind_eq_some_iff.2 ⟨_, field?_eq_some rfl (texts?_map _), ?_⟩
    refine Option.bind_eq_some_iff.2 ⟨_, field?_eq_standard rfl, ?_⟩
    refine Option.bind_eq_some_iff.2 ⟨_, field?_eq_some rfl hlimit, ?_⟩
    refine Option.bind_eq_some_iff.2 ⟨_, field?_eq_some rfl rfl, ?_⟩
    refine Option.bind_eq_some_iff.2 ⟨_, field?_eq_some rfl rfl, ?_⟩
    rfl
  | some n =>
    have hjobs := count?_integer (hjobs n rfl)
    rw [scan?]
    refine Option.bind_eq_some_iff.2 ⟨_, fields?_table rfl, ?_⟩
    refine Option.bind_eq_some_iff.2 ⟨_, field?_eq_some rfl rfl, ?_⟩
    refine Option.bind_eq_some_iff.2 ⟨_, field?_eq_some rfl (texts?_map _), ?_⟩
    refine Option.bind_eq_some_iff.2 ⟨_, field?_eq_some rfl (congrArg (Option.map some) hjobs), ?_⟩
    refine Option.bind_eq_some_iff.2 ⟨_, field?_eq_some rfl hlimit, ?_⟩
    refine Option.bind_eq_some_iff.2 ⟨_, field?_eq_some rfl rfl, ?_⟩
    refine Option.bind_eq_some_iff.2 ⟨_, field?_eq_some rfl rfl, ?_⟩
    rfl

/-! ### Rules -/

/-- The table of a rule. -/
def ruleMembers (r : RuleDecl) : List WrittenMember :=
  [⟨"extensions", (quote r.extensions).toList, .string r.extensions⟩,
    ⟨"case_sensitive", (boolText r.caseSensitive).toList, .boolean r.caseSensitive⟩] ++
  (r.pattern.map fun p => ⟨"pattern", (quote p).toList, .string p⟩).toList ++
  (r.commentToken.map fun t => ⟨"comment_token", (quote t).toList, .string t⟩).toList

/-- The members of the table of a rule. -/
def ruleTable (r : RuleDecl) : Members := (ruleMembers r).map WrittenMember.toMember

theorem toList_printRule (r : RuleDecl) :
    (printRule r).toList = ['\n'] ++ ('[' :: '[' :: "rules".toList ++ [']', ']', '\n'] ++
      (ruleMembers r).flatMap WrittenMember.line) := by
  have hheader : "\n[[rules]]\n".toList =
      '\n' :: '[' :: '[' :: "rules".toList ++ [']', ']', '\n'] := by
    decide
  rw [printRule, ruleMembers]
  simp only [String.toList_append, hheader, toList_line, List.flatMap_append, List.flatMap_cons,
    WrittenMember.line, ← toList_optionalLine, List.append_assoc, List.cons_append,
    List.nil_append]

/-- A rule is read as it is written, once its table has begun. -/
theorem follows_ruleMembers {before : Members} (h : before.lookup "rules" = none)
    (done : List Members) (r : RuleDecl) :
    Follows (inTables before "rules" done []) ((ruleMembers r).flatMap WrittenMember.line)
      (inTables before "rules" done (ruleTable r)) := by
  have hsound : ∀ m ∈ ruleMembers r, m.IsSound := by
    intro m hm
    simp only [ruleMembers, List.cons_append, List.nil_append, List.mem_cons, List.mem_append,
      Option.mem_toList, Option.map_eq_some_iff] at hm
    rcases hm with rfl | rfl | ⟨p, -, rfl⟩ | ⟨t, -, rfl⟩
    · exact isSound_mk (by decide) (isWritten_quote _)
    · exact isSound_mk (by decide) (isWritten_boolText _)
    · exact isSound_mk (by decide) (isWritten_quote _)
    · exact isSound_mk (by decide) (isWritten_quote _)
  have hdistinct : ((ruleMembers r).map WrittenMember.name).Nodup := by
    have hall : ["extensions", "case_sensitive", "pattern", "comment_token"].Nodup := by decide
    refine hall.sublist ?_
    rw [ruleMembers]
    cases r.pattern <;> cases r.commentToken <;> simp
  exact follows_members (isSpot_inTables h) hsound hdistinct fun _ _ => rfl

/-- Further rules. -/
theorem follows_rules {before : Members} (h : before.lookup "rules" = none) (rules : List RuleDecl)
    (done : List Members) (r : RuleDecl) :
    ∃ st : ReadState, st.root =
        ⟨.header, before ++ [("rules", .tables (done ++ ruleTable r :: rules.map ruleTable))]⟩ ∧
      Follows (inTables before "rules" done (ruleTable r))
        (String.join (rules.map printRule)).toList st := by
  induction rules generalizing done r with
  | nil => exact ⟨_, rfl, .refl _⟩
  | cons r' rules ih =>
    obtain ⟨st, hroot, hrest⟩ := ih (done ++ [ruleTable r]) r'
    refine ⟨st, ?_, ?_⟩
    · rw [hroot, List.append_assoc]
      rfl
    · rw [List.map_cons, String.join_cons, String.toList_append, toList_printRule]
      have hheader := (follows_feed (inTables before "rules" done (ruleTable r))).trans
        ((follows_nextTable (by decide) h).trans
          (follows_ruleMembers h (done ++ [ruleTable r]) r'))
      exact hheader.trans hrest

/-- **The rule in a table** is that rule. -/
theorem rule?_members (r : RuleDecl) : rule? (.table .header (ruleTable r)) = some r := by
  obtain ⟨extensions, caseSensitive, pattern, commentToken⟩ := r
  have hknown : fields? ["extensions", "case_sensitive", "pattern", "comment_token"]
      (.table .header (ruleTable ⟨extensions, caseSensitive, pattern, commentToken⟩)) =
      some (ruleTable ⟨extensions, caseSensitive, pattern, commentToken⟩) := by
    cases pattern <;> cases commentToken <;> exact fields?_table rfl
  have hpattern : field? (ruleTable ⟨extensions, caseSensitive, pattern, commentToken⟩) "pattern"
      (fun v => (text? v).map some) none = some pattern := by
    cases pattern with
    | none => cases commentToken <;> exact field?_eq_standard rfl
    | some p => exact field?_eq_some rfl rfl
  have htoken : field? (ruleTable ⟨extensions, caseSensitive, pattern, commentToken⟩)
      "comment_token" (fun v => (text? v).map some) none = some commentToken := by
    cases commentToken with
    | none => cases pattern <;> exact field?_eq_standard rfl
    | some t => cases pattern <;> exact field?_eq_some rfl rfl
  rw [rule?]
  refine Option.bind_eq_some_iff.2 ⟨_, hknown, ?_⟩
  refine Option.bind_eq_some_iff.2 ⟨extensions, rfl, ?_⟩
  refine Option.bind_eq_some_iff.2 ⟨caseSensitive, field?_eq_some rfl rfl, ?_⟩
  refine Option.bind_eq_some_iff.2 ⟨pattern, hpattern, ?_⟩
  refine Option.bind_eq_some_iff.2 ⟨commentToken, htoken, ?_⟩
  rfl

theorem rules?_tables (rules : List RuleDecl) :
    rules? (.tables (rules.map ruleTable)) = some rules := by
  rw [rules?, List.map_map]
  induction rules with
  | nil => rfl
  | cons r rules ih =>
    rw [List.map_cons, List.mapM_cons, ih, Function.comp_apply, rule?_members]
    rfl

/-! ### Documents -/

/-- The settings in a document that has both tables, in any order. -/
theorem ofTable?_eq {members : Members} {s : Settings} {rules : TomlValue}
    (hlimit : s.scan.patternSizeLimit < 18446744073709551616)
    (hjobs : ∀ n ∈ s.scan.parallelJobs, n < 18446744073709551616)
    (hnames : ∀ m ∈ members, m.1 = "scan" ∨ m.1 = "rules")
    (hscan : members.lookup "scan" =
      some (.table .header ((scanMembers s.scan).map WrittenMember.toMember)))
    (hrules : members.lookup "rules" = some rules) (h : rules? rules = some s.rules) :
    ofTable? ⟨.header, members⟩ = some s := by
  have hknown : (members.all fun m => ["scan", "rules"].contains m.1) = true := by
    rw [List.all_eq_true]
    rintro ⟨name, v⟩ hm
    rcases hnames _ hm with rfl | rfl <;> rfl
  rw [ofTable?, TomlTable.toValue, fields?_table hknown]
  simp only [Option.bind_eq_bind, Option.bind_some, field?, hscan, hrules,
    scan?_members hlimit hjobs, h]
  rfl

variable {s : Settings} (hlimit : s.scan.patternSizeLimit < 18446744073709551616)
  (hjobs : ∀ n ∈ s.scan.parallelJobs, n < 18446744073709551616)

include hlimit hjobs

/-- An empty list of rules stands at the top. -/
theorem parse?_print_of_nil (h : s.rules = []) : parse? s.print.toList = some s := by
  have hline : "rules = []\n\n".toList =
      "rules".toList ++ ' ' :: '=' :: ' ' :: ['[', ']'] ++ ['\n'] ++ ['\n'] := by
    decide
  have hform : s.print.toList = "rules".toList ++ ' ' :: '=' :: ' ' :: ['[', ']'] ++ ['\n'] ++
      ['\n'] ++ (printScan s.scan).toList := by
    rw [print, h]
    simp only [List.isEmpty_nil, if_true, List.map_nil, String.join_nil, String.append_empty,
      String.toList_append, hline]
  have hrules : Follows (top [])
      ("rules".toList ++ ' ' :: '=' :: ' ' :: ['[', ']'] ++ ['\n']) (top [("rules", .array [])]) :=
    follows_member isSpot_top (by decide) rfl isWritten_noItems
  have hroot : (top [("rules", .array [])]).root = ⟨.header, [("rules", .array [])]⟩ := rfl
  have hscan := follows_scan hroot rfl hlimit hjobs
  have hall := (hrules.trans (follows_feed _)).trans hscan
  rw [parse?, hform, read?_of_follows hall (by simp)]
  refine ofTable?_eq hlimit hjobs ?_ rfl rfl ?_
  · simp
  · rw [h]
    rfl

/-- Other rules have a table each. -/
theorem parse?_print_of_cons {r : RuleDecl} {rules : List RuleDecl} (h : s.rules = r :: rules) :
    parse? s.print.toList = some s := by
  have hform : s.print.toList = (printScan s.scan).toList ++
      (['\n'] ++ ('[' :: '[' :: "rules".toList ++ [']', ']', '\n'] ++
        (ruleMembers r).flatMap WrittenMember.line) ++
      (String.join (rules.map printRule)).toList) := by
    have hempty : (r :: rules).isEmpty = false := rfl
    rw [print, h, hempty, if_neg Bool.false_ne_true, List.map_cons, String.join_cons,
      String.empty_append, String.toList_append, String.toList_append, toList_printRule]
  have hroot : (top []).root = ⟨.header, []⟩ := rfl
  have hscan := follows_scan hroot rfl hlimit hjobs
  have hbefore : (inTable [] "scan" ((scanMembers s.scan).map WrittenMember.toMember)).root =
    ⟨.header, [("scan", .table .header ((scanMembers s.scan).map WrittenMember.toMember))]⟩ := rfl
  have hnew : List.lookup "rules"
    [("scan", TomlValue.table .header ((scanMembers s.scan).map WrittenMember.toMember))] =
      none := rfl
  have hheader := follows_firstTable (by decide : IsName "rules") hbefore hnew
  obtain ⟨st, hst, hrest⟩ := follows_rules hnew rules [] r
  have hrule := (follows_feed _).trans (hheader.trans (follows_ruleMembers hnew [] r))
  have hall := hscan.trans (hrule.trans hrest)
  rw [parse?, hform, read?_of_follows hall (by simp [toList_printScan]), hst]
  refine ofTable?_eq hlimit hjobs ?_ rfl rfl ?_
  · simp
  · rw [h]
    exact rules?_tables (r :: rules)

/-- **The document of some settings** is read as these settings. -/
theorem parse?_print : parse? s.print.toList = some s := by
  cases h : s.rules with
  | nil => exact parse?_print_of_nil hlimit hjobs h
  | cons r rules => exact parse?_print_of_cons hlimit hjobs h

omit hlimit hjobs

/-- Settings that have an extension in each rule, and a size limit, are not refused. -/
theorem validate_eq_ok (hrules : ∀ r ∈ s.rules, Extension.list r.extensions ≠ [])
    (hpos : 0 < s.scan.patternSizeLimit) : s.validate = .ok () := by
  have hnone : s.firstEmptyRule? = none := by
    rw [firstEmptyRule?, List.findIdx?_eq_none_iff]
    intro r hr
    simpa using hrules r hr
  rw [validate, hnone]
  exact if_neg (by omega)

/-- Saving ends with writing the document. -/
theorem exists_write_of_save {t t' : FileTree} {p : Path} (h : s.save t p = .ok t') :
    ∃ t₀ : FileTree, t₀.write p (Utf8.encode s.print.toList) = .ok t' := by
  rw [save] at h
  split at h
  · cases h
  · rename_i t₀ _
    split at h
    · cases h
    · rename_i hwrite
      obtain rfl := Except.ok.inj h
      exact ⟨t₀, hwrite⟩

/-- **Settings are loaded as they were saved**, if each rule has an extension and the size limit is
not zero; numbers have at most 64 bits. -/
theorem load_save (s : Settings) (t t' : FileTree) (env : Environment) (p : Path)
    (hrules : ∀ r ∈ s.rules, Extension.list r.extensions ≠ [])
    (hpos : 0 < s.scan.patternSizeLimit)
    (hlimit : s.scan.patternSizeLimit < 18446744073709551616)
    (hjobs : ∀ n ∈ s.scan.parallelJobs, n < 18446744073709551616)
    (hsave : s.save t p = .ok t') : load t' env (some p) = .ok s := by
  obtain ⟨t₀, hwrite⟩ := exists_write_of_save hsave
  have hread : readFile t' p = .ok s := by
    rw [readFile, FileTree.readText_of_write hwrite]
    dsimp only
    rw [parse?_print hlimit hjobs]
  rw [load, Option.some_or]
  dsimp only
  rw [hread]
  simp only [Except.bind]
  rw [validate_eq_ok hrules hpos]

/-- Settings with quotes, backslashes and characters that are not printed. -/
def quotedSettings : Settings :=
  ⟨{ ScanSettings.standard with
      resourceExtensions := ["'\"\"\"'", "\\n\n\r", ""], parallelJobs := some 0 },
    [⟨".cs,\"\t\x01", true, some "\"\"\"'\\b\n($Key)\x7f", some ""⟩, ⟨"é😀", false, none, none⟩]⟩

theorem load_save_quotedSettings : ∃ t',
    quotedSettings.save ⟨[], []⟩ "d/c.toml" = .ok t' ∧
      load t' ⟨"", "", 1, false⟩ (some "d/c.toml") = .ok quotedSettings := by
  obtain ⟨t', ht'⟩ : ∃ t', quotedSettings.save ⟨[], []⟩ "d/c.toml" = .ok t' := ⟨_, rfl⟩
  exact ⟨t', ht', load_save _ _ _ _ _ (by decide) (by decide) (by decide) (by decide) ht'⟩

end Settings

end KeyTrace
