import KeyTrace.Proofs.Path.Below
import KeyTrace.Report

/-!
# The names of files in a report

A report names the file of each reference relative to the root of the scan. Files found below a
folder are named by the names on the way from there, in whatever way the folder is written. These
need not be texts, and are then shown with replacement characters, so that the name leads elsewhere.
A root that is itself a file has nothing behind it that could be shown: the only file that is found
is then named by the empty text.

## Main definitions

* `FileTree.WellFormed`: trees as file systems have them.
* `Report.ShowsAs`: the name under which both kinds of report show a reference.

## Main results

* `Discovery.cases_of_mem_walk`: what is found from a root.
* `Report.fileName_of_found`: the names of the files that are found.
-/

namespace KeyTrace

/-- A tree as a file system has it: what is in it has a place of its own, and each step on the way
to it is a name. -/
structure FileTree.WellFormed (t : FileTree) : Prop where
  nodup : (t.entries.map Prod.fst).Nodup
  named : ∀ e ∈ t.entries, e.1 ≠ [] ∧ ∀ n ∈ e.1, Path.IsName n

namespace FileTree

variable {t : FileTree} {spot : Place} {k : FileKind}

theorem lookup_of_mem {entries : List (Place × FileKind)} (hnodup : (entries.map Prod.fst).Nodup)
    {e : Place × FileKind} (he : e ∈ entries) : entries.lookup e.1 = some e.2 := by
  induction entries with
  | nil => cases he
  | cons d rest ih =>
    obtain ⟨hd, hrest⟩ := List.nodup_cons.1 (List.map_cons .. ▸ hnodup)
    rcases List.mem_cons.1 he with rfl | he
    · exact List.lookup_cons_self
    · have hne : (e.1 == d.1) = false := by
        rw [beq_eq_false_iff_ne]
        intro heq
        exact hd (heq ▸ List.mem_map_of_mem he)
      rw [List.lookup_cons, hne]
      exact ih hrest he

/-- In a well-formed tree, what is listed for a place is there. -/
theorem WellFormed.kind? (ht : t.WellFormed) {e : Place × FileKind} (he : e ∈ t.entries) :
    t.kind? e.1 = some e.2 := by
  have hempty : e.1.isEmpty = false := List.isEmpty_eq_false_iff.2 (ht.named e he).1
  rw [FileTree.kind?, hempty, if_neg Bool.false_ne_true, lookup_of_mem ht.nodup he]

/-- What a path leads to is at the place it leads to. -/
theorem kind?_of_find {p : Path} (h : t.find p = .ok (spot, k)) : t.kind? spot = some k := by
  rw [find] at h
  cases hlocate : t.locate p with
  | error e =>
    rw [hlocate] at h
    cases h
  | ok place =>
    rw [hlocate] at h
    simp only [Except.bind] at h
    split at h
    · cases h
    · rename_i content hkind
      split at h
      · cases h
      · obtain ⟨rfl, rfl⟩ := Prod.mk.inj (Except.ok.inj h)
        exact hkind
    · rename_i hkind
      obtain ⟨rfl, rfl⟩ := Prod.mk.inj (Except.ok.inj h)
      exact hkind

end FileTree

/-- Source files with the same path are the same. -/
theorem SourceFile.eq_of_path {f g : SourceFile} (h : f.path = g.path) : f = g := by
  obtain ⟨path, extension, rfl⟩ := f
  obtain ⟨path', extension', rfl⟩ := g
  obtain rfl := h
  rfl

namespace Discovery

variable {w : Walk} {root p : Path}

/-- **What is found from a root:** the root if that is a file, and if it is a folder, files with
names on the way to them. -/
theorem cases_of_mem_walk (ht : w.tree.WellFormed) (h : p ∈ walk w root) :
    root ≠ "" ∧ ((∃ spot content, w.tree.find root = .ok (spot, .file content)) ∧ p = root ∨
      (∃ top, w.tree.find root = .ok (top, .folder)) ∧
        ∃ names, names ≠ [] ∧ (∀ n ∈ names, Path.IsName n) ∧ p = written root names) := by
  rw [walk] at h
  split at h
  · cases h
  · have hroot : root ≠ "" := by
      rintro rfl
      have hfind : w.tree.find "" = .error .notFound := rfl
      rw [hfind] at h
      cases h
    refine ⟨hroot, ?_⟩
    split at h
    · cases h
    · rename_i spot content hfind
      exact Or.inl ⟨⟨spot, content, hfind⟩, List.mem_singleton.1 h⟩
    · rename_i top hfind
      obtain ⟨f, hf, rfl⟩ := List.mem_map.1 h
      obtain ⟨e, he, hsome⟩ := List.mem_filterMap.1 (List.mem_filter.1 hf).1
      split at hsome
      · rename_i content hkind
        split at hsome
        · rename_i hprefix
          obtain rfl := Option.some.inj hsome
          obtain ⟨names, hnames⟩ := List.isPrefixOf_iff_prefix.1 hprefix
          have hdrop : e.1.drop top.length = names := by rw [← hnames, List.drop_left]
          refine Or.inr ⟨⟨top, hfind⟩, names, ?_, fun n hn => ?_, congrArg _ hdrop⟩
          · -- The folder itself is no file.
            rintro rfl
            rw [List.append_nil] at hnames
            have hfile := ht.kind? he
            rw [← hnames, hkind, FileTree.kind?_of_find hfind] at hfile
            cases hfile
          · exact (ht.named e he).2 n (hnames ▸ List.mem_append_right top hn)
        · cases hsome
      · cases hsome

end Discovery

namespace Report

variable {root : Path} {r u : Reference} {name : String}

/-- The name under which reports show the file of a reference: its line in the text begins with the
name, and so does its object in JSON. -/
structure ShowsAs (root : Path) (r : Reference) (name : String) : Prop where
  text : ∀ color, ∃ rest,
    referenceLine color root r = "  " ++ Style.cyan.paint color name ++ ":" ++ rest
  json : ∃ members, referenceObject root r = .object (("file", .string name) :: members)

theorem showsAs_iff : ShowsAs root r name ↔ name = fileName root r := by
  constructor
  · intro h
    obtain ⟨members, hmembers⟩ := h.json
    rw [referenceObject] at hmembers
    have hfirst := (List.cons.inj (JsonValue.object.inj hmembers)).1
    exact (JsonValue.string.inj (Prod.mk.inj hfirst).2).symm
  · rintro rfl
    refine ⟨fun color => ⟨Style.green.paint color (toString r.lineNumber) ++ ": " ++
      highlight color r.segments ++ "\n", ?_⟩, _, rfl⟩
    simp only [referenceLine, String.append_assoc]

/-- Where the file of a reference was found: it is the root itself, or it is below the root and
named by the way from there. -/
theorem cases_of_found {t : FileTree} (ht : t.WellFormed) {env : Environment} {s : ScanSettings}
    (h : r.file ∈ Discovery.sourceFiles t env s root) :
    root ≠ [] ∧ ((∃ spot content, t.find root = .ok (spot, .file content)) ∧
        r.file.path = root ∧ relative root r = [] ∨
      (∃ top, t.find root = .ok (top, .folder)) ∧
        ∃ names, names ≠ [] ∧ (∀ n ∈ names, Path.IsName n) ∧
          r.file.path = Discovery.written root names ∧
          relative root r = [Path.slash].intercalate names) := by
  obtain ⟨hwalk, -⟩ := List.mem_filter.1 (Ascending.mem_of_mem_ofList h)
  obtain ⟨p, hp, hfile⟩ := List.mem_map.1 hwalk
  have hpath : r.file.path = p := by rw [← hfile]; rfl
  obtain ⟨hroot, ⟨hfind, rfl⟩ | ⟨hfind, names, hne, hnames, rfl⟩⟩ :=
    Discovery.cases_of_mem_walk (w := ⟨t, _, _, _⟩) ht hp
  · refine ⟨hroot, Or.inl ⟨hfind, hpath, ?_⟩⟩
    rw [relative, hpath, Path.strip?_self]
    rfl
  · refine ⟨hroot, Or.inr ⟨hfind, names, hne, hnames, hpath, ?_⟩⟩
    rw [relative, hpath, Path.strip?_written hroot hne hnames]
    rfl

/-- Of the files that are found, each has a path of its own from the root. -/
theorem path_eq_of_relative {t : FileTree} (ht : t.WellFormed) {env : Environment}
    {s : ScanSettings} (hr : r.file ∈ Discovery.sourceFiles t env s root)
    (hu : u.file ∈ Discovery.sourceFiles t env s root) (h : relative root r = relative root u) :
    r.file.path = u.file.path := by
  obtain ⟨-, ⟨⟨_, _, hfind⟩, hpath, -⟩ | ⟨⟨_, hfind⟩, names, hne, hnames, hpath, hrelative⟩⟩ :=
    cases_of_found ht hr
  · obtain ⟨-, ⟨-, hpath', -⟩ | ⟨⟨_, hfind'⟩, -⟩⟩ := cases_of_found ht hu
    · rw [hpath, hpath']
    · exact absurd (hfind.symm.trans hfind') nofun
  · obtain ⟨-, ⟨⟨_, _, hfind'⟩, -⟩ | ⟨-, names', hne', hnames', hpath', hrelative'⟩⟩ :=
      cases_of_found ht hu
    · exact absurd (hfind.symm.trans hfind') nofun
    · rw [hpath, hpath', ← Path.join_names hne hnames, ← Path.join_names hne' hnames', ← hrelative,
        ← hrelative', h]

/-- **The names of the files that are found.** From a root in any spelling, and whatever the scan is
told, a report shows a reference under the path that leads from the root to its file, as a text.
If that path is a text, the name itself leads to the file, and two files for which it is have
different names; if it is not, the name leads elsewhere. A name is empty in one case only, if the
root is a file itself. -/
theorem fileName_of_found (t : FileTree) (ht : t.WellFormed) (env : Environment) (s : ScanSettings)
    (root : Path) :
    (∀ r : Reference, r.file ∈ Discovery.sourceFiles t env s root →
      Path.same (Path.join root (relative root r)) r.file.path ∧
        ∃ name, ShowsAs root r name ∧ name = (relative root r).display ∧
          (Path.same (Path.join root (Utf8.ofText name)) r.file.path ↔
            Utf8.IsText (relative root r)) ∧
          (name = "" ↔ ∃ spot content, t.find root = .ok (spot, .file content))) ∧
    (∀ r u : Reference, r.file ∈ Discovery.sourceFiles t env s root →
      u.file ∈ Discovery.sourceFiles t env s root →
      ∀ name, ShowsAs root r name → ShowsAs root u name →
        r.file = u.file ∨ ¬Utf8.IsText (relative root r) ∨ ¬Utf8.IsText (relative root u)) := by
  constructor
  · intro r hr
    obtain ⟨hroot, ⟨hfind, hpath, hrelative⟩ |
      ⟨⟨top, hfind⟩, names, hne, hnames, hpath, hrelative⟩⟩ := cases_of_found ht hr
    · have hsame : Path.same (Path.join root []) root = true :=
        beq_iff_eq.2 (Path.parts_join_nil hroot)
      have hname : (relative root r).display = "" := by
        rw [hrelative]
        rfl
      rw [hpath]
      refine ⟨by rw [hrelative, hsame], _, showsAs_iff.2 rfl, rfl, ?_, fun _ => hfind,
        fun _ => hname⟩
      rw [fileName, hname, hrelative]
      exact ⟨fun _ => ⟨"", rfl⟩, fun _ => hsame⟩
    · have hsame : Path.same (Path.join root (relative root r)) r.file.path = true := by
        rw [hrelative, hpath, Path.join_names hne hnames, Path.same, beq_self_eq_true]
      refine ⟨hsame, _, showsAs_iff.2 rfl, rfl, ?_, fun h => ?_, ?_⟩
      · rw [fileName, hrelative, hpath]
        exact Path.same_join_display_iff hroot hne hnames
      · have hnil : Utf8.decodeLossy (relative root r) = [] := String.ofList_eq_empty_iff.1 h
        exact absurd hnil (Utf8.decodeLossy_ne_nil (hrelative ▸ Path.intercalate_ne_nil hne hnames))
      · rintro ⟨spot, content, hfile⟩
        rw [hfind] at hfile
        cases hfile
  · intro r u hr hu name hshown hshown'
    have hdisplay : (relative root r).display = (relative root u).display :=
      (showsAs_iff.1 hshown).symm.trans (showsAs_iff.1 hshown')
    by_cases htext : Utf8.IsText (relative root r)
    · by_cases htext' : Utf8.IsText (relative root u)
      · -- Both paths from the root are got back from the name, so they are one path.
        refine Or.inl (SourceFile.eq_of_path (path_eq_of_relative ht hr hu ?_))
        rw [← Utf8.isText_iff.1 htext, ← Utf8.isText_iff.1 htext']
        exact congrArg Utf8.ofText hdisplay
      · exact Or.inr (Or.inr htext')
    · exact Or.inr (Or.inl htext)

/-- The name of a source file with a byte in it. -/
def oddName (b : UInt8) : Bytes := Utf8.ofText "b" ++ b :: Utf8.ofText ".cs"

/-- A folder with source files in it and in a folder of its own, two of them under names that are no
text. -/
def sourceTree : FileTree where
  entries := [(["w"], .folder), (["w", "src"], .folder), (["w", "src", "a.cs"], .file []),
    (["w", "src", oddName 0xfe], .file []), (["w", "src", oddName 0xff], .file []),
    (["w", "src", "sub"], .folder), (["w", "src", "sub", "b.cs"], .file [])]
  current := ["w"]

/-- Somewhere to run without any settings. -/
def bareEnvironment : Environment := ⟨"/home", "/home/.config", 1, false⟩

theorem wellFormed_sourceTree : sourceTree.WellFormed := by
  constructor <;> decide +kernel

/-- A reference in a file. -/
def referenceIn (p : Path) : Reference := ⟨SourceFile.ofPath p, 1, ["", "K", ""]⟩

/-- The name of a file in the inner folder leads to it, and the file next to that folder has another
one. -/
theorem fileName_sourceTree :
    sourceTree.WellFormed ∧
      (∃ name, ShowsAs ".//src/." (referenceIn ".//src/./sub/b.cs") name ∧ name ≠ "" ∧
        Path.same (Path.join ".//src/." (Utf8.ofText name)) ".//src/./sub/b.cs") ∧
      ∀ name, ShowsAs ".//src/." (referenceIn ".//src/./sub/b.cs") name →
        ¬ShowsAs ".//src/." (referenceIn ".//src/./a.cs") name := by
  have hinner : (referenceIn ".//src/./sub/b.cs").file ∈
      Discovery.sourceFiles sourceTree bareEnvironment .standard ".//src/." := by decide +kernel
  have houter : (referenceIn ".//src/./a.cs").file ∈
      Discovery.sourceFiles sourceTree bareEnvironment .standard ".//src/." := by decide +kernel
  have htext : Utf8.IsText (relative ".//src/." (referenceIn ".//src/./sub/b.cs")) := by
    decide +kernel
  obtain ⟨hnames, hdistinct⟩ :=
    fileName_of_found sourceTree wellFormed_sourceTree bareEnvironment .standard ".//src/."
  refine ⟨wellFormed_sourceTree, ?_, fun name hname hname' => ?_⟩
  · obtain ⟨-, name, hname, hshown, hsame, -⟩ := hnames _ hinner
    exact ⟨name, hname, hshown ▸ by decide +kernel, hsame.2 htext⟩
  · rcases hdistinct _ _ hinner houter name hname hname' with heq | htext' | htext'
    · exact absurd heq (by decide +kernel)
    · exact htext' htext
    · exact htext' (by decide +kernel)

/-- Two files whose names are no text are both found, and reports show one name for both. -/
theorem exists_shown_alike :
    ∃ r u : Reference,
      r.file ∈ Discovery.sourceFiles sourceTree bareEnvironment .standard "src" ∧
        u.file ∈ Discovery.sourceFiles sourceTree bareEnvironment .standard "src" ∧
        Path.same r.file.path u.file.path = false ∧
        ∃ name, ShowsAs "src" r name ∧ ShowsAs "src" u name := by
  refine ⟨referenceIn (Utf8.ofText "src/" ++ oddName 0xfe),
    referenceIn (Utf8.ofText "src/" ++ oddName 0xff), by decide +kernel, by decide +kernel,
    by decide +kernel, _, showsAs_iff.2 rfl, showsAs_iff.2 ?_⟩
  decide +kernel

/-- **A root that is a file** is found, and a report shows no name for it. -/
theorem fileName_of_single :
    ∃ r : Reference,
      r.file ∈ Discovery.sourceFiles sourceTree bareEnvironment .standard "src/a.cs" ∧
        ¬ ∃ name, ShowsAs "src/a.cs" r name ∧ name ≠ "" := by
  refine ⟨referenceIn "src/a.cs", by decide +kernel, ?_⟩
  rintro ⟨name, hshown, hname⟩
  exact hname ((showsAs_iff.1 hshown).trans (by decide +kernel))

end Report

end KeyTrace
