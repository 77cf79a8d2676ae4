import KeyTrace.Proofs.Ascending
import KeyTrace.Proofs.Attempts
import KeyTrace.Resource

/-!
# The entries of several files

Files are read one after another, each by what its extension says it is, and the keys of a file go
under its base name, which other files may share. What comes out is the union of all these sets of
entries: neither the order of the files matters nor how often one is listed, and entries that are in
several files are there once. The first file that cannot be used ends it all, so that a list of
entries never leaves out a file.

## Main definitions

* `Resource.IsBaseName`: the file name of a path up to its first dot.
* `Resource.Usable`, `Resource.Refused`: files that can be used, and what is wrong with those that
  cannot.
* `Resource.HasKey`: the keys in a file.

## Main results

* `Resource.usable_iff`: a file can be used unless something is wrong with it.
* `Resource.load_union`: the entries of several files.
-/

namespace KeyTrace

/-! ### The order of entries -/

namespace Entry

open Std (TransCmp LawfulEqCmp)

instance transCmp_compare : TransCmp Entry.compare := by
  have : TransCmp fun a b : Entry => compareText a.container b.container :=
    transCmp_comap container _
  have : TransCmp fun a b : Entry => compareText a.key b.key := transCmp_comap key _
  exact inferInstanceAs (TransCmp (compareLex
    (fun a b : Entry => compareText a.container b.container) fun a b => compareText a.key b.key))

instance lawfulEqCmp_compare : LawfulEqCmp Entry.compare where
  eq_of_compare {a b} h := by
    obtain ⟨hcontainer, hkey⟩ := Ordering.then_eq_eq.1 h
    obtain ⟨c, k⟩ := a
    obtain rfl : c = b.container := LawfulEqCmp.eq_of_compare hcontainer
    obtain rfl : k = b.key := LawfulEqCmp.eq_of_compare hkey
    rfl

/-- Entries are in the order of their containers, those of one container in the order of their
keys. -/
theorem compare_eq_lt_iff {a b : Entry} :
    a.compare b = .lt ↔
      a.container < b.container ∨ a.container = b.container ∧ a.key < b.key := by
  rw [Entry.compare, Ordering.then_eq_lt]
  exact or_congr compareOfLessAndEq_eq_lt
    (and_congr Std.LawfulEqCmp.compare_eq_iff_eq compareOfLessAndEq_eq_lt)

end Entry

namespace Resource

variable {t : FileTree} {p : Path}

/-! ### Single files -/

/-- The file name of a path up to its first dot; without a file name it is empty. -/
def IsBaseName (p : Path) (base : String) : Prop :=
  '.' ∉ base.toList ∧
    (p.nameText = base ∨ ∃ rest, p.nameText = base ++ "." ++ rest)

/-- What the extension of a path says that the file is, in lower case. -/
def fileType (p : Path) : String := Lowercase.lower (p.textExtension?.getD "")

/-- A file that can be read, is of a known type and, if it should be JSON, is. -/
inductive Usable (t : FileTree) (p : Path) : Prop
  | markup {text : List Char} (hread : t.readText p = .ok text)
      (htype : fileType p = "resx" ∨ fileType p = "resw")
  | document {text : List Char} {v : JsonValue} (hread : t.readText p = .ok text)
      (htype : fileType p = "json") (hvalue : JsonValue.read? text = some v)

/-- What is wrong with a file that cannot be used. -/
inductive Refused (t : FileTree) (p : Path) : ResourceFault → Prop
  | unreadable {e : OsError} (hread : t.readText p = .error e) : Refused t p (.unreadable e)
  | notJson {text : List Char} (hread : t.readText p = .ok text) (htype : fileType p = "json")
      (hvalue : JsonValue.read? text = none) : Refused t p .notJson
  | unsupported {text : List Char} (hread : t.readText p = .ok text)
      (htype : fileType p ∉ ["resx", "resw", "json"]) : Refused t p (.unsupported (fileType p))

/-- The keys in a file: the names in markup, the keys of the leaves of a JSON document. -/
inductive HasKey (t : FileTree) (p : Path) (key : String) : Prop
  | markup {text : List Char} (hread : t.readText p = .ok text)
      (htype : fileType p = "resx" ∨ fileType p = "resw") (hkey : key ∈ Markup.names text)
  | document {text : List Char} {v : JsonValue} (hread : t.readText p = .ok text)
      (htype : fileType p = "json") (hvalue : JsonValue.read? text = some v)
      (hkey : key ∈ leafKeys "" v)

theorem container_eq_iff {base : String} : container p = base ↔ IsBaseName p base := by
  rw [container, IsBaseName]
  generalize p.nameText = name
  constructor
  · rintro rfl
    have hdot : '.' ∉ name.toList.takeWhile fun c => c != '.' :=
      fun hmem => by simpa using List.mem_takeWhile_imp hmem
    refine ⟨by simpa using hdot, ?_⟩
    have hsplit := List.takeWhile_append_dropWhile (p := fun c => c != '.') (l := name.toList)
    have hhead := List.head?_dropWhile_not (fun c => c != '.') name.toList
    cases hrest : name.toList.dropWhile fun c => c != '.' with
    | nil =>
      rw [hrest, List.append_nil] at hsplit
      exact Or.inl (by rw [hsplit, String.ofList_toList])
    | cons c rest =>
      rw [hrest] at hsplit hhead
      obtain rfl : c = '.' := by simpa using hhead
      refine Or.inr ⟨String.ofList rest, String.toList_injective ?_⟩
      simpa using hsplit.symm
  · rintro ⟨hdot, hname⟩
    have hbase : ∀ c ∈ base.toList, (c != '.') = true := by
      intro c hc
      simpa using fun heq : c = '.' => hdot (heq ▸ hc)
    rcases hname with rfl | ⟨rest, rfl⟩
    · rw [List.takeWhile_eq_self_iff.2 hbase, String.ofList_toList]
    · rw [String.toList_append, String.toList_append, List.append_assoc,
        List.takeWhile_append_of_pos hbase]
      simp

/-- What the keys in a file are read from, by what its extension says that it is. -/
theorem keysOf_eq (p : Path) (text : List Char) :
    keysOf p text =
      if fileType p = "resx" ∨ fileType p = "resw" then .ok (Markup.names text)
      else if fileType p = "json" then
        (JsonValue.read? text).elim (.error .notJson) fun v => .ok (leafKeys "" v)
      else .error (.unsupported (fileType p)) := by
  unfold keysOf
  rw [← fileType]
  split
  · rename_i h
    simp [h]
  · rename_i h
    simp [h]
  · rename_i h
    cases JsonValue.read? text with
    | none => simp [h]
    | some v => simp [h]
  · rename_i hresx hresw hjson
    rw [if_neg (not_or.2 ⟨hresx, hresw⟩), if_neg hjson]

theorem entriesOf_of_read {text : List Char} (hread : t.readText p = .ok text) :
    entriesOf t p =
      ((keysOf p text).map fun keys => keys.map fun k => ⟨container p, k⟩).mapError
        (.resource p) := by
  rw [entriesOf]
  simp only [hread]
  cases keysOf p text with
  | error fault => rfl
  | ok keys => rfl

theorem hasKey_markup_iff {text : List Char} {key : String} (hread : t.readText p = .ok text)
    (htype : fileType p = "resx" ∨ fileType p = "resw") :
    HasKey t p key ↔ key ∈ Markup.names text := by
  refine ⟨fun h => ?_, .markup hread htype⟩
  cases h with
  | markup hread' _ hkey =>
    obtain rfl := Except.ok.inj (hread.symm.trans hread')
    exact hkey
  | document _ htype' => simp [htype'] at htype

theorem hasKey_document_iff {text : List Char} {v : JsonValue} {key : String}
    (hread : t.readText p = .ok text) (htype : fileType p = "json")
    (hvalue : JsonValue.read? text = some v) : HasKey t p key ↔ key ∈ leafKeys "" v := by
  refine ⟨fun h => ?_, .document hread htype hvalue⟩
  cases h with
  | markup _ htype' => simp [htype] at htype'
  | document hread' _ hvalue' hkey =>
    obtain rfl := Except.ok.inj (hread.symm.trans hread')
    obtain rfl := Option.some.inj (hvalue.symm.trans hvalue')
    exact hkey

theorem Usable.exists_keys (h : Usable t p) :
    ∃ keys : List String, entriesOf t p = .ok (keys.map fun k => ⟨container p, k⟩) ∧
      ∀ key, HasKey t p key ↔ key ∈ keys := by
  cases h with
  | @markup text hread htype =>
    refine ⟨Markup.names text, ?_, fun key => hasKey_markup_iff hread htype⟩
    rw [entriesOf_of_read hread, keysOf_eq, if_pos htype]
    rfl
  | @document text v hread htype hvalue =>
    refine ⟨leafKeys "" v, ?_, fun key => hasKey_document_iff hread htype hvalue⟩
    rw [entriesOf_of_read hread, keysOf_eq, if_neg (by simp [htype]), if_pos htype, hvalue]
    rfl

theorem Refused.entriesOf_eq {fault : ResourceFault} (h : Refused t p fault) :
    entriesOf t p = .error (.resource p fault) := by
  cases h with
  | unreadable hread =>
    rw [entriesOf]
    simp only [hread]
  | notJson hread htype hvalue =>
    rw [entriesOf_of_read hread, keysOf_eq, if_neg (by simp [htype]), if_pos htype, hvalue]
    rfl
  | unsupported hread htype =>
    simp only [List.mem_cons, List.not_mem_nil, or_false, not_or] at htype
    rw [entriesOf_of_read hread, keysOf_eq, if_neg (by simp [htype]), if_neg htype.2.2]
    rfl

theorem usable_or_refused (t : FileTree) (p : Path) :
    Usable t p ∨ ∃ fault, Refused t p fault := by
  cases hread : t.readText p with
  | error e => exact Or.inr ⟨_, .unreadable hread⟩
  | ok text =>
    by_cases hmarkup : fileType p = "resx" ∨ fileType p = "resw"
    · exact Or.inl (.markup hread hmarkup)
    · by_cases hjson : fileType p = "json"
      · cases hvalue : JsonValue.read? text with
        | none => exact Or.inr ⟨_, .notJson hread hjson hvalue⟩
        | some v => exact Or.inl (.document hread hjson hvalue)
      · refine Or.inr ⟨_, .unsupported hread ?_⟩
        simpa [not_or, hjson] using hmarkup

/-- **A file can be used unless something is wrong with it**, which is one thing only. -/
theorem usable_iff : Usable t p ↔ ∀ fault, ¬ Refused t p fault := by
  constructor
  · intro husable fault hrefused
    obtain ⟨keys, hok, -⟩ := husable.exists_keys
    exact absurd (hok.symm.trans hrefused.entriesOf_eq) nofun
  · intro h
    rcases usable_or_refused t p with husable | ⟨fault, hrefused⟩
    · exact husable
    · exact absurd hrefused (h fault)

theorem entriesOf_eq_error_iff {e : Failure} :
    entriesOf t p = .error e ↔ ∃ fault, Refused t p fault ∧ e = .resource p fault := by
  constructor
  · intro herror
    rcases usable_or_refused t p with husable | ⟨fault, hrefused⟩
    · obtain ⟨keys, hok, -⟩ := husable.exists_keys
      exact absurd (hok.symm.trans herror) nofun
    · exact ⟨fault, hrefused, Except.error.inj (herror.symm.trans hrefused.entriesOf_eq)⟩
  · rintro ⟨fault, hrefused, rfl⟩
    exact hrefused.entriesOf_eq

theorem usable_iff_exists_ok : Usable t p ↔ ∃ entries, entriesOf t p = .ok entries := by
  constructor
  · intro husable
    obtain ⟨keys, hok, -⟩ := husable.exists_keys
    exact ⟨_, hok⟩
  · rintro ⟨entries, hok⟩
    refine usable_iff.2 fun fault hrefused => ?_
    exact absurd (hrefused.entriesOf_eq.symm.trans hok) nofun

/-! ### Several files -/

/-- The entries of a file, none if it cannot be used. -/
def entriesAt (t : FileTree) (p : Path) : List Entry := (entriesOf t p).toOption.getD []

theorem Usable.entriesOf_eq (h : Usable t p) : entriesOf t p = .ok (entriesAt t p) := by
  obtain ⟨entries, hok⟩ := usable_iff_exists_ok.1 h
  rw [entriesAt, hok]
  rfl

theorem Usable.mem_entriesAt (h : Usable t p) (e : Entry) :
    e ∈ entriesAt t p ↔ IsBaseName p e.container ∧ HasKey t p e.key := by
  obtain ⟨keys, hok, hmem⟩ := h.exists_keys
  rw [Except.ok.inj (h.entriesOf_eq.symm.trans hok), List.mem_map, ← container_eq_iff, hmem]
  constructor
  · rintro ⟨k, hk, rfl⟩
    exact ⟨rfl, hk⟩
  · rintro ⟨hcontainer, hkey⟩
    exact ⟨e.key, hkey, by rw [hcontainer]⟩

/-- What is loaded from files that can all be used. -/
theorem load_of_usable {paths : List Path} (h : ∀ p ∈ paths, Usable t p) :
    load t paths = .ok (Ascending.ofList Entry.compare (paths.flatMap (entriesAt t))) := by
  rw [load, mapM_eq_pure_map fun p hp => (h p hp).entriesOf_eq, List.flatMap]
  rfl

/-- **The entries of several files are a union of sets.** If all files can be used, the entries are
those of the keys of the files, each under the base name of its file, in strictly ascending order;
they depend on the set of the paths only. Otherwise there are no entries, and the failure is that of
the first file that cannot be used. -/
theorem load_union (t : FileTree) (paths : List Path) :
    ((∀ p ∈ paths, Usable t p) →
      ∃ entries, load t paths = .ok entries ∧
        (entries.Pairwise fun a b =>
          a.container < b.container ∨ a.container = b.container ∧ a.key < b.key) ∧
        (∀ e, e ∈ entries ↔ ∃ p ∈ paths, IsBaseName p e.container ∧ HasKey t p e.key) ∧
        ∀ paths' : List Path, (∀ p, p ∈ paths' ↔ p ∈ paths) → load t paths' = .ok entries) ∧
    ∀ e, load t paths = .error e ↔ ∃ before p after, paths = before ++ p :: after ∧
      (∀ q ∈ before, Usable t q) ∧ ∃ fault, Refused t p fault ∧ e = .resource p fault := by
  constructor
  · intro h
    refine ⟨_, load_of_usable h, ?_, fun e => ?_, fun paths' hpaths => ?_⟩
    · exact (Ascending.pairwise_ofList _).imp Entry.compare_eq_lt_iff.1
    · rw [Ascending.mem_ofList, List.mem_flatMap]
      exact exists_congr fun p => and_congr_right fun hp => (h p hp).mem_entriesAt e
    · rw [load_of_usable fun p hp => h p ((hpaths p).1 hp)]
      exact congrArg Except.ok (Ascending.ofList_congr fun e => by simp [hpaths])
  · intro e
    have hload : load t paths = .error e ↔ paths.mapM (entriesOf t) = .error e := by
      rw [load]
      cases paths.mapM (entriesOf t) with
      | error e' =>
        constructor <;>
          exact fun h => congrArg Except.error (Except.error.inj h)
      | ok lists => exact ⟨nofun, nofun⟩
    rw [hload, mapM_eq_error_iff]
    simp only [usable_iff_exists_ok, entriesOf_eq_error_iff]

/-- Files of one container in two languages, one of them JSON, and a file of another kind. -/
def cultureFiles : FileTree :=
  ⟨[(["S.resx"], .file (Utf8.encode "<data name=\"b\"/><data name=\"a\"/>".toList)),
    (["S.de.json"], .file (Utf8.encode "\x7b\"b\": \x7b\"c\": 1\x7d, \"a\": 1\x7d".toList)),
    (["x.txt"], .file [])], []⟩

/-- The paths of the two files. -/
def culturePaths : List Path := ["S.resx", "S.de.json"]

theorem usable_cultureFiles : ∀ p ∈ culturePaths, Usable cultureFiles p := by
  have hmarkup : cultureFiles.readText "S.resx" =
      .ok "<data name=\"b\"/><data name=\"a\"/>".toList := by decide +kernel
  have hdocument : cultureFiles.readText "S.de.json" =
      .ok "\x7b\"b\": \x7b\"c\": 1\x7d, \"a\": 1\x7d".toList := by decide +kernel
  have hvalue : (JsonValue.read?
      "\x7b\"b\": \x7b\"c\": 1\x7d, \"a\": 1\x7d".toList).isSome = true := by decide +kernel
  obtain ⟨v, hv⟩ := Option.isSome_iff_exists.1 hvalue
  intro p hp
  rcases List.mem_pair.1 hp with rfl | rfl
  · exact .markup hmarkup (Or.inl (by decide +kernel))
  · exact .document hdocument (by decide +kernel) hv

/-- The key of both files is there once, and the order of the files makes no difference; the first
failure is that of the file of another kind. -/
theorem load_union_cultureFiles :
    (∃ entries, load cultureFiles culturePaths = .ok entries ∧
      entries = [⟨"S", "a"⟩, ⟨"S", "b"⟩, ⟨"S", "b.c"⟩] ∧
      load cultureFiles ["S.de.json", "S.resx", "S.de.json"] = .ok entries) ∧
    load cultureFiles ["S.resx", "x.txt", "gone.resx"] =
      .error (.resource "x.txt" (.unsupported "txt")) := by
  constructor
  · obtain ⟨entries, hok, -, -, hset⟩ :=
      (load_union cultureFiles culturePaths).1 usable_cultureFiles
    have hload : load cultureFiles culturePaths =
        .ok [⟨"S", "a"⟩, ⟨"S", "b"⟩, ⟨"S", "b.c"⟩] := by decide +kernel
    exact ⟨entries, hok, Except.ok.inj (hok.symm.trans hload), hset _ (by simp [culturePaths, or_comm])⟩
  · have hread : cultureFiles.readText "x.txt" = .ok [] := by decide +kernel
    have htype : fileType "x.txt" = "txt" := by decide +kernel
    refine ((load_union _ _).2 _).2 ⟨["S.resx"], "x.txt", ["gone.resx"], rfl, ?_,
      .unsupported "txt", htype ▸ .unsupported hread (by rw [htype]; decide), rfl⟩
    intro q hq
    exact usable_cultureFiles q (List.mem_cons.2 (Or.inl (List.mem_singleton.1 hq)))

end Resource

end KeyTrace
