import Mathlib.Data.List.Basic
import KeyTrace.Proofs.Json.Members
import KeyTrace.Resource

/-!
# The keys of a JSON document

The keys of a document are collected with the key of the object around them passed down, which is
empty at the root and nowhere else as long as the members of the root have names. Passing down is
undone here: below a value whose key is not empty, the keys are that key followed by the names on
the way to each leaf, all joined with dots. The names are read off the key again by cutting it at
its dots, which no name holds.

## Main definitions

* `Resource.leafPaths`: the names on the way to each leaf of a value.

## Main results

* `Resource.mem_leafPaths`, `Resource.nodup_leafPaths`: these lead to all leaves, and to each once.
* `Resource.leafKeys_eq`: the keys below a key that is not empty.
* `Resource.leafKeys_exact`: each leaf of a document gives one key, the names on the way to it, and
  nothing else gives any.
-/

namespace KeyTrace

namespace Resource

open JsonValue

mutual

/-- The names on the way to each leaf of a value, in the order of its members. -/
def leafPaths : JsonValue → List (List String)
  | .object members => memberPaths members
  | .null => [[]]
  | .bool _ => [[]]
  | .number _ => [[]]
  | .string _ => [[]]
  | .array _ => [[]]

/-- The names on the way to each leaf of members. -/
def memberPaths : List (String × JsonValue) → List (List String)
  | [] => []
  | (name, value) :: rest => (leafPaths value).map (name :: ·) ++ memberPaths rest

end

variable {key name : String} {v : JsonValue} {members : List (String × JsonValue)}
  {path path' : List String}

/-! ### Paths -/

theorem leafPaths_of_leaf (h : v.isObject = false) : leafPaths v = [[]] := by
  cases v with
  | object => cases h
  | _ => rw [leafPaths]

theorem leafPaths_object (members : List (String × JsonValue)) :
    leafPaths (.object members) = members.flatMap fun m => (leafPaths m.2).map (m.1 :: ·) := by
  rw [leafPaths]
  induction members with
  | nil => rw [memberPaths, List.flatMap_nil]
  | cons m rest ih => rw [memberPaths, ih, List.flatMap_cons]

theorem mem_leafPaths (v : JsonValue) : ∀ {path}, path ∈ leafPaths v ↔ v.IsLeaf path := by
  induction v using objectInduction with
  | leaf v hleaf =>
    intro path
    rw [leafPaths_of_leaf hleaf, isLeaf_of_leaf hleaf, List.mem_singleton]
  | object members ih =>
    intro path
    rw [leafPaths_object, isLeaf_object, List.mem_flatMap]
    refine exists_congr fun m => and_congr_right fun hm => ?_
    rw [List.mem_map]
    exact exists_congr fun rest => and_congr (ih m hm) eq_comm

/-- Ways through members of different names differ at once, ways through one member further on. -/
theorem nodup_leafPaths (hv : v.DistinctNames) : (leafPaths v).Nodup := by
  induction v using objectInduction with
  | leaf v hleaf =>
    rw [leafPaths_of_leaf hleaf]
    exact List.nodup_singleton _
  | object members ih =>
    rw [leafPaths_object, List.nodup_flatMap]
    constructor
    · intro m hm
      exact (ih m hm (hv.member hm)).map (List.cons_injective)
    · refine (List.pairwise_map.1 hv.nodup).imp fun {m m'} hne path hpath hpath' => ?_
      obtain ⟨rest, -, rfl⟩ := List.mem_map.1 hpath
      obtain ⟨rest', -, heq⟩ := List.mem_map.1 hpath'
      exact hne (List.cons.inj heq).1.symm

/-! ### Keys -/

theorem leafKeys_of_leaf (h : v.isObject = false) (hkey : key ≠ "") : leafKeys key v = [key] := by
  have hempty : key.isEmpty = false := by rwa [Bool.eq_false_iff, ne_eq, String.isEmpty_iff]
  cases v with
  | object => cases h
  | _ =>
    rw [leafKeys, hempty]
    rfl

theorem leafKeys_object (key : String) (members : List (String × JsonValue)) :
    leafKeys key (.object members) = members.flatMap fun m => leafKeys (memberKey key m.1) m.2 := by
  rw [leafKeys]
  induction members with
  | nil => rw [memberKeys, List.flatMap_nil]
  | cons m rest ih => rw [memberKeys, ih, List.flatMap_cons]

theorem memberKey_root (name : String) : memberKey "" name = name := rfl

theorem memberKey_of_ne (hkey : key ≠ "") : memberKey key name = key ++ "." ++ name := by
  rw [memberKey, if_neg (mt String.isEmpty_iff.1 hkey)]

/-- The key of a member stands for the names that it joins. -/
theorem intercalate_memberKey (hkey : key ≠ "") :
    ".".intercalate (memberKey key name :: path) = ".".intercalate (key :: name :: path) := by
  rw [memberKey_of_ne hkey, String.intercalate_cons_cons]
  cases path with
  | nil => rw [String.intercalate_singleton, String.intercalate_singleton]
  | cons next path =>
    rw [String.intercalate_cons_cons, String.intercalate_cons_cons]
    simp only [String.append_assoc]

/-- **Below a key that is not empty, each leaf gives that key and the names on the way to it.** -/
theorem leafKeys_eq (v : JsonValue) :
    ∀ {key}, key ≠ "" →
      leafKeys key v = (leafPaths v).map fun path => ".".intercalate (key :: path) := by
  induction v using objectInduction with
  | leaf v hleaf =>
    intro key hkey
    rw [leafKeys_of_leaf hleaf hkey, leafPaths_of_leaf hleaf, List.map_singleton,
      String.intercalate_singleton]
  | object members ih =>
    intro key hkey
    have hmember : ∀ m ∈ members, leafKeys (memberKey key m.1) m.2 =
        ((leafPaths m.2).map (m.1 :: ·)).map fun path => ".".intercalate (key :: path) := by
      intro m hm
      have hne : memberKey key m.1 ≠ "" := by
        rw [memberKey_of_ne hkey]
        simp
      rw [ih m hm hne, List.map_map]
      exact List.map_congr_left fun path _ => intercalate_memberKey hkey
    rw [leafKeys_object, leafPaths_object, List.map_flatMap]
    exact List.flatMap_congr hmember

/-- At the root the first names on the ways are keys of their own. -/
theorem leafKeys_root (hnames : ∀ m ∈ members, m.1 ≠ "") :
    leafKeys "" (.object members) = (leafPaths (.object members)).map (".".intercalate) := by
  have hmember : ∀ m ∈ members, leafKeys (memberKey "" m.1) m.2 =
      ((leafPaths m.2).map (m.1 :: ·)).map (".".intercalate) := by
    intro m hm
    rw [memberKey_root, leafKeys_eq m.2 (hnames m hm), List.map_map]
    rfl
  rw [leafKeys_object, leafPaths_object, List.map_flatMap]
  exact List.flatMap_congr hmember

/-- The way to a leaf of an object has a first name. -/
theorem ne_nil_of_isLeaf_object (h : (JsonValue.object members).IsLeaf path) : path ≠ [] := by
  obtain ⟨m, -, rest, -, rfl⟩ := isLeaf_object.1 h
  exact List.cons_ne_nil _ _

/-- Names without dots are what a key is cut into at its dots. -/
theorem splitOn_intercalate_dot (hpath : path ≠ []) (hdot : ∀ name ∈ path, '.' ∉ name.toList) :
    (".".intercalate path).toList.splitOn '.' = path.map String.toList := by
  rw [String.toList_intercalate]
  refine List.splitOn_intercalate '.' ?_ (by simpa using hpath)
  intro chars hchars
  obtain ⟨name, hname, rfl⟩ := List.mem_map.1 hchars
  exact hdot name hname

/-- Two ways that give one key differ in where a dot stands in a name. -/
theorem exists_dot_of_intercalate_eq (hpath : path ≠ []) (hpath' : path' ≠ []) (hne : path ≠ path')
    (h : ".".intercalate path = ".".intercalate path') :
    ∃ name ∈ path ++ path', '.' ∈ name.toList := by
  by_contra hdot
  push Not at hdot
  have hcut := splitOn_intercalate_dot hpath fun name hname =>
    hdot name (List.mem_append_left _ hname)
  have hcut' := splitOn_intercalate_dot hpath' fun name hname =>
    hdot name (List.mem_append_right _ hname)
  rw [h, hcut'] at hcut
  exact hne (List.map_injective_iff.2 (fun _ _ => String.toList_injective) hcut).symm

/-- No way to a leaf goes through an object without members. -/
theorem append_not_mem_leafPaths (hv : v.DistinctNames) (h : Reaches v path (.object []))
    (rest : List String) : path ++ rest ∉ leafPaths v := by
  intro hmem
  obtain ⟨leaf, hreach, hleaf⟩ := (mem_leafPaths v).1 hmem
  obtain ⟨between, hpath, hrest⟩ := hreach.split
  obtain rfl := hpath.unique h hv
  cases hrest with
  | here => cases hleaf
  | member hm => cases hm

/-- **The keys of a document are those of its leaves, each once.** The objects that are read hold
their members by distinct names, and what is collected of them are the keys below an empty one. Of
such an object whose members have names that are not empty, however deep and wide it is: the ways to
its leaves are listed once each, names lead to one value, and the keys are the ways in this order,
their names joined with dots; nothing is listed at or below an object without members; and two ways
give one key only where a name on one of them has a dot. The names of members further inside may be
empty, too. -/
theorem leafKeys_exact :
    (∀ {p : Path} {text : List Char} {v : JsonValue},
      Lowercase.lower ((Path.textExtension? p).getD "") = "json" → read? text = some v →
        v.DistinctNames ∧ keysOf p text = .ok (leafKeys "" v)) ∧
    ∀ {members : List (String × JsonValue)}, (JsonValue.object members).DistinctNames →
      (∀ m ∈ members, m.1 ≠ "") →
        (leafPaths (.object members)).Nodup ∧
        (∀ path, path ∈ leafPaths (.object members) ↔ IsLeaf (.object members) path) ∧
        (∀ path a b, Reaches (.object members) path a → Reaches (.object members) path b → a = b) ∧
        leafKeys "" (.object members) = (leafPaths (.object members)).map (".".intercalate) ∧
        (∀ path rest, Reaches (.object members) path (.object []) →
          path ++ rest ∉ leafPaths (.object members)) ∧
        ∀ path ∈ leafPaths (.object members), ∀ path' ∈ leafPaths (.object members),
          path ≠ path' → ".".intercalate path = ".".intercalate path' →
            ∃ name ∈ path ++ path', '.' ∈ name.toList := by
  constructor
  · intro p text v hext hread
    refine ⟨distinctNames_of_read? hread, ?_⟩
    unfold keysOf
    rw [hext]
    simp only [hread]
  · intro members hdistinct hnames
    refine ⟨nodup_leafPaths hdistinct, fun _ => mem_leafPaths _,
      fun _ _ _ ha hb => ha.unique hb hdistinct, leafKeys_root hnames,
      fun _ rest hreach => append_not_mem_leafPaths hdistinct hreach rest, ?_⟩
    intro path hpath path' hpath' hne heq
    exact exists_dot_of_intercalate_eq (ne_nil_of_isLeaf_object ((mem_leafPaths _).1 hpath))
      (ne_nil_of_isLeaf_object ((mem_leafPaths _).1 hpath')) hne heq

/-- The names of the members of an object. -/
def memberNames? : JsonValue → Option (List String)
  | .object members => some (members.map Prod.fst)
  | _ => none

/-- A document with an object inside another, an empty object, a list that holds an object and a
name with a dot. -/
def dottedDocument : List Char :=
  "\x7b\"a\": \x7b\"b\": 1, \"c\": \x7b\x7d\x7d, \"a.b\": [1, \x7b\"x\": 2\x7d]\x7d".toList

/-- Two leaves of the document have one key, and a name on the way to one of them has a dot. -/
theorem leafKeys_dottedDocument :
    ∃ members, read? dottedDocument = some (.object members) ∧
      leafPaths (.object members) = [["a", "b"], ["a.b"]] ∧
      keysOf "texts.json" dottedDocument = .ok ["a.b", "a.b"] ∧
      ∃ name ∈ ["a", "b"] ++ ["a.b"], '.' ∈ name.toList := by
  have hvalue : (read? dottedDocument).map (fun v => (memberNames? v, leafPaths v)) =
      some (some ["a", "a.b"], [["a", "b"], ["a.b"]]) := by decide +kernel
  obtain ⟨v, hread, hv⟩ := Option.map_eq_some_iff.1 hvalue
  obtain ⟨hnames, hpaths⟩ := Prod.mk.inj hv
  cases v with
  | object members =>
    have hne : ∀ m ∈ members, m.1 ≠ "" := by
      intro m hm
      have hmem : m.1 ∈ ["a", "a.b"] := Option.some.inj hnames ▸ List.mem_map_of_mem hm
      exact fun hempty => absurd (hempty ▸ hmem) (by decide)
    obtain ⟨hdistinct, hkeys⟩ := leafKeys_exact.1 (p := "texts.json") (by decide +kernel) hread
    obtain ⟨-, -, -, hall, -, hdot⟩ := leafKeys_exact.2 hdistinct hne
    rw [hpaths] at hall hdot
    refine ⟨members, hread, hpaths, ?_, ?_⟩
    · rw [hkeys, hall]
      decide +kernel
    · exact hdot _ (by decide) _ (by decide) (by decide) (by decide +kernel)
  | _ => cases hnames

end Resource

end KeyTrace
