import KeyTrace.Json.Reader
import KeyTrace.Proofs.Ascending

/-!
# The members of JSON objects

Objects hold values by name, and names on the way from object to object lead to every value that is
not inside an array. While an object is read its members are kept in ascending order of their names,
so that no two of them have the same name, in however many places a document writes it.

## Main definitions

* `JsonValue.Reaches`: the names on the way from a value to another.
* `JsonValue.IsLeaf`: the names on the way to a leaf.
* `JsonValue.DistinctNames`: no object on any way has two members of the same name.

## Main results

* `JsonValue.objectInduction`: induction over the members of objects.
* `JsonValue.Reaches.unique`: names lead to one value.
* `JsonValue.distinctNames_of_read?`: this is so in every document that is read.
-/

namespace KeyTrace

namespace JsonValue

/-- Whether a value is an object. Everything else is a leaf. -/
def isObject : JsonValue → Bool
  | .object _ => true
  | _ => false

/-- The names on the way through objects lead from a value to another. -/
inductive Reaches : JsonValue → List String → JsonValue → Prop where
  | here (v : JsonValue) : Reaches v [] v
  | member {name : String} {value v : JsonValue} {members : List (String × JsonValue)}
    {path : List String} (hm : (name, value) ∈ members) (h : Reaches value path v) :
    Reaches (.object members) (name :: path) v

/-- No object on any way has two members of the same name. -/
def DistinctNames (v : JsonValue) : Prop :=
  ∀ path members, Reaches v path (.object members) → (members.map Prod.fst).Nodup

/-- The names on the way lead to a leaf. -/
def IsLeaf (v : JsonValue) (path : List String) : Prop :=
  ∃ leaf, Reaches v path leaf ∧ leaf.isObject = false

variable {v value : JsonValue} {members : List (String × JsonValue)} {path : List String}

/-- What holds of leaves, and of objects if it holds of their members, holds of all values. -/
theorem objectInduction {motive : JsonValue → Prop}
    (leaf : ∀ v, v.isObject = false → motive v)
    (object : ∀ members, (∀ m ∈ members, motive m.2) → motive (.object members)) :
    ∀ v, motive v
  | .object members => object members fun m _ => objectInduction leaf object m.2
  | .null => leaf _ rfl
  | .bool _ => leaf _ rfl
  | .number _ => leaf _ rfl
  | .string _ => leaf _ rfl
  | .array _ => leaf _ rfl
termination_by v => sizeOf v
decreasing_by
  have hmember := List.sizeOf_lt_of_mem ‹m ∈ members›
  have hvalue : sizeOf m.2 < sizeOf m := by
    obtain ⟨name, value⟩ := m
    show sizeOf value < sizeOf (name, value)
    rw [Prod.mk.sizeOf_spec]
    omega
  rw [JsonValue.object.sizeOf_spec]
  omega

theorem DistinctNames.nodup (h : DistinctNames (.object members)) :
    (members.map Prod.fst).Nodup := h [] members (.here _)

theorem DistinctNames.member (h : DistinctNames (.object members)) {m : String × JsonValue}
    (hm : m ∈ members) : m.2.DistinctNames :=
  fun path inner hinner => h (m.1 :: path) inner (.member hm hinner)

/-- Members with distinct names are told by them. -/
theorem eq_of_mem_of_mem (h : (members.map Prod.fst).Nodup) {name : String} {v v' : JsonValue}
    (hm : (name, v) ∈ members) (hm' : (name, v') ∈ members) : v = v' :=
  congrArg Prod.snd (List.inj_on_of_nodup_map h hm hm' rfl)

theorem distinctNames_object (hnodup : (members.map Prod.fst).Nodup)
    (h : ∀ m ∈ members, m.2.DistinctNames) : DistinctNames (.object members) := by
  intro path inner hreach
  cases hreach with
  | here => exact hnodup
  | member hm hinner => exact h _ hm _ _ hinner

theorem distinctNames_of_leaf (h : v.isObject = false) : v.DistinctNames := by
  intro path inner hreach
  cases hreach with
  | here => cases h
  | member => cases h

/-- Where names are distinct, names lead to one value. -/
theorem Reaches.unique {v w w' : JsonValue} {path : List String} (h : Reaches v path w)
    (h' : Reaches v path w') (hv : v.DistinctNames) : w = w' := by
  induction h with
  | here =>
    cases h'
    rfl
  | member hm h ih =>
    cases h' with
    | member hm' h' =>
      obtain rfl := eq_of_mem_of_mem hv.nodup hm hm'
      exact ih h' (hv.member hm)

/-- On the way there is a value after any number of names. -/
theorem Reaches.split {v w : JsonValue} {path rest : List String} (h : Reaches v (path ++ rest) w) :
    ∃ between, Reaches v path between ∧ Reaches between rest w := by
  induction path generalizing v with
  | nil => exact ⟨v, .here v, h⟩
  | cons name path ih =>
    cases h with
    | member hm h =>
      obtain ⟨between, hpath, hrest⟩ := ih h
      exact ⟨between, .member hm hpath, hrest⟩

theorem isLeaf_of_leaf (h : v.isObject = false) : v.IsLeaf path ↔ path = [] := by
  constructor
  · rintro ⟨leaf, hreach, -⟩
    cases hreach with
    | here => rfl
    | member => cases h
  · rintro rfl
    exact ⟨v, .here v, h⟩

theorem isLeaf_object :
    (JsonValue.object members).IsLeaf path ↔
      ∃ m ∈ members, ∃ rest, m.2.IsLeaf rest ∧ path = m.1 :: rest := by
  constructor
  · rintro ⟨leaf, hreach, hleaf⟩
    cases hreach with
    | here => cases hleaf
    | member hm hreach => exact ⟨_, hm, _, ⟨leaf, hreach, hleaf⟩, rfl⟩
  · rintro ⟨m, hm, rest, ⟨leaf, hreach, hleaf⟩, rfl⟩
    exact ⟨leaf, .member hm hreach, hleaf⟩

/-! ### Values that are read -/

/-- Members as they are kept while they are read: in ascending order of their names. -/
structure Kept (members : List (String × JsonValue)) : Prop where
  sorted : members.Pairwise fun a b => compareText a.1 b.1 = .lt
  distinct : ∀ m ∈ members, m.2.DistinctNames

theorem Kept.nil : Kept [] := ⟨.nil, nofun⟩

/-- A member that is read is put in its place. -/
theorem Kept.setMember (h : Kept members) (name : String) (hv : v.DistinctNames) :
    Kept (setMember name v members) := by
  have htrans : Std.TransCmp fun a b : String × JsonValue => compareText a.1 b.1 :=
    transCmp_comap Prod.fst compareText
  refine ⟨Ascending.pairwise_insert h.sorted, fun m hm => ?_⟩
  rcases Ascending.mem_of_mem_insert hm with rfl | hm
  · exact hv
  · exact h.distinct m hm

theorem Kept.distinctNames (h : Kept members) : DistinctNames (.object members) := by
  refine distinctNames_object (List.pairwise_map.2 (h.sorted.imp fun hlt heq => ?_)) h.distinct
  rw [heq] at hlt
  exact absurd (Std.ReflCmp.compare_self.symm.trans hlt) (by decide)

/-- Reading a leaf. -/
theorem distinctNames_of_map {α : Type} {read? : Option α} {f : α → JsonValue × List Char}
    {left : List Char} (hleaf : ∀ a, (f a).1.isObject = false) (h : read?.map f = some (v, left)) :
    v.DistinctNames := by
  obtain ⟨a, -, heq⟩ := Option.map_eq_some_iff.1 h
  have hv : (f a).1 = v := congrArg Prod.fst heq
  exact distinctNames_of_leaf (hv ▸ hleaf a)

theorem distinctNames_of_readWord {word : String} {s left : List Char}
    (hvalue : value.isObject = false) (h : readWord word value s = some (v, left)) :
    v.DistinctNames := by
  rw [readWord] at h
  split at h
  · obtain ⟨rfl, -⟩ := Prod.mk.inj (Option.some.inj h)
    exact distinctNames_of_leaf hvalue
  · cases h

/-- One step deeper than a value are the members that are kept, one step deeper than those their
values: both are followed together. -/
theorem distinctNames_of_readValue (fuel : Nat) :
    (∀ {depth s left v}, readValue fuel depth s = some (v, left) → v.DistinctNames) ∧
      ∀ {depth s left members inner}, Kept members →
        readMembers fuel depth members s = some (inner, left) → Kept inner := by
  induction fuel with
  | zero => exact ⟨nofun, nofun⟩
  | succ fuel ih =>
    obtain ⟨ihValue, ihMembers⟩ := ih
    constructor
    · intro depth s left v h
      rw [readValue] at h
      split at h
      · cases h
      · rename_i c rest _
        split at h
        · exact distinctNames_of_map (fun _ => rfl) h
        · split at h
          · cases h
          · split at h
            · obtain ⟨rfl, -⟩ := Prod.mk.inj (Option.some.inj h)
              exact distinctNames_of_leaf rfl
            · exact distinctNames_of_map (fun _ => rfl) h
        · split at h
          · cases h
          · split at h
            · obtain ⟨rfl, -⟩ := Prod.mk.inj (Option.some.inj h)
              exact Kept.nil.distinctNames
            · obtain ⟨⟨inner, after⟩, hread, heq⟩ := Option.map_eq_some_iff.1 h
              obtain ⟨rfl, -⟩ := Prod.mk.inj heq
              exact (ihMembers .nil hread).distinctNames
        · exact distinctNames_of_readWord rfl h
        · exact distinctNames_of_readWord rfl h
        · exact distinctNames_of_readWord rfl h
        · exact distinctNames_of_map (fun _ => rfl) h
    · intro depth s left members inner hkept h
      rw [readMembers] at h
      split at h
      · rename_i rest _
        obtain ⟨⟨name, after⟩, -, h⟩ := Option.bind_eq_some_iff.1 h
        dsimp only at h
        split at h
        · obtain ⟨⟨v, after⟩, hread, h⟩ := Option.bind_eq_some_iff.1 h
          have hkept := hkept.setMember (String.ofList name) (ihValue hread)
          dsimp only at h
          split at h
          · exact ihMembers hkept h
          · obtain ⟨rfl, -⟩ := Prod.mk.inj (Option.some.inj h)
            exact hkept
          · cases h
        · cases h
      · cases h

/-- **No object of a document that is read has two members of the same name.** -/
theorem distinctNames_of_read? {s : List Char} (h : read? s = some v) : v.DistinctNames := by
  obtain ⟨⟨value, left⟩, hread, h⟩ := Option.bind_eq_some_iff.1 h
  dsimp only at h
  split at h
  · exact Option.some.inj h ▸ (distinctNames_of_readValue _).1 hread
  · cases h

end JsonValue

end KeyTrace
