import KeyTrace.Proofs.Toml.Values

/-!
# Reading the lines of a document

A document is read line by line, and each line changes the table of the document: a header begins a
table in it, and a key adds a member to the table that the last header began. What is read so far is
told by the members of that table alone, so the lines under a header can be read one by one.

## Main definitions

* `Toml.Follows`: reading some lines leads from one state to another.
* `Toml.IsSpot`: a place in a document whose table grows by keys; `Toml.top`, `Toml.inTable`,
  `Toml.inTables`: the document itself, a table with a header, the last one of several tables.
* `Toml.WrittenMember`: a key and a value, and how the value is written.

## Main results

* `Toml.follows_member`, `Toml.follows_members`: a line with a key, and several of them.
* `Toml.follows_header`: the header of a table; `Toml.follows_firstTable`, `Toml.follows_nextTable`:
  the headers of several tables of one name.
* `Toml.read?_of_follows`: what is read when there are no lines left.
-/

namespace KeyTrace

/-! ### Members of tables -/

namespace TomlTable

variable {t : TomlTable} {name : String} {v : TomlValue} {before : List (String × TomlValue)}

theorem set_of_none (h : t.get? name = none) (v : TomlValue) :
    t.set name v = { t with members := t.members ++ [(name, v)] } := by
  rw [set, h]
  rfl

theorem get?_last (ht : t.members = before ++ [(name, v)]) (h : before.lookup name = none) :
    t.get? name = some v := by
  rw [get?, ht, List.lookup_append, h]
  simp

/-- The value of the last name replaced. -/
theorem set_last (ht : t.members = before ++ [(name, v)]) (h : before.lookup name = none)
    (v' : TomlValue) : t.set name v' = { t with members := before ++ [(name, v')] } := by
  have hbefore : before.map (fun m => if m.1 = name then (name, v') else m) = before := by
    refine (List.map_congr_left fun m hm => if_neg ?_).trans (List.map_id _)
    intro heq
    have hne := List.lookup_eq_none_iff.1 h m hm
    simp [heq] at hne
  rw [set, get?_last ht h, ht, List.map_append, hbefore]
  simp

end TomlTable

namespace Toml

/-! ### Keys -/

/-- A name that can stand without quotes. -/
def IsName (name : String) : Prop :=
  name.toList ≠ [] ∧ name.toList.all isKeyChar = true

instance (name : String) : Decidable (IsName name) :=
  inferInstanceAs (Decidable (name.toList ≠ [] ∧ name.toList.all isKeyChar = true))

theorem IsName.isKeyChar {name : String} (h : IsName name) :
    ∀ c ∈ name.toList, isKeyChar c = true :=
  List.all_eq_true.1 h.2

theorem IsName.exists_cons {name : String} (h : IsName name) :
    ∃ k w, name.toList = k :: w ∧ Toml.isKeyChar k = true := by
  obtain ⟨k, w, hw⟩ := List.exists_cons_of_ne_nil h.1
  exact ⟨k, w, hw, h.isKeyChar k (hw ▸ List.mem_cons_self)⟩

theorem isMark_of_isKeyChar {c : Char} (h : isKeyChar c = true) : IsMark c := by
  intro hmem
  simp only [List.mem_cons, List.not_mem_nil, or_false] at hmem
  rcases hmem with rfl | rfl | rfl | rfl | rfl <;> cases h

variable {name : String}

theorem readName_name (h : IsName name) {c : Char} (hc : isKeyChar c = false) (rest : List Char) :
    readName (name.toList ++ c :: rest) = some (name, c :: rest) := by
  have hchars := h.isKeyChar
  have htake : (name.toList ++ c :: rest).takeWhile isKeyChar = name.toList := by
    rw [List.takeWhile_append_of_pos hchars, List.takeWhile_cons_of_neg (by simp [hc]),
      List.append_nil]
  have hdrop : (name.toList ++ c :: rest).dropWhile isKeyChar = c :: rest := by
    rw [List.dropWhile_append_of_pos hchars, List.dropWhile_cons_of_neg (by simp [hc])]
  have hne := h.1
  have hempty : name.toList.isEmpty = false := by simpa using hne
  rw [readName.eq_def]
  split
  · rename_i heq
    rw [heq, List.takeWhile_cons_of_neg (by decide)] at htake
    exact absurd htake.symm hne
  · rename_i heq
    rw [heq, List.takeWhile_cons_of_neg (by decide)] at htake
    exact absurd htake.symm hne
  · rw [htake, hdrop]
    dsimp only
    rw [hempty, String.ofList_toList]
    rfl

/-- A key of one name, with what comes next after blanks. -/
theorem readPath_name (h : IsName name) {c d : Char} (hc : isKeyChar c = false) (hd : d ≠ '.')
    {rest more : List Char} (hdrop : dropBlanks (c :: rest) = d :: more) :
    readPath (name.toList ++ c :: rest) = some (([], name), d :: more) := by
  have hstart : dropBlanks (name.toList ++ c :: rest) = name.toList ++ c :: rest := by
    obtain ⟨k, w, hw, hk⟩ := h.exists_cons
    rw [hw]
    exact dropBlanks_mark (isMark_of_isKeyChar hk) 0 _
  have hkey : readKey [] ((name.toList ++ c :: rest).length + 1) (name.toList ++ c :: rest) =
      some ([name], d :: more) := by
    rw [readKey, hstart, readName_name h hc]
    simp only [Option.bind_some, hdrop]
    split
    · obtain ⟨rfl, -⟩ := List.cons.inj ‹_›
      exact absurd rfl hd
    · rfl
  rw [readPath, hkey]
  rfl

/-! ### Lines -/

/-- Reading some lines leads from one state to another. -/
def Follows (st : ReadState) (text : List Char) (st' : ReadState) : Prop :=
  ∀ rest final, (∀ fuel, rest.length < fuel → readLines fuel st' rest = some final) →
    ∀ fuel, (text ++ rest).length < fuel → readLines fuel st (text ++ rest) = some final

theorem Follows.trans {st st' st'' : ReadState} {text text' : List Char}
    (h : Follows st text st') (h' : Follows st' text' st'') :
    Follows st (text ++ text') st'' := by
  intro rest final hfinal fuel hfuel
  rw [List.append_assoc] at hfuel ⊢
  exact h (text' ++ rest) final (h' rest final hfinal) fuel hfuel

theorem Follows.refl (st : ReadState) : Follows st [] st := by
  intro rest final hfinal
  exact hfinal

/-- One line. -/
theorem follows_line {st st' : ReadState} {text : List Char}
    (h : ∀ rest, readLine st (text ++ '\n' :: rest) = some (st', '\n' :: rest)) :
    Follows st (text ++ ['\n']) st' := by
  intro rest final hfinal fuel hfuel
  obtain ⟨fuel, rfl⟩ : ∃ n, fuel = n + 1 := ⟨fuel - 1, by omega⟩
  have hlen : rest.length < fuel := by
    simp at hfuel
    omega
  have hform : text ++ ['\n'] ++ rest = text ++ '\n' :: rest := by simp
  rw [hform, readLines, h rest]
  exact hfinal fuel hlen

/-- An empty line. -/
theorem follows_feed (st : ReadState) : Follows st ['\n'] st := by
  have hline : ∀ rest, readLine st ([] ++ '\n' :: rest) = some (st, '\n' :: rest) := fun _ => rfl
  exact follows_line hline

/-- **What is read when there are no lines left.** -/
theorem read?_of_follows {text : List Char} {st : ReadState}
    (h : Follows ⟨⟨.header, []⟩, []⟩ text st) (hmark : text.head? ≠ some '\ufeff') :
    read? text = some st.root := by
  have hend : ∀ fuel, ([] : List Char).length < fuel → readLines fuel st [] = some st := by
    intro fuel hfuel
    obtain ⟨fuel, rfl⟩ : ∃ n, fuel = n + 1 := ⟨fuel - 1, by omega⟩
    rfl
  have hread := h [] st hend (text.length + 1) (by simp)
  rw [List.append_nil] at hread
  rw [read?, hread]
  · rfl
  · rintro rest rfl
    exact hmark rfl

/-! ### Tables on their way -/

/-- The members of a table. -/
abbrev Members := List (String × TomlValue)

/-- A place in a document whose table grows by keys: the state of the document, given the members
that the table has so far. -/
structure IsSpot (spot : Members → ReadState) : Prop where
  add : ∀ members name v, members.lookup name = none →
    (TomlTable.alter? false (TomlTable.setKey? [] name v) (spot members).header
      (spot members).root).map (fun root => { spot members with root := root }) =
      some (spot (members ++ [(name, v)]))

/-- The document itself. -/
def top (members : Members) : ReadState := ⟨⟨.header, members⟩, []⟩

/-- The last table with a header. -/
def inTable (before : Members) (name : String) (members : Members) : ReadState :=
  ⟨⟨.header, before ++ [(name, .table .header members)]⟩, [name]⟩

/-- The last one of several tables with the same header. -/
def inTables (before : Members) (name : String) (done : List Members) (members : Members) :
    ReadState :=
  ⟨⟨.header, before ++ [(name, .tables (done ++ [members]))]⟩, [name]⟩

variable {before members : Members} {done : List Members} {v : TomlValue}

theorem setKey?_of_none (h : members.lookup name = none) (v : TomlValue) :
    TomlTable.setKey? [] name v ⟨.header, members⟩ = some ⟨.header, members ++ [(name, v)]⟩ := by
  have hget : (⟨.header, members⟩ : TomlTable).get? name = none := h
  rw [TomlTable.setKey?, TomlTable.alter?, hget, TomlTable.set_of_none hget]
  rfl

theorem isSpot_top : IsSpot top := by
  refine ⟨fun members name v h => ?_⟩
  show ((TomlTable.setKey? [] name v ⟨.header, members⟩).map _) = _
  rw [setKey?_of_none h]
  rfl

theorem isSpot_inTable (h : before.lookup name = none) : IsSpot (inTable before name) := by
  refine ⟨fun members key v hkey => ?_⟩
  have hget := TomlTable.get?_last (t := (inTable before name members).root) rfl h
  have hset := TomlTable.set_last (t := (inTable before name members).root) rfl h
  show Option.map _ (TomlTable.alter? false _ [name] _) = _
  rw [TomlTable.alter?, hget]
  show Option.map _ (Option.map _ (TomlTable.setKey? [] key v ⟨.header, members⟩)) = _
  rw [setKey?_of_none hkey, Option.map_some, hset]
  rfl

theorem isSpot_inTables (h : before.lookup name = none) : IsSpot (inTables before name done) := by
  refine ⟨fun members key v hkey => ?_⟩
  have hget := TomlTable.get?_last (t := (inTables before name done members).root) rfl h
  have hset := TomlTable.set_last (t := (inTables before name done members).root) rfl h
  show Option.map _ (TomlTable.alter? false _ [name] _) = _
  rw [TomlTable.alter?, hget]
  dsimp only
  rw [List.reverse_append]
  show Option.map _ (Option.map _ (TomlTable.setKey? [] key v ⟨.header, members⟩)) = _
  have hdone : ([].append done.reverse).reverse = done := List.reverse_reverse done
  rw [setKey?_of_none hkey, Option.map_some, hset, List.reverse_cons, hdone]
  rfl

/-! ### Lines with a key -/

theorem readLine_name (h : IsName name) (st : ReadState) (rest : List Char) :
    readLine st (name.toList ++ rest) = readKeyValue st (name.toList ++ rest) := by
  obtain ⟨k, w, hw, hk⟩ := h.exists_cons
  have hstart : dropBlanks (k :: w ++ rest) = k :: w ++ rest :=
    dropBlanks_mark (isMark_of_isKeyChar hk) 0 _
  rw [hw, readLine, hstart]
  split
  · cases ‹_›
  all_goals first
    | rfl
    | (obtain ⟨rfl, -⟩ := List.cons.inj ‹k :: w ++ rest = _›; cases hk)

/-- **A line with a key** adds a member to the table. -/
theorem follows_member {spot : Members → ReadState} (hspot : IsSpot spot) (hname : IsName name)
    (hnew : members.lookup name = none) {value : List Char} (hv : IsWritten value v) :
    Follows (spot members) (name.toList ++ ' ' :: '=' :: ' ' :: value ++ ['\n'])
      (spot (members ++ [(name, v)])) := by
  refine follows_line fun rest => ?_
  have hform : name.toList ++ ' ' :: '=' :: ' ' :: value ++ '\n' :: rest =
      name.toList ++ ' ' :: '=' :: ' ' :: (value ++ '\n' :: rest) := by simp
  have hblank : dropBlanks (' ' :: (value ++ '\n' :: rest)) = value ++ '\n' :: rest := by
    obtain ⟨c, w, rfl, hc⟩ := hv.begins
    exact dropBlanks_mark hc 1 _
  have hpath := readPath_name hname (show isKeyChar ' ' = false from rfl)
    (show '=' ≠ '.' by decide)
    (dropBlanks_mark (show IsMark '=' by decide) 1 (' ' :: (value ++ '\n' :: rest)))
  have hread := hv.read (2 * (' ' :: (value ++ '\n' :: rest)).length + 2) nestingLimit
    ('\n' :: rest)
    (by simp; omega) (by decide) ⟨'\n', rest, rfl, Or.inr (Or.inr rfl)⟩
  obtain ⟨root, hroot, hstate⟩ := Option.map_eq_some_iff.1 (hspot.add members name v hnew)
  rw [hform, readLine_name hname, readKeyValue]
  show Option.bind (readPath (name.toList ++ ' ' :: '=' :: ' ' :: (value ++ '\n' :: rest))) _ = _
  rw [show readPath (name.toList ++ ' ' :: '=' :: ' ' :: (value ++ '\n' :: rest)) = _ from hpath]
  show Option.bind (readValue _ nestingLimit (dropBlanks (' ' :: (value ++ '\n' :: rest)))) _ = _
  rw [hblank, hread]
  show Option.map _ (TomlTable.alter? false (TomlTable.setKey? [] name v) _ _) = _
  rw [hroot, Option.map_some, ← hstate]

/-- A member of a table and how its value is written. -/
structure WrittenMember where
  name : String
  text : List Char
  value : TomlValue

namespace WrittenMember

/-- The line of a member. -/
def line (m : WrittenMember) : List Char := m.name.toList ++ ' ' :: '=' :: ' ' :: m.text ++ ['\n']

/-- The member itself. -/
def toMember (m : WrittenMember) : String × TomlValue := (m.name, m.value)

/-- A member that is read as it is written. -/
structure IsSound (m : WrittenMember) : Prop where
  name : IsName m.name
  text : IsWritten m.text m.value

theorem isSound_mk {name : String} {text : List Char} {v : TomlValue} (hname : IsName name)
    (htext : IsWritten text v) : (WrittenMember.mk name text v).IsSound :=
  ⟨hname, htext⟩

end WrittenMember

/-- **Lines with keys** add members to the table, one after the other. -/
theorem follows_members {spot : Members → ReadState} (hspot : IsSpot spot)
    {added : List WrittenMember} (hadded : ∀ m ∈ added, m.IsSound)
    (hdistinct : (added.map WrittenMember.name).Nodup)
    (hnew : ∀ m ∈ added, members.lookup m.name = none) :
    Follows (spot members) (added.flatMap WrittenMember.line)
      (spot (members ++ added.map WrittenMember.toMember)) := by
  induction added generalizing members with
  | nil =>
    rw [List.map_nil, List.append_nil]
    exact .refl _
  | cons m added ih =>
    rw [List.map_cons, List.nodup_cons] at hdistinct
    have hm := hadded m List.mem_cons_self
    have hfirst := follows_member hspot hm.name (hnew m List.mem_cons_self) hm.text
    have hrest : Follows (spot (members ++ [m.toMember])) (added.flatMap WrittenMember.line)
        (spot (members ++ [m.toMember] ++ added.map WrittenMember.toMember)) := by
      refine ih (fun x hx => hadded x (List.mem_cons_of_mem m hx)) hdistinct.2 fun x hx => ?_
      have hne : x.name ≠ m.name := by
        intro heq
        exact hdistinct.1 (heq ▸ List.mem_map_of_mem hx)
      have hother : (x.name == m.name) = false := by simpa using hne
      rw [List.lookup_append, hnew x (List.mem_cons_of_mem m hx), WrittenMember.toMember,
        List.lookup_cons, hother]
      rfl
    have hmembers : members ++ (m :: added).map WrittenMember.toMember =
        members ++ [m.toMember] ++ added.map WrittenMember.toMember := by simp
    rw [hmembers]
    exact hfirst.trans hrest

/-! ### Lines with a header -/

theorem readHeader_name (h : IsName name) (st : ReadState) (several : Bool) {rest left : List Char}
    (hclose : closing? several (']' :: rest) = some left) :
    readHeader st several (name.toList ++ ']' :: rest) =
      (if several then st.root.append? [] name else st.root.open? [] name).map fun root =>
        (⟨root, [name]⟩, left) := by
  have hpath := readPath_name h (show isKeyChar ']' = false from rfl) (show ']' ≠ '.' by decide)
    (dropBlanks_mark (show IsMark ']' by decide) 0 rest)
  rw [readHeader, hpath]
  show Option.bind (closing? several (']' :: rest)) _ = _
  rw [hclose]
  rfl

theorem readLine_header {c : Char} (h : c ≠ '[') (st : ReadState) (rest : List Char) :
    readLine st ('[' :: c :: rest) = readHeader st false (c :: rest) := by
  have hstart : dropBlanks ('[' :: c :: rest) = '[' :: c :: rest := rfl
  rw [readLine, hstart]
  split <;> rename_i heq
  · cases heq
  · cases heq
  · cases heq
  · cases heq
  · exact absurd (List.cons.inj (List.cons.inj heq).2).1 h
  · rw [(List.cons.inj heq).2]
  · exact absurd rfl (heq (c :: rest))

/-- The header of a table that is not there yet. -/
theorem follows_header (hname : IsName name) {st : ReadState} (hroot : st.root = ⟨.header, before⟩)
    (h : before.lookup name = none) :
    Follows st ('[' :: name.toList ++ [']', '\n']) (inTable before name []) := by
  have hget : st.root.get? name = none := by
    rw [hroot]
    exact h
  have hopen : st.root.open? [] name =
      some ⟨.header, before ++ [(name, .table .header [])]⟩ := by
    rw [TomlTable.open?, TomlTable.alter?, hget, TomlTable.set_of_none hget, hroot]
  have hform : '[' :: name.toList ++ [']', '\n'] = '[' :: name.toList ++ [']'] ++ ['\n'] := by simp
  rw [hform]
  refine follows_line fun rest => ?_
  have hread : readHeader st false (name.toList ++ ']' :: '\n' :: rest) =
      some (inTable before name [], '\n' :: rest) := by
    rw [readHeader_name hname st false rfl, if_neg Bool.false_ne_true, hopen]
    rfl
  obtain ⟨k, w, hw, hk⟩ := hname.exists_cons
  have hne : k ≠ '[' := by
    rintro rfl
    cases hk
  rw [hw] at hread ⊢
  show readLine st ('[' :: k :: (w ++ [']'] ++ '\n' :: rest)) = _
  rw [readLine_header hne, List.append_assoc]
  exact hread

/-- The header of one of several tables. -/
theorem follows_headers (hname : IsName name) {st : ReadState} {root : TomlTable}
    (hroot : st.root.append? [] name = some root) :
    Follows st ('[' :: '[' :: name.toList ++ [']', ']', '\n']) ⟨root, [name]⟩ := by
  have hform : '[' :: '[' :: name.toList ++ [']', ']', '\n'] =
      '[' :: '[' :: name.toList ++ [']', ']'] ++ ['\n'] := by simp
  rw [hform]
  refine follows_line fun rest => ?_
  have hread : readHeader st true (name.toList ++ ']' :: ']' :: '\n' :: rest) =
      some (⟨root, [name]⟩, '\n' :: rest) := by
    rw [readHeader_name hname st true rfl, if_pos rfl, hroot]
    rfl
  have hline : '[' :: '[' :: name.toList ++ [']', ']'] ++ '\n' :: rest =
      '[' :: '[' :: (name.toList ++ ']' :: ']' :: '\n' :: rest) := by simp
  rw [hline]
  exact hread

/-- The first of several tables. -/
theorem follows_firstTable (hname : IsName name) {st : ReadState}
    (hroot : st.root = ⟨.header, before⟩) (h : before.lookup name = none) :
    Follows st ('[' :: '[' :: name.toList ++ [']', ']', '\n']) (inTables before name [] []) := by
  have hget : st.root.get? name = none := by
    rw [hroot]
    exact h
  refine follows_headers hname ?_
  rw [TomlTable.append?, TomlTable.alter?, hget, TomlTable.set_of_none hget, hroot]
  rfl

/-- A further one. -/
theorem follows_nextTable (hname : IsName name) (h : before.lookup name = none) :
    Follows (inTables before name done members) ('[' :: '[' :: name.toList ++ [']', ']', '\n'])
      (inTables before name (done ++ [members]) []) := by
  have hget := TomlTable.get?_last (t := (inTables before name done members).root) rfl h
  have hset := TomlTable.set_last (t := (inTables before name done members).root) rfl h
  refine follows_headers hname ?_
  rw [TomlTable.append?, TomlTable.alter?, hget]
  show some (TomlTable.set _ name _) = _
  rw [hset]
  rfl

end Toml

end KeyTrace
