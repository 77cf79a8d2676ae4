/-!
# TOML documents

A document is a table of named values. A table remembers how it came about, because that decides
what may still be added to it: a table that was only passed through on the way to another one may
still get a header of its own, one made by dotted keys grows by dotted keys only, and one between
braces is complete.

## Main definitions

* `TomlValue`, `TomlTable`, `TableOrigin`: values and tables.
* `TomlValue.isInRange`: whether all numbers in a value are within their range.
* `TomlTable.setKey?`, `TomlTable.open?`, `TomlTable.append?`: what the lines of a document do to
  its table.
-/

namespace KeyTrace

/-- How a table came about. -/
inductive TableOrigin where
  /-- By a header, or as the document itself. -/
  | header
  /-- On the way to a table with a header. -/
  | passing
  /-- On the way of a dotted key. -/
  | dotted
  /-- Between braces. -/
  | braces
deriving Repr, DecidableEq

/-- A TOML value. The values of floats and dates are not kept. -/
inductive TomlValue where
  | string (s : String)
  | integer (n : Int)
  | float
  /-- A number that is beyond the range of integers or of floats. -/
  | outOfRange
  | boolean (b : Bool)
  | date
  | array (items : List TomlValue)
  | table (origin : TableOrigin) (members : List (String × TomlValue))
  /-- Tables with the same header, each with its members. -/
  | tables (items : List (List (String × TomlValue)))
deriving Repr

/-- A table of a document on its way. -/
structure TomlTable where
  origin : TableOrigin
  members : List (String × TomlValue)
deriving Repr

namespace TomlValue

mutual

/-- Whether all numbers in a value are within their range. -/
def isInRange : TomlValue → Bool
  | .outOfRange => false
  | .array items => areInRange items
  | .table _ members => membersInRange members
  | .tables items => tablesInRange items
  | .string _ | .integer _ | .float | .boolean _ | .date => true

/-- Whether all numbers in some values are within their range. -/
def areInRange : List TomlValue → Bool
  | [] => true
  | v :: rest => v.isInRange && areInRange rest

/-- Whether all numbers in the members of a table are within their range. -/
def membersInRange : List (String × TomlValue) → Bool
  | [] => true
  | (_, v) :: rest => v.isInRange && membersInRange rest

/-- Whether all numbers in some tables are within their range. -/
def tablesInRange : List (List (String × TomlValue)) → Bool
  | [] => true
  | members :: rest => membersInRange members && tablesInRange rest

end

end TomlValue

namespace TomlTable

/-- The value of a name. -/
def get? (t : TomlTable) (name : String) : Option TomlValue := t.members.lookup name

/-- The table with the value of a name replaced, or added at the end. -/
def set (t : TomlTable) (name : String) (v : TomlValue) : TomlTable :=
  if (t.get? name).isSome then
    { t with members := t.members.map fun m => if m.1 = name then (name, v) else m }
  else { t with members := t.members ++ [(name, v)] }

/-- The table as a value. -/
def toValue (t : TomlTable) : TomlValue := .table t.origin t.members

/-- Changes the table at the end of a path. Tables on the way are made where there are none; on the
way of a dotted key, a table with a header may not be entered. The last one of several tables with
the same header is the one that is meant. -/
def alter? (dotted : Bool) (f : TomlTable → Option TomlTable) :
    List String → TomlTable → Option TomlTable
  | [], t => f t
  | name :: path, t =>
    match t.get? name with
    | none =>
      let fresh : TomlTable := ⟨if dotted then .dotted else .passing, []⟩
      (alter? dotted f path fresh).map fun c => t.set name c.toValue
    | some (.table origin members) =>
      if origin == .braces || (dotted && origin == .header) then none
      else (alter? dotted f path ⟨origin, members⟩).map fun c => t.set name c.toValue
    | some (.tables items) =>
      match items.reverse with
      | [] => none
      | last :: before =>
        (alter? dotted f path ⟨.header, last⟩).map fun c =>
          t.set name (.tables (c.members :: before).reverse)
    | some _ => none

/-- Adds a value under a dotted key, of which `path` is all but the last name. -/
def setKey? (path : List String) (name : String) (v : TomlValue) (t : TomlTable) :
    Option TomlTable :=
  alter? true
    (fun t =>
      if (t.origin == .dotted) == path.isEmpty || (t.get? name).isSome then none
      else some (t.set name v))
    path t

/-- Gives the table at a path a header. -/
def open? (path : List String) (name : String) (t : TomlTable) : Option TomlTable :=
  alter? false
    (fun t =>
      match t.get? name with
      | none => some (t.set name (.table .header []))
      | some (.table .passing members) => some (t.set name (.table .header members))
      | some _ => none)
    path t

/-- Adds a table to those with the header of a path. -/
def append? (path : List String) (name : String) (t : TomlTable) : Option TomlTable :=
  alter? false
    (fun t =>
      match t.get? name with
      | none => some (t.set name (.tables [[]]))
      | some (.tables items) => some (t.set name (.tables (items ++ [[]])))
      | some _ => none)
    path t

end TomlTable

end KeyTrace
