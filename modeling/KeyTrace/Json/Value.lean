import KeyTrace.Ascending

/-!
# JSON documents

## Main definitions

* `JsonValue`: the values of the format. Numbers are kept as they were written.
* `JsonValue.setMember`: adds a member to a list in ascending order of names, in place of one of the
  same name.
-/

namespace KeyTrace

/-- A JSON value. -/
inductive JsonValue where
  | null
  | bool (b : Bool)
  | number (text : String)
  | string (s : String)
  | array (items : List JsonValue)
  | object (members : List (String × JsonValue))
deriving Repr

namespace JsonValue

/-- Adds a member to those of an object. A member of the same name gives way to it. -/
def setMember (name : String) (value : JsonValue) (members : List (String × JsonValue)) :
    List (String × JsonValue) :=
  Ascending.insert (fun a b => compareText a.1 b.1) (name, value) members

end JsonValue

end KeyTrace
