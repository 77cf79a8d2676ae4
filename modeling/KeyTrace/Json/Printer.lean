import KeyTrace.Json.Value
import KeyTrace.Text.Quoted

/-!
# Printing JSON

Documents are printed with one item or member per line, indented by two spaces for each level. An
empty array or object stays on its line.

## Main definitions

* `JsonValue.pretty`: the text of a document.
-/

namespace KeyTrace

namespace JsonValue

/-- The start of a line at the given level. -/
def indent (level : Nat) : String := String.ofList ('\n' :: List.replicate (2 * level) ' ')

mutual

/-- The text of a value whose lines after the first one are at the given level. -/
def printAt (level : Nat) : JsonValue → String
  | null => "null"
  | bool b => if b then "true" else "false"
  | number text => text
  | string s => Quoted.json s
  | array items =>
    match items with
    | [] => "[]"
    | first :: rest =>
      "[" ++ indent (level + 1) ++ printAt (level + 1) first ++ printItems (level + 1) rest ++
        indent level ++ "]"
  | object members =>
    match members with
    | [] => "\x7b\x7d"
    | (name, first) :: rest =>
      "\x7b" ++ indent (level + 1) ++ Quoted.json name ++ ": " ++ printAt (level + 1) first ++
        printMembers (level + 1) rest ++ indent level ++ "\x7d"

/-- The text of items after the first one. -/
def printItems (level : Nat) : List JsonValue → String
  | [] => ""
  | v :: rest => "," ++ indent level ++ printAt level v ++ printItems level rest

/-- The text of members after the first one. -/
def printMembers (level : Nat) : List (String × JsonValue) → String
  | [] => ""
  | (name, v) :: rest =>
    "," ++ indent level ++ Quoted.json name ++ ": " ++ printAt level v ++ printMembers level rest

end

@[simp] theorem printAt_null (level : Nat) : printAt level .null = "null" := by rw [printAt]

/-- The text of a document. -/
def pretty (v : JsonValue) : String := printAt 0 v

end JsonValue

end KeyTrace
