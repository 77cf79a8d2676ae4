import KeyTrace.FileTree
import KeyTrace.Json.Reader
import KeyTrace.Resource.Entry
import KeyTrace.Resource.Markup
import KeyTrace.Text.Lowercase

/-!
# Resources

A resource entry is known by its container and its key. The container is the name of the resource
file up to its first dot, so that the files for all languages share one container; the keys are the
names of the texts in the file.

## Main definitions

* `Resource.container`: the container of a file.
* `Resource.leafKeys`: the keys of a JSON document.
* `Resource.load`: the distinct entries of several files.
-/

namespace KeyTrace

namespace Resource

/-- The file name up to its first dot; empty if the path has no file name. -/
def container (p : Path) : String :=
  String.ofList ((Path.nameText p).toList.takeWhile fun c => c != '.')

/-- The key of a member, given the key of the object around it, which is empty at the root. -/
def memberKey (outer name : String) : String := if outer.isEmpty then name else outer ++ "." ++ name

mutual

/-- The keys of the leaves of a value whose own key is given. Everything but an object is a leaf. -/
def leafKeys (key : String) : JsonValue → List String
  | .object members => memberKeys key members
  | .null => if key.isEmpty then [] else [key]
  | .bool _ => if key.isEmpty then [] else [key]
  | .number _ => if key.isEmpty then [] else [key]
  | .string _ => if key.isEmpty then [] else [key]
  | .array _ => if key.isEmpty then [] else [key]

/-- The keys of the leaves of members. -/
def memberKeys (key : String) : List (String × JsonValue) → List String
  | [] => []
  | (name, value) :: rest => leafKeys (memberKey key name) value ++ memberKeys key rest

end

/-- The keys in a resource file. The extension decides how it is read. -/
def keysOf (p : Path) (text : List Char) : Except ResourceFault (List String) :=
  match Lowercase.lower ((Path.textExtension? p).getD "") with
  | "resx" => .ok (Markup.names text)
  | "resw" => .ok (Markup.names text)
  | "json" =>
    match JsonValue.read? text with
    | some v => .ok (leafKeys "" v)
    | none => .error .notJson
  | ext => .error (.unsupported ext)

/-- The entries of one file. -/
def entriesOf (t : FileTree) (p : Path) : Except Failure (List Entry) :=
  match t.readText p with
  | .error e => .error (.resource p (.unreadable e))
  | .ok text =>
    match keysOf p text with
    | .error fault => .error (.resource p fault)
    | .ok keys => .ok (keys.map fun k => ⟨container p, k⟩)

/-- The distinct entries of the given files, in ascending order. The first file that cannot be used
decides. -/
def load (t : FileTree) (paths : List Path) : Except Failure (List Entry) :=
  (paths.mapM (entriesOf t)).map fun lists => Ascending.ofList Entry.compare lists.flatten

end Resource

end KeyTrace
