import KeyTrace.Failure

/-!
# File trees

The files a program sees: folders and files with their content, each known by the names on the way
from the root. Paths are followed part by part from a current folder, as the file system does, and
fail for the same reasons.

## Main definitions

* `FileTree`, `FileTree.kind?`: folders and files by their place.
* `FileTree.locate`: the place a path leads to.
* `FileTree.read`, `FileTree.readText`: the content of a file.
* `FileTree.write`, `FileTree.makeFolders`, `FileTree.remove`: changes.
-/

namespace KeyTrace

/-- The names on the way from the root to a file or folder. -/
abbrev Place := List Bytes

/-- What is at a place. -/
inductive FileKind where
  | folder
  | file (content : Bytes)
deriving Repr, DecidableEq

/-- Folders and files by their place, and the folder where relative paths start. The root is a
folder without an entry. -/
structure FileTree where
  entries : List (Place × FileKind)
  current : Place
deriving Repr

namespace FileTree

/-- What is at a place. -/
def kind? (t : FileTree) (spot : Place) : Option FileKind :=
  if spot.isEmpty then some .folder else t.entries.lookup spot

/-! ### Following paths -/

/-- How many bytes a name may have. -/
def nameLimit : Nat := 255

/-- Goes one part further. The place must be a folder. -/
def follow (t : FileTree) (spot : Place) (part : Path.Part) : Except OsError Place :=
  match t.kind? spot with
  | none => .error .notFound
  | some (.file _) => .error .notDirectory
  | some .folder =>
    match part with
    | .root => .ok []
    | .here => .ok spot
    | .up => .ok spot.dropLast
    | .name n =>
      if nameLimit < n.length then .error .nameTooLong else .ok (spot ++ [n])

/-- How many bytes a path may have. -/
def pathLimit : Nat := 4095

/-- The place a path leads to. Its last name need not exist, what comes before must. -/
def locate (t : FileTree) (p : Path) : Except OsError Place :=
  if p.contains 0 then .error .nulInName
  else if pathLimit < p.length then .error .nameTooLong
  else if p.isEmpty then .error .notFound
  else
    (Path.parts p).foldlM (fun spot part => t.follow spot part)
      (if Path.isAbsolute p then [] else t.current)

/-- Whether the path asks for a folder by ending with a slash or a dot. -/
def asksFolder (p : Path) : Bool :=
  match p.reverse with
  | [] => false
  | [b] => b == Path.slash
  | b :: c :: _ => b == Path.slash || b == Path.dot && c == Path.slash

/-- What a path leads to. -/
def find (t : FileTree) (p : Path) : Except OsError (Place × FileKind) :=
  (t.locate p).bind fun spot =>
    match t.kind? spot with
    | none => .error .notFound
    | some (.file c) => if asksFolder p then .error .notDirectory else .ok (spot, .file c)
    | some .folder => .ok (spot, .folder)

/-- Whether a path leads to something. -/
def has (t : FileTree) (p : Path) : Bool := (t.find p).toOption.isSome

/-- The content of a file. -/
def read (t : FileTree) (p : Path) : Except OsError Bytes :=
  (t.find p).bind fun (_, k) =>
    match k with
    | .file c => .ok c
    | .folder => .error .isDirectory

/-- The content of a file that holds text. -/
def readText (t : FileTree) (p : Path) : Except OsError (List Char) :=
  (t.read p).bind fun bytes =>
    match Utf8.decode? bytes with
    | some s => .ok s
    | none => .error .notText

/-! ### Changes -/

/-- Puts something at a place, in place of what was there. -/
def put (t : FileTree) (spot : Place) (k : FileKind) : FileTree :=
  { t with entries := (spot, k) :: t.entries.filter fun e => e.1 != spot }

/-- Puts a file at a place and the folders it needs around it. -/
def putDeep (t : FileTree) (spot : Place) (k : FileKind) : FileTree :=
  let folders := (List.range spot.length).map fun i => spot.take i
  (folders.foldl (fun t f => if (t.kind? f).isSome then t else t.put f .folder) t).put spot k

/-- Writes a file. Its folder must exist. -/
def write (t : FileTree) (p : Path) (content : Bytes) : Except OsError FileTree :=
  (t.locate p).bind fun spot =>
    match t.kind? spot with
    | some .folder => .error .isDirectory
    | some (.file _) =>
      if asksFolder p then .error .notDirectory else .ok (t.put spot (.file content))
    | none =>
      if asksFolder p then .error .isDirectory
      else
        match t.kind? spot.dropLast with
        | some .folder => .ok (t.put spot (.file content))
        | some (.file _) => .error .notDirectory
        | none => .error .notFound

/-- Makes the folders of a path that do not exist yet, part by part. -/
def makeFolders (t : FileTree) (p : Path) : Except OsError FileTree :=
  if p.contains 0 then .error .nulInName
  else if pathLimit < p.length then .error .nameTooLong
  else
    ((Path.parts p).foldlM
      (fun (state : FileTree × Place) part =>
        (state.1.follow state.2 part).bind fun spot =>
          match state.1.kind? spot with
          | some .folder => .ok (state.1, spot)
          | some (.file _) => .error .exists
          | none => .ok (state.1.put spot .folder, spot))
      (t, if Path.isAbsolute p then [] else t.current)).map Prod.fst

/-- Removes a file. -/
def remove (t : FileTree) (p : Path) : Except OsError FileTree :=
  (t.find p).bind fun (spot, k) =>
    match k with
    | .file _ => .ok { t with entries := t.entries.filter fun e => e.1 != spot }
    | .folder => .error .isDirectory

/-- The files below a place: the names on the way and the content. -/
def filesBelow (t : FileTree) (spot : Place) : List (Place × Bytes) :=
  t.entries.filterMap fun e =>
    match e.2 with
    | .file c => if spot.isPrefixOf e.1 then some (e.1.drop spot.length, c) else none
    | .folder => none

end FileTree

end KeyTrace
