import KeyTrace.Ignore.Glob
import KeyTrace.Text.Blank

/-!
# Ignore files

An ignore file lists globs, one a line. The last one that matches a path decides whether the path
is ignored; one with an exclamation mark before it means that it is not. A glob with a slash in it
is matched from the folder of the ignore file on, any other one at any depth, and one with a slash
at its end matches folders only.

## Main definitions

* `IgnoreLine`, `IgnoreLine.read`: one line.
* `IgnoreFile.read`: the lines of a file.
* `IgnoreFile.verdict`: what a file says about a path.
-/

namespace KeyTrace

/-- One glob of an ignore file. -/
structure IgnoreLine where
  glob : Glob
  /-- Whether paths that match are kept instead of ignored. -/
  keeps : Bool
  foldersOnly : Bool
deriving Repr

/-- What is said about a path. -/
inductive Verdict where
  | ignored
  | kept
deriving Repr, DecidableEq

namespace IgnoreLine

/-- The text without its trailing blanks, unless the last one is a space with a backslash before
it. -/
def trimEnd (s : List Char) : List Char :=
  if ['\\', ' '].isSuffixOf s then s else Blank.trimEnd s

/-- The glob's text without a slash at its end and a backslash before that, and whether there was
one. -/
def cutFolderSlash (s : List Char) : List Char × Bool :=
  match s.reverse with
  | '/' :: '\\' :: rest => (rest.reverse, true)
  | '/' :: rest => (rest.reverse, true)
  | _ => (s, false)

/-- The glob's text as it is matched: one that belongs to no particular depth gets two stars before
it, and one that ends with two stars does not match the folder itself. -/
def completed (anchored : Bool) (s : List Char) : List Char :=
  let deep := !anchored && !s.contains '/' && s != ['*', '*']
  let s := if deep then '*' :: '*' :: '/' :: s else s
  if ['/', '*', '*'].isSuffixOf s then s ++ ['/', '*'] else s

/-- Reads a glob from its text, whose signs at the start have been read. -/
def ofText (keeps anchored : Bool) (s : List Char) : Option IgnoreLine :=
  let (s, foldersOnly) := cutFolderSlash s
  (Glob.read (completed anchored s)).map fun g => ⟨g, keeps, foldersOnly⟩

/-- Reads a glob after its exclamation mark, if it had one. -/
def ofAnchor (keeps : Bool) (s : List Char) : Option IgnoreLine :=
  match s with
  | '/' :: rest => ofText keeps true rest
  | _ => ofText keeps false s

/-- Reads a line. Comments, empty lines and malformed globs say nothing. -/
def read (line : List Char) : Option IgnoreLine :=
  match line with
  | '#' :: _ => none
  | _ =>
    match trimEnd line with
    | [] => none
    | '\\' :: '!' :: rest => ofText false false ('!' :: rest)
    | '\\' :: '#' :: rest => ofText false false ('#' :: rest)
    | '!' :: rest => ofAnchor true rest
    | s => ofAnchor false s

/-- Whether the line speaks about a path. -/
def concerns (l : IgnoreLine) (path : Bytes) (isFolder : Bool) : Bool :=
  (!l.foldersOnly || isFolder) && l.glob.accepts path

end IgnoreLine

/-- The lines of an ignore file. -/
abbrev IgnoreFile := List IgnoreLine

namespace IgnoreFile

/-- The lines of a byte string, each without its line feed and a carriage return before that. -/
def linesOf (bytes : Bytes) : List Bytes :=
  let lines := bytes.foldr
    (fun b acc =>
      match acc with
      | [] => [[b]]
      | l :: rest => if b == 0x0a then [] :: l :: rest else (b :: l) :: rest)
    [[]]
  let lines := if lines.getLast? == some [] then lines.dropLast else lines
  lines.map fun l => if l.getLast? == some 0x0d then l.dropLast else l

/-- Reads the content of an ignore file. A mark of byte order at its start is dropped, and nothing
is read from the first line on that is no text. -/
def read (bytes : Bytes) : IgnoreFile :=
  let texts := ((linesOf bytes).map Utf8.decode?).takeWhile Option.isSome
  let lines := texts.filterMap id
  let lines := match lines with
    | first :: rest => first.dropWhile (fun c => c == '\ufeff') :: rest
    | [] => []
  lines.filterMap IgnoreLine.read

/-- What the file says about a path below its folder: the last line that concerns it decides. -/
def verdict (f : IgnoreFile) (path : Bytes) (isFolder : Bool) : Option Verdict :=
  (f.reverse.find? fun l => l.concerns path isFolder).map fun l =>
    if l.keeps then .kept else .ignored

end IgnoreFile

end KeyTrace
