import KeyTrace.Environment
import KeyTrace.FileTree
import KeyTrace.Ignore.IgnoreFile
import KeyTrace.Pattern
import KeyTrace.Source

/-!
# Finding source files

The source files below a root are all files that are to be searched, except for hidden and ignored
ones. What is in a folder that is passed over is passed over too; the root itself never is, and a
root that is a file is found itself.

Ignore files are looked for in the folder of a file or folder and in all folders above, also above
the root; the nearest one that says something decides. Plain ignore files come before those of the
version control system, which count only inside of a repository and up to its top. The user's own
list comes last. A path that is said to be kept is found even if it is hidden.

An ignore file sees a path from its own folder on. The folder's path is cut off as a text, after a
leading `./` of either path: a root that is written with more of them is seen whole.

## Main definitions

* `Discovery.verdict`: what the ignore files say about a path.
* `Discovery.isSkipped`: whether a file or folder is passed over.
* `Discovery.walk`: all files below a root.
* `Discovery.sourceFiles`: the source files below a root, in order.
-/

namespace KeyTrace

namespace Discovery

/-! ### Ignore files -/

/-- The ignore file at a place, empty if there is none. -/
def fileAt (t : FileTree) (p : Place) : IgnoreFile :=
  match t.kind? p with
  | some (.file c) => IgnoreFile.read c
  | _ => []

/-- Whether a folder is the top of a repository. -/
def isRepository (t : FileTree) (p : Place) : Bool :=
  (t.kind? (p ++ [Utf8.ofText ".git"])).isSome || (t.kind? (p ++ [Utf8.ofText ".jj"])).isSome

/-- The folders around a place, nearest first, the root of the file system last. -/
def around (p : Place) : List Place := ((List.range p.length).map fun i => p.take i).reverse

/-- A folder whose ignore files may speak about a path, and the path as they see it. -/
structure View where
  folder : Place
  path : Bytes
deriving Repr

/-- A path without a leading `./`. -/
def dropHere (p : Path) : Path :=
  if ([Path.dot, Path.slash] : Bytes).isPrefixOf p then p.drop 2 else p

/-- Whether a path is just another way to write the current folder. -/
def isHere (p : Path) : Bool := p.parts == [.here]

/-- A path as an ignore file in a folder sees it: the folder's own path is cut off as it is written,
if the path begins with it. -/
def seenFrom (folder p : Path) : Path :=
  let folder := dropHere folder
  let p := dropHere p
  if isHere folder || !p.contains Path.slash then p
  else if folder.isPrefixOf p then
    let rest := p.drop folder.length
    if rest.head? == some Path.slash then rest.tail else rest
  else p

/-- The path of something below the root, as the walk writes it. -/
def written (root : Path) (names : Place) : Path := names.foldl Path.join root

/-- The views of the folders from the root of the walk on, nearest first. -/
def viewsInside (root : Path) (top names : Place) : List View :=
  (List.range names.length).reverse.map fun k =>
    let front := names.take k
    ⟨top ++ front, seenFrom (written root front) (dropHere (written root names))⟩

/-- The views of the folders above the root of the walk, nearest first. -/
def viewsAbove (top names : Place) : List View :=
  (around top).map fun f => ⟨f, [Path.slash].intercalate ((top ++ names).drop f.length)⟩

/-- The first answer that some folder's ignore file gives about a path. -/
def firstVerdict (t : FileTree) (file : Place) (views : List View) (isFolder : Bool) :
    Option Verdict :=
  views.findSome? fun v => (fileAt t (v.folder ++ file)).verdict v.path isFolder

/-- The folders up to the top of the nearest repository. -/
def upToRepository (t : FileTree) : List View → List View
  | [] => []
  | v :: rest => if isRepository t v.folder then [v] else v :: upToRepository t rest

/-- How a configuration file names the user's own list. The file is searched byte by byte, and only
the blanks of ASCII count. -/
def excludesPattern : String :=
  "(?im)^[\t-\r ]*excludesfile[\t-\r ]*=[\t-\r ]*\"?[\t-\r ]*" ++
    "([^\t-\r ]+?)[\t-\r ]*\"?[\t-\r ]*$"

/-- The path with each tilde replaced by the user's folder, as that is shown. -/
def expandTilde (home : Path) (s : List Char) : Path :=
  Utf8.encode (s.flatMap fun c => if c == '~' then Utf8.decodeLossy home else [c])

/-- The user's own list that a configuration file names, if the name is text. -/
def namedExcludes (t : FileTree) (env : Environment) (config : Path) : Option Path :=
  match t.read config, Pattern.compile false (1024 * 1024) excludesPattern.toList with
  | .ok bytes, .ok pattern =>
    match pattern.find? (bytes.map fun b => Char.ofNat b.toNat) with
    | some (_, g :: _) =>
      (Utf8.decode? ((bytes.drop g.start).take (g.stop - g.start))).map (expandTilde env.home)
    | _ => none
  | _, _ => none

/-- The user's own list: the one that the configuration of the version control system names, or the
usual one. -/
def userExcludes (t : FileTree) (env : Environment) : IgnoreFile :=
  let path :=
    match namedExcludes t env (Path.join env.home ".gitconfig") with
    | some p => p
    | none =>
      match namedExcludes t env (Path.join env.configHome "git/config") with
      | some p => p
      | none => Path.join env.configHome "git/ignore"
  match t.read path with
  | .ok bytes => IgnoreFile.read bytes
  | .error _ => []

/-- What the ignore files say about something below the root of a walk. -/
def verdict (t : FileTree) (excludes : IgnoreFile) (root : Path) (top : Place)
    (names : Place) (isFolder : Bool) : Option Verdict :=
  let views := viewsInside root top names ++ viewsAbove top names
  let plain := firstVerdict t [".ignore"] views isFolder
  if !views.any (fun v => isRepository t v.folder) then plain
  else
    let inside := upToRepository t views
    let path := dropHere (dropHere (written root names))
    plain
      |>.or (firstVerdict t [".gitignore"] inside isFolder)
      |>.or (firstVerdict t [".git", "info", "exclude"] inside isFolder)
      |>.or (excludes.verdict path isFolder)

/-! ### Walking -/

/-- What a walk is told. -/
structure Walk where
  tree : FileTree
  respectIgnoreFiles : Bool
  includeHidden : Bool
  /-- The user's own list. -/
  excludes : IgnoreFile

/-- Whether a name belongs to a hidden file. -/
def isHidden (name : Bytes) : Bool := name.head? == some Path.dot

/-- Whether a file or folder below the root is passed over. -/
def isSkipped (w : Walk) (root : Path) (top names : Place) (isFolder : Bool) : Bool :=
  let said :=
    if w.respectIgnoreFiles then
      verdict w.tree w.excludes root top names isFolder
    else none
  match said with
  | some .ignored => true
  | some .kept => false
  | none => !w.includeHidden && (names.getLast?).any isHidden

/-- Whether a file below the root is found: neither it nor a folder on the way to it is passed
over. -/
def isFound (w : Walk) (root : Path) (top names : Place) : Bool :=
  (List.range names.length).all fun i =>
    !isSkipped w root top (names.take (i + 1)) (decide (i + 1 < names.length))

/-- All files below a root, as paths that begin with the root as it is written. A single dash stands
for the standard input, which is no file. -/
def walk (w : Walk) (root : Path) : List Path :=
  if Path.same root "-" then []
  else
    match w.tree.find root with
    | .error _ => []
    | .ok (_, .file _) => [root]
    | .ok (top, .folder) =>
      ((w.tree.filesBelow top).filter fun f => isFound w root top f.1).map fun f =>
        written root f.1

/-- The source files below a root, in ascending order. -/
def sourceFiles (t : FileTree) (env : Environment) (s : ScanSettings) (root : Path) :
    List SourceFile :=
  let w : Walk := ⟨t, s.respectIgnoreFiles, s.includeHidden, userExcludes t env⟩
  Ascending.ofList SourceFile.compare
    (((walk w root).map SourceFile.ofPath).filter fun f => f.isScannable s)

end Discovery

end KeyTrace
