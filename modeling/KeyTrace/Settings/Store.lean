import KeyTrace.Environment
import KeyTrace.FileTree
import KeyTrace.Settings.Document

/-!
# Loading and saving settings

Settings are loaded from a given file, or from the first one that exists: in the folder for
configuration files, in the user's folder, in the current folder. If none exists the standard
settings hold.

## Main definitions

* `Settings.locate`: the file that is loaded.
* `Settings.load`, `Settings.save`: loading and saving.
-/

namespace KeyTrace

namespace Settings

/-- The name of the settings file in the user's or the current folder. -/
def fileName : Path := ".reftrack.toml"

/-- The file that is loaded when none is given. -/
def locate (t : FileTree) (env : Environment) : Option Path :=
  [Path.join env.configHome "reftrack/config.toml", Path.join env.home fileName, fileName].find?
    t.has

/-- The settings in a file. -/
def readFile (t : FileTree) (p : Path) : Except Failure Settings :=
  match t.readText p with
  | .error _ => .error (.settings (.unreadable p))
  | .ok text =>
    match parse? text with
    | none => .error (.settings (.malformed p))
    | some s => .ok s

/-- Loads and validates the settings. -/
def load (t : FileTree) (env : Environment) (explicit : Option Path) : Except Failure Settings :=
  let settings :=
    match explicit.or (locate t env) with
    | some p => readFile t p
    | none => .ok standard
  settings.bind fun s =>
    match s.validate with
    | .ok () => .ok s
    | .error e => .error (.settings (.invalid e))

/-- Saves the settings in a file, whose folder is made if need be. -/
def save (s : Settings) (t : FileTree) (p : Path) : Except Failure FileTree :=
  let folder := (Path.parent? p).getD []
  let made := if folder.isEmpty then .ok t else t.makeFolders folder
  match made with
  | .error _ => .error (.settings (.noFolder folder))
  | .ok t =>
    match t.write p (Utf8.encode s.print.toList) with
    | .error _ => .error (.settings (.unwritable p))
    | .ok t => .ok t

end Settings

end KeyTrace
