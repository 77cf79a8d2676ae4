import KeyTrace.CommandLine

/-!
# The program

Takes a picture of the files that a command line is about, runs it on the picture and carries the
changes back.
-/

namespace KeyTrace

namespace Picture

/-- The path of a place. -/
def pathOf (spot : Place) : Path := Path.slash :: [Path.slash].intercalate spot

/-- A place as the system is asked for it. Names that are no text cannot be asked for. -/
def asked (spot : Place) : String := (pathOf spot).display

/-- The place of a path that starts at the root. -/
def placeOf (p : Path) : Place :=
  (Path.parts p).filterMap fun part =>
    match part with
    | .name n => some n
    | _ => none

/-- Adds what is at a place. -/
def add (t : FileTree) (spot : Place) : IO FileTree := do
  let here ← IO.currentDir
  let path := here / asked spot
  if ← path.isDir then
    return t.put spot .folder
  else
    try
      return t.put spot (.file (← IO.FS.readBinFile path).toList)
    catch _ =>
      return t

/-- Adds what a path leads to, and all that it leads through. -/
def addAlong (t : FileTree) (p : Path) : IO FileTree := do
  let mut t := t
  let mut spot := if Path.isAbsolute p then [] else t.current
  for part in Path.parts p do
    spot := match part with
      | .root => []
      | .here => spot
      | .up => spot.dropLast
      | .name n => spot ++ [n]
    t ← add t spot
  return t

/-- Adds all that is below a place, without following links. -/
partial def addBelow (t : FileTree) (spot : Place) : IO FileTree := do
  let here ← IO.currentDir
  let path := here / asked spot
  if !(← path.isDir) then
    return t
  let mut t := t
  for e in ← path.readDir do
    let info ← e.path.symlinkMetadata
    if info.type != .symlink then
      let below := spot ++ [Utf8.ofText e.fileName]
      t ← add t below
      t ← addBelow t below
  return t

/-- The files that decide what is ignored below a folder. -/
def ignoreFiles : List Path :=
  [".gitignore", ".ignore", ".jj", ".git", ".git/info", ".git/info/exclude"]

/-- Adds the folders above a place with the files that decide what is ignored. -/
def addAbove (t : FileTree) (spot : Place) : IO FileTree := do
  let mut t := t
  for n in List.range (spot.length + 1) do
    let folder := spot.take n
    t ← add t folder
    for name in ignoreFiles do
      t ← addAlong t (Path.join (pathOf folder) name)
  return t

/-- The files outside the current folder that any run may look at. -/
def settingsFiles (env : Environment) : List Path :=
  [Path.join env.configHome "reftrack/config.toml", Path.join env.home Settings.fileName,
    Settings.fileName, Path.join env.home ".gitconfig", Path.join env.configHome "git/config",
    Path.join env.configHome "git/ignore"]

/-- The files that a command line names. -/
def named (a : Arguments) : List Path :=
  a.config.toList ++ a.log.toList ++
    match a.command with
    | .scan s => s.root :: s.resources
    | _ => []

/-- The picture for a command line. -/
def take (env : Environment) (words : List String) : IO FileTree := do
  let current := placeOf (toString (← IO.currentDir))
  match Arguments.parse words with
  | .error _ => return ⟨[], current⟩
  | .ok a =>
    let mut t ← addAbove ⟨[], current⟩ current
    for p in settingsFiles env ++ named a do
      t ← addAlong t p
    match a.command with
    | .scan s =>
      match t.locate s.root with
      | .ok spot => addBelow (← addAbove t spot) spot
      | .error _ => return t
    | _ => return t

/-- Carries changes back: what is new or different. -/
def restore (before after : FileTree) : IO Unit := do
  let here ← IO.currentDir
  for (spot, kind) in after.entries.reverse do
    if before.kind? spot != some kind then
      match kind with
      | .folder => IO.FS.createDirAll (here / asked spot)
      | .file c => IO.FS.writeBinFile (here / asked spot) ⟨c.toArray⟩

end Picture

/-- Whether output is styled: as the user asks for it, or if a terminal shows it. -/
def styled : IO Bool := do
  let on := fun (v : Option String) => v.isSome && v != some "0"
  if on (← IO.getEnv "CLICOLOR_FORCE") then
    return true
  else if on (← IO.getEnv "NO_COLOR") then
    return false
  else
    return (← IO.getEnv "CLICOLOR") != some "0" && (← (← IO.getStdout).isTty)

/-- The environment of this process. -/
def Environment.ofProcess : IO Environment := do
  let home := Utf8.ofText ((← IO.getEnv "HOME").getD "")
  let config := (((← IO.getEnv "XDG_CONFIG_HOME").map Utf8.ofText).filter Path.isAbsolute).getD
    (Path.join home ".config")
  return ⟨home, config, 1, ← styled⟩

/-- A record as a line of the log. -/
def LogRecord.line (r : LogRecord) : String :=
  (match r.level with
    | .warning => "[WARN] "
    | .error => "[ERROR] ") ++ r.text ++ "\n"

/-- Writes records to the log file that the command line names, or to the error output. -/
def writeLog (words : List String) (records : List LogRecord) : IO Unit := do
  let text := String.join (records.map LogRecord.line)
  match (Arguments.parse words).toOption.bind Arguments.log with
  | some p => if !text.isEmpty then IO.FS.withFile p.display .append fun file => file.putStr text
  | none => IO.eprint text

end KeyTrace

open KeyTrace

/-- Runs the program. -/
def main (words : List String) : IO UInt32 := do
  let env ← Environment.ofProcess
  let before ← Picture.take env words
  let finish := CommandLine.run env before words
  Picture.restore before finish.files
  IO.print finish.output
  writeLog words finish.log
  match finish.ending with
  | .failed cause => IO.eprintln ("Error: " ++ cause.message)
  | .declined fault => IO.eprint fault.message
  | .done => pure ()
  return finish.ending.exitCode.toUInt32
