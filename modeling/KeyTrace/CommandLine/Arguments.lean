import KeyTrace.CommandLine.Reading
import KeyTrace.Report

/-!
# Arguments

The command line starts with general options, followed by a command and what belongs to it.

## Main definitions

* `Command`, `ScanArguments`, `Arguments`: what the program is asked to do.
* `Arguments.parse`: the meaning of a command line.
-/

namespace KeyTrace

/-- What a scan is asked for. -/
structure ScanArguments where
  root : Path
  resources : List Path
  format : ReportFormat
  /-- Whether only unused entries are listed. -/
  unusedOnly : Bool
  /-- Whether no progress is shown. -/
  noProgress : Bool
deriving Repr, DecidableEq

/-- The commands. -/
inductive Command where
  /-- Search for references and report them. -/
  | scan (a : ScanArguments)
  /-- List the rules, or those for an extension. -/
  | rules (extension : Option String)
  /-- Write a settings file, even if there is one. -/
  | init (force : Bool)
deriving Repr, DecidableEq

/-- What the program is asked to do. -/
structure Arguments where
  verbose : Bool
  log : Option Path
  config : Option Path
  /-- Whether the counters are shown after a scan. -/
  metrics : Bool
  command : Command
deriving Repr, DecidableEq

namespace Arguments

/-! ### Vocabularies -/

/-- A path, which must not be empty. -/
def path : ValueDecl := ⟨false, fun s => s != ""⟩

/-- Any number of paths. -/
def paths : ValueDecl := ⟨true, fun s => s != ""⟩

/-- Any text. -/
def text : ValueDecl := ⟨false, fun _ => true⟩

/-- The format with a name. -/
def format? : String → Option ReportFormat
  | "text" => some .text
  | "json" => some .json
  | _ => none

/-- The name of a format. -/
def format : ValueDecl := ⟨false, fun s => (format? s).isSome⟩

/-- The option that asks for help. -/
def helpOption : OptionDecl := ⟨"help", some 'h', .help⟩

/-- The general options and the commands. -/
def general : Vocabulary where
  options := [⟨"verbose", none, .switch⟩, ⟨"log", none, .value path⟩,
    ⟨"config", none, .value path⟩, ⟨"metrics", none, .switch⟩, helpOption,
    ⟨"version", some 'V', .version⟩]
  place := none
  commands := ["scan", "rules", "init", "help"]

/-- The options of a scan. A plain word is its root. -/
def scanVocabulary : Vocabulary where
  options := [⟨"resources", some 'r', .value paths⟩, ⟨"format", none, .value format⟩,
    ⟨"unused", none, .switch⟩, ⟨"no-progress", none, .switch⟩, helpOption]
  place := some ("root", path)
  commands := []

/-- The options of a list of rules. -/
def rulesVocabulary : Vocabulary where
  options := [⟨"extension", some 'e', .value text⟩, helpOption]
  place := none
  commands := []

/-- The options of writing a settings file. -/
def initVocabulary : Vocabulary where
  options := [⟨"force", none, .switch⟩, helpOption]
  place := none
  commands := []

/-! ### Commands -/

/-- The meaning of the options of a scan. -/
def scanOf (r : Reading) : Except UsageFault ScanArguments :=
  if r.has "resources" then
    .ok ⟨((r.value? "root").map Utf8.ofText).getD ".", (r.values "resources").map Utf8.ofText,
      ((r.value? "format").bind format?).getD .text, r.has "unused", r.has "no-progress"⟩
  else .error .missingArgument

/-- Help on a command: only commands can follow, and they have none of their own. -/
def helpOn : List String → UsageFault
  | [] => .help
  | [name] => if general.commands.contains name then .help else .unknownCommand
  | _ => .unknownCommand

/-- The meaning of a command and the words behind it. -/
def readCommand (name : String) (words : List String) : Except UsageFault Command :=
  match name with
  | "scan" => ((Reading.readAll scanVocabulary words).bind scanOf).map .scan
  | "rules" => (Reading.readAll rulesVocabulary words).map fun r => .rules (r.value? "extension")
  | "init" => (Reading.readAll initVocabulary words).map fun r => .init (r.has "force")
  | "help" => .error (helpOn words)
  | _ => .error .unknownCommand

/-- What is wrong with general options that no command follows. -/
def incomplete (r : Reading) : UsageFault :=
  if r.settled.isEmpty then .nothingGiven else .missingCommand

/-- The meaning of a command line. A mistake behind the command is found before one in the last
general option. -/
def parse (words : List String) : Except UsageFault Arguments :=
  (Reading.read general .start words).bind fun (r, rest) =>
    match rest with
    | [] => r.settle.bind fun r => .error (incomplete r)
    | name :: rest =>
      (readCommand name rest).bind fun c =>
        r.settle.map fun r =>
          ⟨r.has "verbose", (r.value? "log").map Utf8.ofText, (r.value? "config").map Utf8.ofText,
            r.has "metrics", c⟩

end Arguments

end KeyTrace
