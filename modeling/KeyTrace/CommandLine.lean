import KeyTrace.CommandLine.Arguments
import KeyTrace.Discovery
import KeyTrace.Scan.Session
import KeyTrace.Settings.Store

/-!
# The command line program

A run takes the words of the command line, the environment and the files, and gives the output, the
records for the log and the files as they are afterwards. A failing run shows nothing on its
output, but what it did to the files before stays done.

## Main definitions

* `Ending`, `Ending.exitCode`: how a run ends.
* `Finish`: all that a run leaves behind.
* `CommandLine.listRules`, `CommandLine.scan`, `CommandLine.writeSettings`: the commands.
* `CommandLine.run`: a run of the program.
-/

namespace KeyTrace

/-- How a run ends. -/
inductive Ending where
  | done
  /-- The command line asks for help or the version, or it is not understood. -/
  | declined (fault : UsageFault)
  | failed (cause : Failure)
deriving Repr, DecidableEq

/-- The exit code of a run. -/
def Ending.exitCode : Ending → Nat
  | done => 0
  | declined .help => 0
  | declined .version => 0
  | declined _ => 2
  | failed _ => 1

/-- What a run leaves behind. -/
structure Finish where
  ending : Ending
  output : String
  log : List LogRecord
  files : FileTree
deriving Repr

namespace CommandLine

/-! ### Texts -/

/-- The answer to the question for the version. -/
def versionText : String := "reftrack 0.1.0\n"

/-- The answer to the question for help. -/
def helpText : String :=
  "Finds where localizable resource keys are referenced in source code\n\n" ++
  "Usage: reftrack [--verbose] [--log FILE] [--config FILE] [--metrics] COMMAND\n\n" ++
  "Commands:\n" ++
  "  scan [ROOT] -r FILE...   Find where resource keys are referenced under a source tree\n" ++
  "       [--format text|json] [--unused] [--no-progress]\n" ++
  "  rules [-e EXTENSION]     Show the effective match rules\n" ++
  "  init [--force]           Write the default configuration to ./.reftrack.toml\n" ++
  "  help                     Print this message\n"

/-- The output for a command line that is not carried out. -/
def usageOutput : UsageFault → String
  | .help => helpText
  | .version => versionText
  | _ => ""

/-! ### The log -/

/-- Creates the log file, and its folder if there is none. What is there under the folder's name
is left alone. -/
def openLog (t : FileTree) (p : Path) : Except Failure FileTree :=
  let folder := (Path.parent? p).getD []
  let made := if folder.isEmpty || t.has folder then .ok t else t.makeFolders folder
  match made.bind fun t => t.write p [] with
  | .ok t => .ok t
  | .error e => .error (.io e)

/-! ### Commands -/

/-- A number in three places or more. -/
def places (n : Nat) : String :=
  let digits := toString n
  String.ofList (List.replicate (3 - digits.length) ' ') ++ digits

/-- The line of the rule at a position. -/
def ruleLine (color : Bool) (id : Nat) (r : Rule) : String :=
  Style.cyan.paint color (places (id + 1)) ++ ". " ++ r.display ++ "\n"

/-- The number and the text of a rule's failure. -/
def problemText (p : Nat × Failure) : String :=
  "#" ++ toString (p.1 + 1) ++ ": " ++ p.2.message

/-- The line of a rule whose template fails. -/
def problemLine (color : Bool) (p : Nat × Failure) : String :=
  Style.boldYellow.paint color "warning:" ++ " rule " ++ problemText p ++ "\n"

/-- The extension that rules are asked for. -/
def askedExtension : Option String → Except Failure (Option String)
  | none => .ok none
  | some raw =>
    match Extension.normalize raw with
    | some e => .ok (some e)
    | none => .error (.config (.notExtension raw))

/-- Whether a rule is listed. -/
def listed (extension : Option String) (r : Rule) : Bool :=
  match extension with
  | some e => r.appliesTo e
  | none => true

/-- The list of rules. The templates of all rules are checked, also of those not listed. -/
def ruleList (color : Bool) (rules : RuleSet) (extension : Option String) : String :=
  let shown := rules.rules.zipIdx.filter fun r => listed extension r.1
  let lines :=
    if shown.isEmpty then Style.yellow.paint color "No match rules apply" ++ "\n"
    else String.join (shown.map fun r => ruleLine color r.2 r.1)
  lines ++ String.join (rules.check.map (problemLine color))

/-- Lists the rules that apply to an extension, or all of them. -/
def listRules (color : Bool) (settings : Settings) (extension : Option String) :
    Except Failure String :=
  settings.ruleSet.bind fun rules => (askedExtension extension).map (ruleList color rules)

/-- The warnings about the resources and rules of a scan. -/
def warnings (entries : List Entry) (rules : RuleSet) : List LogRecord :=
  (if entries.isEmpty then [⟨.warning, "No resource keys found in the given resource files"⟩]
    else []) ++
    rules.check.map fun p => ⟨.warning, "Rule " ++ problemText p⟩

/-- Searches for the references of all resources and reports them. -/
def scan (env : Environment) (t : FileTree) (settings : Settings) (a : ScanArguments)
    (metrics : Bool) : Except Failure (String × List LogRecord) :=
  (Resource.load t a.resources).bind fun entries =>
    settings.ruleSet.map fun rules =>
      let files := Discovery.sourceFiles t env settings.scan a.root
      let workers := settings.scan.workers env.processors
      let session := Session.start settings.scan workers entries t
      let session := session.begins ⟨List.range entries.length, files, rules⟩ none
      let report := Report.render a.format a.unusedOnly env.color a.root session.listing
      let counters := if metrics then session.tracker.counters.gather else ""
      (report ++ counters, warnings entries rules ++ session.tracker.log)

/-- Writes a file with the standard settings into the current folder. -/
def writeSettings (color : Bool) (t : FileTree) (force : Bool) :
    Except Failure (String × FileTree) :=
  if t.has Settings.fileName && !force then
    .error (.config (.settingsExist Settings.fileName))
  else
    (Settings.standard.save t Settings.fileName).map fun t =>
      (Style.green.paint color "Wrote" ++ " " ++ Settings.fileName.display ++ "\n", t)

/-- Carries out what is asked for, with the log file in place. -/
def perform (env : Environment) (t : FileTree) (a : Arguments) : Finish :=
  let failed := fun e => (⟨.failed e, "", [], t⟩ : Finish)
  match a.command with
  | .init force =>
    match writeSettings env.color t force with
    | .ok (output, t) => ⟨.done, output, [], t⟩
    | .error e => failed e
  | .rules extension =>
    match (Settings.load t env a.config).bind fun s => listRules env.color s extension with
    | .ok output => ⟨.done, output, [], t⟩
    | .error e => failed e
  | .scan request =>
    match (Settings.load t env a.config).bind fun s => scan env t s request a.metrics with
    | .ok (output, log) => ⟨.done, output, log, t⟩
    | .error e => failed e

/-- Opens the log if there is one, then carries out what is asked for. -/
def execute (env : Environment) (t : FileTree) (a : Arguments) : Finish :=
  match a.log with
  | none => perform env t a
  | some p =>
    match openLog t p with
    | .ok t => perform env t a
    | .error e => ⟨.failed e, "", [], t⟩

/-- A run of the program. -/
def run (env : Environment) (t : FileTree) (words : List String) : Finish :=
  match Arguments.parse words with
  | .error fault => ⟨.declined fault, usageOutput fault, [], t⟩
  | .ok a => execute env t a

end CommandLine

end KeyTrace
