import KeyTrace.Settings
import KeyTrace.Toml.Quoting
import KeyTrace.Toml.Reader

/-!
# Settings as documents

Settings are read from and written as TOML. Names that are not known are passed over as long as the
numbers under them are within range, and what is missing takes its standard value; only the
extensions of a rule must be there. A table may also be given as an array of its values in order.

## Main definitions

* `Settings.ofTable?`, `Settings.parse?`: the settings in a document.
* `Settings.print`: the document of some settings.
-/

namespace KeyTrace

namespace Settings

/-! ### Reading -/

/-- A truth value. -/
def bool? : TomlValue → Option Bool
  | .boolean b => some b
  | _ => none

/-- A whole number of at most 64 bits. -/
def count? : TomlValue → Option Nat
  | .integer n => if 0 ≤ n && n < 18446744073709551616 then some n.toNat else none
  | _ => none

/-- A text. -/
def text? : TomlValue → Option String
  | .string s => some s
  | _ => none

/-- A list of texts. -/
def texts? : TomlValue → Option (List String)
  | .array items => items.mapM text?
  | _ => none

/-- Whether the values under names that are not among the given ones can be passed over. -/
def canPassOver (names : List String) (members : List (String × TomlValue)) : Bool :=
  members.all fun (name, v) => names.contains name || v.isInRange

/-- The fields of a table, given in any order by name, or without names in the given order. A date
counts as a table without known fields. -/
def fields? (names : List String) : TomlValue → Option (List (String × TomlValue))
  | .table _ members => if canPassOver names members then some members else none
  | .array items => some (names.zip items)
  | .date => some []
  | .tables items => some (names.zip (items.map (.table .header)))
  | _ => none

/-- The value of a field, or a standard one if it is missing. -/
def field? {α : Type} (fields : List (String × TomlValue)) (name : String)
    (read : TomlValue → Option α) (standard : α) : Option α :=
  match fields.lookup name with
  | some v => read v
  | none => some standard

/-- The settings of scans. -/
def scan? (v : TomlValue) : Option ScanSettings := do
  let d := ScanSettings.standard
  let f ← fields? ["exclude_designer_files", "resource_extensions", "parallel_jobs",
    "regex_size_limit", "respect_gitignore", "include_hidden"] v
  let excludeDesignerFiles ← field? f "exclude_designer_files" bool? d.excludeDesignerFiles
  let resourceExtensions ← field? f "resource_extensions" texts? d.resourceExtensions
  let parallelJobs ← field? f "parallel_jobs" (fun v => (count? v).map some) d.parallelJobs
  let patternSizeLimit ← field? f "regex_size_limit" count? d.patternSizeLimit
  let respectIgnoreFiles ← field? f "respect_gitignore" bool? d.respectIgnoreFiles
  let includeHidden ← field? f "include_hidden" bool? d.includeHidden
  return ⟨excludeDesignerFiles, resourceExtensions, parallelJobs, patternSizeLimit,
    respectIgnoreFiles, includeHidden⟩

/-- One rule. -/
def rule? (v : TomlValue) : Option RuleDecl := do
  let f ← fields? ["extensions", "case_sensitive", "pattern", "comment_token"] v
  let extensions ← (f.lookup "extensions").bind text?
  let caseSensitive ← field? f "case_sensitive" bool? false
  let pattern ← field? f "pattern" (fun v => (text? v).map some) none
  let commentToken ← field? f "comment_token" (fun v => (text? v).map some) none
  return ⟨extensions, caseSensitive, pattern, commentToken⟩

/-- The rules. -/
def rules? : TomlValue → Option (List RuleDecl)
  | .array items => items.mapM rule?
  | .tables items => (items.map (.table .header)).mapM rule?
  | _ => none

/-- The settings in the table of a document. -/
def ofTable? (t : TomlTable) : Option Settings := do
  let f ← fields? ["scan", "rules"] t.toValue
  let scan ← field? f "scan" scan? ScanSettings.standard
  let rules ← field? f "rules" rules? RuleDecl.builtin
  return ⟨scan, rules⟩

/-- The settings in a document. -/
def parse? (s : List Char) : Option Settings := (Toml.read? s).bind ofTable?

/-! ### Writing -/

/-- A line with a name and a value. -/
def line (name value : String) : String := name ++ " = " ++ value ++ "\n"

/-- A truth value as it is written. -/
def boolText (b : Bool) : String := if b then "true" else "false"

/-- A list of texts as it is written: several of them one a line. -/
def textsText : List String → String
  | [] => "[]"
  | [t] => "[" ++ Toml.quote t ++ "]"
  | s => "[\n" ++ String.join (s.map fun t => "    " ++ Toml.quote t ++ ",\n") ++ "]"

/-- A line that is left out when there is no value. -/
def optionalLine (name : String) (value : Option String) : String :=
  match value with
  | some v => line name v
  | none => ""

/-- The table of the settings of scans. -/
def printScan (s : ScanSettings) : String :=
  "[scan]\n" ++ line "exclude_designer_files" (boolText s.excludeDesignerFiles) ++
    line "resource_extensions" (textsText s.resourceExtensions) ++
    optionalLine "parallel_jobs" (s.parallelJobs.map fun n => toString n) ++
    line "regex_size_limit" (toString s.patternSizeLimit) ++
    line "respect_gitignore" (boolText s.respectIgnoreFiles) ++
    line "include_hidden" (boolText s.includeHidden)

/-- The table of one rule. -/
def printRule (r : RuleDecl) : String :=
  "\n[[rules]]\n" ++ line "extensions" (Toml.quote r.extensions) ++
    line "case_sensitive" (boolText r.caseSensitive) ++
    optionalLine "pattern" (r.pattern.map Toml.quote) ++
    optionalLine "comment_token" (r.commentToken.map Toml.quote)

/-- The document of some settings. An empty list of rules has no table and stands at the top. -/
def print (s : Settings) : String :=
  (if s.rules.isEmpty then "rules = []\n\n" else "") ++ printScan s.scan ++
    String.join (s.rules.map printRule)

end Settings

end KeyTrace
