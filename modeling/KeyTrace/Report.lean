import KeyTrace.Json.Printer
import KeyTrace.Report.Style
import KeyTrace.Resource
import KeyTrace.Scan.Slot
import KeyTrace.Text.Blank

/-!
# Reports

A report lists entries with the references published for them, as text or as JSON. An entry is
unused if it was scanned and no reference was found; entries that were never scanned are neither
used nor unused. File names are shown relative to the root of the scan where possible.

## Main definitions

* `Record`, `Record.ofEntry`: an entry with what is shown of it.
* `Report.highlight`: a line with its matched segments set off.
* `Report.text`, `Report.object`, `Report.render`: the report in either format.
-/

namespace KeyTrace

/-- The format of a report. -/
inductive ReportFormat where
  | text
  | json
deriving Repr, DecidableEq

/-- An entry with its references as they are shown. -/
structure Record where
  entry : Entry
  scanned : Bool
  references : List Reference
deriving Repr, DecidableEq

namespace Record

/-- What is shown of an entry and its slot. -/
def ofEntry (e : Entry × Slot) : Record := ⟨e.1, e.2.isScanned, e.2.references.getD []⟩

/-- Whether the entry was scanned and nothing refers to it. -/
def isUnused (r : Record) : Bool := r.scanned && r.references.isEmpty

end Record

namespace Report

/-- The path of a file: relative to the root if it is below it. -/
def relative (root : Path) (r : Reference) : Path :=
  (Path.strip? r.file.path root).getD r.file.path

/-- The name of a file, as it is shown. -/
def fileName (root : Path) (r : Reference) : String := (relative root r).display

/-- The line of a reference with its matched segments set off, without blanks at its ends. -/
def highlight (color : Bool) (s : Segments) : String :=
  let painted := s.zipIdx.map fun (t, i) => if i % 2 = 1 then Style.boldRed.paint color t else t
  String.ofList (Blank.trim (String.join painted).toList)

/-! ### Text -/

/-- The line of one reference. -/
def referenceLine (color : Bool) (root : Path) (r : Reference) : String :=
  "  " ++ Style.cyan.paint color (fileName root r) ++ ":" ++
    Style.green.paint color (toString r.lineNumber) ++ ": " ++ highlight color r.segments ++ "\n"

/-- The lines of one entry. -/
def recordLines (color : Bool) (root : Path) (r : Record) : String :=
  let name := Style.bold.paint color (r.entry.container ++ "." ++ r.entry.key)
  if !r.scanned then name ++ " " ++ Style.dimmed.paint color "(not scanned)" ++ "\n"
  else if r.references.isEmpty then name ++ " " ++ Style.yellow.paint color "unused" ++ "\n"
  else
    let count := "(" ++ toString r.references.length ++ " references)"
    name ++ " " ++ Style.dimmed.paint color count ++ "\n" ++
      String.join (r.references.map (referenceLine color root))

/-- The report as text. -/
def text (color : Bool) (root : Path) (records : List Record) (total unused : Nat) : String :=
  let count := (if unused = 0 then Style.green else Style.yellow).paint color (toString unused)
  String.join (records.map (recordLines color root)) ++
    "\n" ++ toString total ++ " entries, " ++ count ++ " unused\n"

/-! ### JSON -/

/-- A count as a number. -/
def number (n : Nat) : JsonValue := .number (toString n)

/-- One reference as an object. -/
def referenceObject (root : Path) (r : Reference) : JsonValue :=
  .object [("file", .string (fileName root r)), ("line", number r.lineNumber),
    ("segments", .array (r.segments.map .string))]

/-- One entry as an object. -/
def recordObject (root : Path) (r : Record) : JsonValue :=
  .object [("container", .string r.entry.container), ("key", .string r.entry.key),
    ("scanned", .bool r.scanned), ("references", .array (r.references.map (referenceObject root)))]

/-- The report as an object. -/
def object (root : Path) (records : List Record) (total unused : Nat) : JsonValue :=
  .object [("root", .string root.display), ("total_entries", number total),
    ("unused_entries", number unused), ("entries", .array (records.map (recordObject root)))]

/-! ### The report -/

/-- The report on some entries. The counts are those of all entries, also when only the unused ones
are listed. -/
def render (format : ReportFormat) (unusedOnly color : Bool) (root : Path)
    (entries : List (Entry × Slot)) : String :=
  let records := entries.map Record.ofEntry
  let total := records.length
  let unused := (records.filter Record.isUnused).length
  let shown := records.filter fun r => !unusedOnly || r.isUnused
  match format with
  | .text => text color root shown total unused
  | .json => (object root shown total unused).pretty

end Report

end KeyTrace
