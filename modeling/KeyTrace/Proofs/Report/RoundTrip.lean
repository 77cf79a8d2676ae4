import KeyTrace.Proofs.Attempts
import KeyTrace.Proofs.Json.RoundTrip
import KeyTrace.Report

/-!
# Reading a report

A report in JSON has members for its counts and its entries. Whoever reads it finds what was
reported: the counts are those of all entries, and the entries are listed in their order, whatever
characters are in their names and in the lines that refer to them.

## Main definitions

* `Listing`: what a report tells, and `Listing.ofJson?`, where to find it in the document.

## Main results

* `Report.printable_object`: the documents of reports are read back.
* `Report.listing_render`: what is read from a report is what was reported.
-/

namespace KeyTrace

namespace JsonValue

/-- The value of the member of an object with the given name. -/
def member? (name : String) : JsonValue → Option JsonValue
  | .object members => members.lookup name
  | _ => none

/-- The text of a string. -/
def text? : JsonValue → Option String
  | .string s => some s
  | _ => none

/-- The value of a truth value. -/
def flag? : JsonValue → Option Bool
  | .bool b => some b
  | _ => none

/-- The value of a number without sign, fraction and exponent. -/
def count? : JsonValue → Option Nat
  | .number text => text.toNat?
  | _ => none

/-- The items of an array, each of them read. -/
def items? {α : Type} (read? : JsonValue → Option α) : JsonValue → Option (List α)
  | .array items => items.mapM read?
  | _ => none

end JsonValue

/-- A reference as a report lists it. -/
structure ListedReference where
  file : String
  line : Nat
  segments : List String
deriving Repr, DecidableEq

/-- An entry as a report lists it. -/
structure ListedEntry where
  container : String
  key : String
  scanned : Bool
  references : List ListedReference
deriving Repr, DecidableEq

/-- What a report tells. -/
structure Listing where
  root : String
  /-- How many entries there are. -/
  total : Nat
  /-- How many of them are unused. -/
  unused : Nat
  entries : List ListedEntry
deriving Repr, DecidableEq

open JsonValue

def ListedReference.ofJson? (v : JsonValue) : Option ListedReference := do
  let file ← (v.member? "file").bind text?
  let line ← (v.member? "line").bind count?
  let segments ← (v.member? "segments").bind (items? text?)
  return ⟨file, line, segments⟩

def ListedEntry.ofJson? (v : JsonValue) : Option ListedEntry := do
  let container ← (v.member? "container").bind text?
  let key ← (v.member? "key").bind text?
  let scanned ← (v.member? "scanned").bind flag?
  let references ← (v.member? "references").bind (items? ListedReference.ofJson?)
  return ⟨container, key, scanned, references⟩

/-- What the document of a report tells. -/
def Listing.ofJson? (v : JsonValue) : Option Listing := do
  let root ← (v.member? "root").bind text?
  let total ← (v.member? "total_entries").bind count?
  let unused ← (v.member? "unused_entries").bind count?
  let entries ← (v.member? "entries").bind (items? ListedEntry.ofJson?)
  return ⟨root, total, unused, entries⟩

/-! ### What is found in a document -/

namespace JsonValue

theorem member?_kept {members : List (String × JsonValue)} (h : (members.map Prod.fst).Nodup)
    (name : String) :
    (JsonValue.object members).kept.member? name = (members.lookup name).map kept := by
  rw [kept, member?, lookup_keptMembers h, List.lookup_nil, Option.or_none]

/-- What is found in an array: something for each of its items. -/
theorem items?_kept {α β : Type} {read? : JsonValue → Option β} {f : α → JsonValue} {g : α → β}
    {s : List α} (h : ∀ a ∈ s, read? (f a).kept = some (g a)) :
    items? read? (JsonValue.array (s.map f)).kept = some (s.map g) := by
  rw [kept, items?, keptItems_eq_map, List.map_map, List.mapM_map]
  exact mapM_eq_pure_map h

theorem text?_kept (s : String) : text? (JsonValue.string s).kept = some s := by rw [kept, text?]

theorem flag?_kept (b : Bool) : flag? (JsonValue.bool b).kept = some b := by rw [kept, flag?]

theorem count?_kept (n : Nat) : count? (Report.number n).kept = some n := by
  rw [Report.number, kept, count?]
  exact Nat.toNat?_repr n

end JsonValue

namespace Report

variable (root : Path)

theorem ofJson?_referenceObject (r : Reference) :
    ListedReference.ofJson? (referenceObject root r).kept =
      some ⟨fileName root r, r.lineNumber, r.segments⟩ := by
  have hmember : ∀ name, (referenceObject root r).kept.member? name =
      ([("file", .string (fileName root r)), ("line", number r.lineNumber),
        ("segments", .array (r.segments.map .string))].lookup name).map kept :=
    fun name => member?_kept (by simp) name
  have hsegments : items? text? (JsonValue.array (r.segments.map .string)).kept =
      some (r.segments.map id) := items?_kept fun s _ => text?_kept s
  simp [ListedReference.ofJson?, hmember, List.lookup, text?_kept, count?_kept, hsegments]

theorem ofJson?_recordObject (r : Record) :
    ListedEntry.ofJson? (recordObject root r).kept =
      some ⟨r.entry.container, r.entry.key, r.scanned,
        r.references.map fun u => ⟨fileName root u, u.lineNumber, u.segments⟩⟩ := by
  have hmember : ∀ name, (recordObject root r).kept.member? name =
      ([("container", .string r.entry.container), ("key", .string r.entry.key),
        ("scanned", .bool r.scanned),
        ("references", .array (r.references.map (referenceObject root)))].lookup name).map kept :=
    fun name => member?_kept (by simp) name
  have hreferences := items?_kept (s := r.references) fun u _ => ofJson?_referenceObject root u
  simp [ListedEntry.ofJson?, hmember, List.lookup, text?_kept, flag?_kept, hreferences]

theorem ofJson?_object (records : List Record) (total unused : Nat) :
    Listing.ofJson? (object root records total unused).kept =
      some ⟨root.display, total, unused, records.map fun r =>
        ⟨r.entry.container, r.entry.key, r.scanned,
          r.references.map fun u => ⟨fileName root u, u.lineNumber, u.segments⟩⟩⟩ := by
  have hmember : ∀ name, (object root records total unused).kept.member? name =
      ([("root", .string root.display), ("total_entries", number total),
        ("unused_entries", number unused),
        ("entries", .array (records.map (recordObject root)))].lookup name).map kept :=
    fun name => member?_kept (by simp) name
  have hentries := items?_kept (s := records) fun r _ => ofJson?_recordObject root r
  simp [Listing.ofJson?, hmember, List.lookup, text?_kept, count?_kept, hentries]

/-! ### The documents of reports -/

variable {root}

theorem printable_map {α : Type} {f : α → JsonValue} {s : List α} {depth : Nat}
    (h : ∀ a ∈ s, Printable depth (f a)) : Printable (depth + 1) (.array (s.map f)) :=
  .array (List.forall_mem_map.2 h)

theorem printable_referenceObject {r : Reference} (h : r.lineNumber < 2 ^ 64) (depth : Nat) :
    Printable (depth + 2) (referenceObject root r) := by
  refine .object ?_
  simp only [List.forall_mem_cons]
  exact ⟨.string _ _, .number _ h, printable_map fun s _ => .string _ s, nofun⟩

theorem printable_recordObject {r : Record} (h : ∀ u ∈ r.references, u.lineNumber < 2 ^ 64)
    (depth : Nat) : Printable (depth + 4) (recordObject root r) := by
  refine .object ?_
  simp only [List.forall_mem_cons]
  exact ⟨.string _ _, .string _ _, .bool _ _,
    printable_map fun u hu => printable_referenceObject (h u hu) depth, nofun⟩

/-- **The document of a report is read back**, if its counts and line numbers fit into 64 bits. -/
theorem printable_object {records : List Record} {total unused : Nat}
    (h : ∀ r ∈ records, ∀ u ∈ r.references, u.lineNumber < 2 ^ 64) (htotal : total < 2 ^ 64)
    (hunused : unused < 2 ^ 64) (depth : Nat) :
    Printable (depth + 6) (object root records total unused) := by
  refine .object ?_
  simp only [List.forall_mem_cons]
  exact ⟨.string _ _, .number _ htotal, .number _ hunused,
    printable_map fun r hr => printable_recordObject (h r hr) depth, nofun⟩

/-! ### What is read from a report -/

theorem isUnused_ofEntry (e : Entry × Slot) :
    (Record.ofEntry e).isUnused = decide (e.2.references = some []) := by
  obtain ⟨entry, ⟨generation, pending, references⟩⟩ := e
  cases references with
  | none => rfl
  | some refs => cases refs <;> rfl

/-- The entries that are listed: all of them, or those that are unused. -/
theorem filter_ofEntry (unusedOnly : Bool) (entries : List (Entry × Slot)) :
    ((entries.map Record.ofEntry).filter fun r => !unusedOnly || r.isUnused) =
      (if unusedOnly then entries.filter fun e => e.2.references = some []
        else entries).map Record.ofEntry := by
  rw [List.filter_map]
  cases unusedOnly with
  | false => simp
  | true =>
    refine congrArg (List.map Record.ofEntry) (List.filter_congr fun e _ => ?_)
    simp [isUnused_ofEntry]

theorem length_filter_isUnused (entries : List (Entry × Slot)) :
    ((entries.map Record.ofEntry).filter Record.isUnused).length =
      (entries.filter fun e => e.2.references = some []).length := by
  rw [List.filter_map, List.length_map]
  exact congrArg List.length (List.filter_congr fun e _ => isUnused_ofEntry e)

/-- **What is read from a report is what was reported.** For any entries, never scanned, without
references and with some, the document has the number of all entries and of those that were scanned
without a reference being found; and in their order all entries, or just the latter, each with its
names, whether it was scanned, and its references with their lines and segments. The numbers are
those of a machine with words of 64 bits. -/
theorem listing_render (unusedOnly color : Bool) (root : Path) (entries : List (Entry × Slot))
    (hcount : entries.length < 2 ^ 64)
    (hlines : ∀ e ∈ entries, ∀ u ∈ e.2.references.getD [], u.lineNumber < 2 ^ 64) :
    (read? (render .json unusedOnly color root entries).toList).bind Listing.ofJson? = some
      { root := root.display
        total := entries.length
        unused := (entries.filter fun e => e.2.references = some []).length
        entries := (if unusedOnly then entries.filter fun e => e.2.references = some []
            else entries).map fun e =>
          { container := e.1.container
            key := e.1.key
            scanned := e.2.references.isSome
            references := (e.2.references.getD []).map fun u =>
              { file := fileName root u
                line := u.lineNumber
                segments := u.segments } } } := by
  set shown := if unusedOnly then entries.filter fun e => e.2.references = some [] else entries
    with hshown
  have hmem : ∀ e ∈ shown, e ∈ entries := by
    intro e he
    cases unusedOnly with
    | false => exact he
    | true => exact List.mem_of_mem_filter he
  have hrender : render .json unusedOnly color root entries =
      (object root (shown.map Record.ofEntry) entries.length
        (entries.filter fun e => e.2.references = some []).length).pretty := by
    rw [render, filter_ofEntry, length_filter_isUnused, List.length_map]
  have hprintable : Printable nestingLimit (object root (shown.map Record.ofEntry) entries.length
      (entries.filter fun e => e.2.references = some []).length) :=
    printable_object (List.forall_mem_map.2 fun e he => hlines e (hmem e he)) hcount
      (Nat.lt_of_le_of_lt (List.length_filter_le ..) hcount) 121
  rw [hrender, read?_pretty hprintable, Option.bind_some, ofJson?_object, List.map_map]
  rfl

/-- An entry that was never scanned, one without references, and one whose reference has quotes, a
backslash, control characters and letters beyond ASCII in it. -/
def quotedEntries : List (Entry × Slot) :=
  [(⟨"A", "k"⟩, Slot.fresh), (⟨"B\"", "\\"⟩, ⟨1, false, some []⟩),
    (⟨"é", "\x01"⟩, ⟨1, false, some [⟨SourceFile.ofPath "r/f.t", 7, ["\x1f\t", "𝄞\"", ""]⟩]⟩)]

theorem listing_quotedEntries :
    quotedEntries.length < 2 ^ 64 ∧
      (∀ e ∈ quotedEntries, ∀ u ∈ e.2.references.getD [], u.lineNumber < 2 ^ 64) ∧
      (read? (render .json false true "r" quotedEntries).toList).bind Listing.ofJson? = some
        ⟨"r", 3, 1, [⟨"A", "k", false, []⟩, ⟨"B\"", "\\", true, []⟩,
          ⟨"é", "\x01", true, [⟨"f.t", 7, ["\x1f\t", "𝄞\"", ""]⟩]⟩]⟩ ∧
      (read? (render .json true true "r" quotedEntries).toList).bind Listing.ofJson? = some
        ⟨"r", 3, 1, [⟨"B\"", "\\", true, []⟩]⟩ := by
  have hcount : quotedEntries.length < 2 ^ 64 := by decide
  have hlines : ∀ e ∈ quotedEntries, ∀ u ∈ e.2.references.getD [], u.lineNumber < 2 ^ 64 := by
    decide
  refine ⟨hcount, hlines, ?_, ?_⟩
  · rw [listing_render false true "r" quotedEntries hcount hlines]
    decide +kernel
  · rw [listing_render true true "r" quotedEntries hcount hlines]
    decide +kernel

end Report

end KeyTrace
