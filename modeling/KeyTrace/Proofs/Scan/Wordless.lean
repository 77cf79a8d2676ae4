import KeyTrace.Proofs.Scan.Reference
import KeyTrace.Report

/-!
# Keys without word characters

A line is only tried for a key if it has the key's probe, which is a run of ASCII letters, digits
and underscores in the key. A key without such a character has no probe, and the index leaves it
out: what is published on its entry is an empty list, whatever the files hold. A report takes an
empty list for a sign that nothing refers to the entry, so that it shows all such entries as unused,
also those whose keys stand in some line that a rule would match.

## Main definitions

* `Token.IsWordless`: texts without a word character of ASCII.

## Main results

* `RuleSet.references_of_wordless`: what a scan finds for a key without a probe.
* `Tracker.isUnused_of_wordless`: what is published and reported for such a key.
-/

namespace KeyTrace

namespace Token

/-- The text has no letter, digit or underscore of ASCII. -/
def IsWordless (s : List Char) : Prop := ∀ c ∈ s, Word.isAsciiWord c = false

instance (s : List Char) : Decidable (IsWordless s) :=
  decidable_of_iff (s.all fun c => !Word.isAsciiWord c) (by simp [IsWordless])

theorem IsWordless.tokens {s : List Char} (h : IsWordless s) : tokens s = [] := by
  induction s with
  | nil => rfl
  | cons c s ih =>
    have hs : IsWordless s := fun d hd => h d (List.mem_cons_of_mem c hd)
    rw [tokens_cons (h c List.mem_cons_self), ih hs]

/-- A text without a word character has no probe. -/
theorem IsWordless.probe {s : List Char} (h : IsWordless s) : probe s = none := by
  rw [Token.probe, h.tokens]
  rfl

end Token

/-- What a scan finds for a key without a probe: nothing, as no line is tried for it. -/
theorem RuleSet.references_of_wordless (s : RuleSet) (limit : Nat) {e : Entry}
    (h : Token.IsWordless e.key.toList) (linesOf : SourceFile → List String)
    (files : List SourceFile) : s.references limit e linesOf files = [] := by
  rw [references, List.flatMap_eq_nil_iff]
  intro f _
  simp [referencesIn, s.not_mentions_of_probe h.probe]

namespace Tracker

variable (settings : ScanSettings) (entries : List Entry) (files : FileTree)
  (actions : List Action)

/-- Every list that a scan tries to publish on such a key is empty. -/
theorem references_of_wordless {id : Nat} {e : Entry} (he : entries[id]? = some e)
    (h : Token.IsWordless e.key.toList) :
    ∀ p ∈ (initial settings entries files).attempts actions, p.entry = id → p.references = [] := by
  intro p hp hentry
  have hinv := inv_run settings entries files actions
  obtain ⟨s, e', hs, hid, he', -, hlookup, hfound⟩ := hinv.attempts p hp
  rw [entries_run, hentry] at he'
  obtain rfl : e = e' := Option.some.inj (he.symm.trans he')
  rw [entries_run] at hlookup
  have hnodup : s.files.Nodup := by
    obtain ⟨r, -, -, -, hfiles⟩ := request_of_scan settings entries files actions hs
    exact hfiles ▸ SourceFile.nodup_distinct settings r.files
  obtain ⟨content, -, hreads⟩ := hlookup.exists_reads (List.cons_ne_nil _ _) hnodup
  rw [hfound, found, context, settings_run]
  rw [hentry] at hid
  exact (hreads.references _ (List.mem_of_getElem? hid) he).trans
    (s.rules.references_of_wordless _ h _ _)

/-- **What is published and reported for a key without a word character.** Every list that a scan
tries to publish on the entry is empty. Once a scan with the entry is complete, the entry is
reported as unused, then and later, whatever the lines of the files are. -/
theorem isUnused_of_wordless {g id : Nat} {s : Scan} {m : Summary} {e : Entry}
    (hs : ((initial settings entries files).run actions).scans[g]? = some s)
    (ho : s.outcome = some (.completed m)) (hid : id ∈ s.entries) (he : entries[id]? = some e)
    (h : Token.IsWordless e.key.toList) :
    (∀ p ∈ (initial settings entries files).attempts actions, p.entry = id → p.references = []) ∧
    ∀ more, ∃ slot,
      ((initial settings entries files).run (actions ++ more)).slots[id]? = some slot ∧
        (Record.ofEntry (e, slot)).isUnused = true := by
  refine ⟨references_of_wordless settings entries files actions he h, fun more => ?_⟩
  -- The scan has published on the entry, so that some list is the last one.
  obtain ⟨hcomplete, -⟩ := complete_of_outcome settings entries files actions hs ho
  obtain ⟨k, hk⟩ := List.mem_iff_getElem?.1 hid
  obtain ⟨p, hp, hacc, hscan, htask⟩ := hcomplete.published k (List.getElem?_eq_some_iff.1 hk).1
  obtain ⟨s', _, hs', hentry, -⟩ := (inv_run settings entries files actions).attempts p hp
  obtain rfl : s = s' := Option.some.inj (hs.symm.trans (hscan ▸ hs'))
  obtain rfl : id = p.entry := Option.some.inj (hk.symm.trans (htask ▸ hentry))
  have hp : p ∈ (initial settings entries files).attempts (actions ++ more) := by
    rw [attempts_append]
    exact List.mem_append_left _ hp
  obtain ⟨q, hq, -, hqentry, hpublished⟩ := exists_published? hp hacc
  have hlist : ((initial settings entries files).run (actions ++ more)).list? p.entry =
      some [] := by
    rw [list?_run, hpublished,
      references_of_wordless settings entries files (actions ++ more) he h q hq hqentry]
    rfl
  obtain ⟨slot, hslot, hreferences⟩ := Option.bind_eq_some_iff.1 hlist
  refine ⟨slot, hslot, ?_⟩
  simp [Record.isUnused, Record.ofEntry, Slot.isScanned, hreferences]

/-- A file with the line `x да`. -/
def wordlessFiles : FileTree := ⟨[(["f.t"], .file [120, 32, 208, 180, 208, 176])], []⟩

/-- A rule that looks for the key `да` as plain text is tried on no line. -/
theorem outcome_wordlessRun :
    (((initial .standard [⟨"", "да"⟩] wordlessFiles).run plainRun).scans[0]?).map Scan.outcome =
      some (some (.completed ⟨1, 0, 1, 0⟩)) := by
  decide +kernel

/-- The entry is reported as unused from then on. -/
theorem isUnused_of_wordlessRun :
    ∃ s m, ((initial .standard [⟨"", "да"⟩] wordlessFiles).run plainRun).scans[0]? = some s ∧
      s.outcome = some (.completed m) ∧ ∀ more, ∃ slot,
        ((initial .standard [⟨"", "да"⟩] wordlessFiles).run (plainRun ++ more)).slots[0]? =
            some slot ∧
          (Record.ofEntry (⟨"", "да"⟩, slot)).isUnused = true := by
  obtain ⟨s, hs, ho⟩ := Option.map_eq_some_iff.1 outcome_wordlessRun
  obtain ⟨r, hr, hentries, -⟩ := request_of_scan _ _ _ _ hs
  obtain rfl := List.mem_singleton.1 hr
  have hid : 0 ∈ s.entries := hentries ▸ List.mem_singleton_self 0
  obtain ⟨-, hunused⟩ := isUnused_of_wordless _ _ _ _ hs ho hid rfl (by decide +kernel)
  exact ⟨s, ⟨1, 0, 1, 0⟩, hs, ho, hunused⟩

/-- **An entry is reported as unused although its key stands in a line**, after a space and at the
end, in a file for which there is a rule that minds case and looks for the key as plain text. The
rule would match the line. -/
theorem isUnused_of_standing :
    (((initial .standard [⟨"", "да"⟩] wordlessFiles).run plainRun).scans[0]?).map
        (fun s => (s.outcome, s.files)) =
      some (some (.completed ⟨1, 0, 1, 0⟩), [SourceFile.ofPath "f.t"]) ∧
    (((initial .standard [⟨"", "да"⟩] wordlessFiles).run plainRun).slots[0]?).map
        (fun slot => (Record.ofEntry (⟨"", "да"⟩, slot)).isUnused) = some true ∧
    ((SourceFile.ofPath "f.t").readLines wordlessFiles).1 = ["x да"] ∧
    "x да".toList = ['x', ' '] ++ "да".toList ∧
    (RuleSet.ofRules [⟨[".t"], true, none, none⟩]).firstMatch
      ScanSettings.standard.patternSizeLimit ⟨"", "да"⟩ ".t" "x да" = some ["x ", "да", ""] :=
  ⟨by decide +kernel, by decide +kernel, by decide +kernel, by decide +kernel, by decide +kernel⟩

end Tracker

end KeyTrace
