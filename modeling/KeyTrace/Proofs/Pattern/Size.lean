import KeyTrace.Pattern
import KeyTrace.Proofs.Pattern.Reading
import KeyTrace.Proofs.Text.Utf8

/-!
# Bounds on the sizes of patterns

Whether a pattern is too large is decided by its size, which for a class takes a machine that reads
the bytes of its characters. States of that machine that coincide are built once; counting each of
them for itself gives a bound that can be worked out.

## Main results

* `Node.size_literal`: the size of a text.
* `ByteForm.sharedBytes_le`, `CharClass.measure_forward_le`: bounds for classes;
  `CharClass.bytes_nonBreak_le`, `CharClass.bytes_nonWord_le`: for the two that built-in rules have.
* `Node.isSpelledOut_literal`: a long text is not looked for as it is.
* `Pattern.compile_of_size_le`, `Pattern.compile_of_lt_size`: what is not too large compiles, and
  what is does not.
-/

namespace KeyTrace

/-- The size of a text. -/
theorem Node.size_literal (cs : List Char) :
    (literal cs).size = stateBytes * Utf8.width cs + 208 := by
  simp [size, bytes, bytesIn, within, lead, fromStart, toEnd, stateBytes, branchBytes, rangeBytes,
    Utf8.length_encode]
  omega

/-- A class is no larger than all states of its machine together. -/
theorem ByteForm.sharedBytes_le (forms : List ByteForm) : sharedBytes forms ≤
    ((states longest forms).map fun s => stateBytes + rangeBytes * (groups s).length).sum := by
  rw [sharedBytes]
  generalize states longest forms = all
  suffices h : ∀ (seen : Std.HashSet (List ByteForm)) (n : Nat),
      (all.foldl (fun (p : Std.HashSet (List ByteForm) × Nat) s =>
        if p.1.contains s then p
        else (p.1.insert s, p.2 + stateBytes + rangeBytes * (groups s).length)) (seen, n)).2 ≤
        n + (all.map fun s => stateBytes + rangeBytes * (groups s).length).sum by
    simpa using h ∅ 0
  induction all with
  | nil => exact fun seen n => Nat.le_refl n
  | cons s rest ih =>
    intro seen n
    rw [List.foldl_cons, List.map_cons, List.sum_cons]
    split
    · exact (ih seen n).trans (by omega)
    · exact (ih _ _).trans (by omega)

namespace CharClass

/-- A bound for the size of a class, read forwards. -/
def forwardBound (k : CharClass) : Nat :=
  if k.isAscii then 2 * stateBytes + rangeBytes * k.length
  else
    stateBytes + ((ByteForm.states ByteForm.longest (ByteForm.ofRuns k)).map fun s =>
      stateBytes + rangeBytes * (ByteForm.groups s).length).sum

theorem measure_forward_le (k : CharClass) : k.measure .forward ≤ k.forwardBound := by
  rw [measure, forwardBound]
  split
  · exact Nat.le_refl _
  · exact Nat.add_le_add_left (ByteForm.sharedBytes_le _) _

theorem bytes_nonBreak_le (d : Direction) : nonBreak.bytes d ≤ 1000 := by
  rw [bytes_eq_measure]
  cases d with
  | forward => exact (measure_forward_le _).trans (by decide +kernel)
  | backward => decide +kernel

theorem bytes_nonWord_le (d : Direction) : nonWord.bytes d ≤ 50000 := by
  rw [bytes_eq_measure]
  cases d with
  | forward => exact (measure_forward_le _).trans (by decide +kernel)
  | backward => decide +kernel

end CharClass

/-! ### Texts that are looked for as they are -/

/-- A single opening is no whole match after trimming if it was none before. -/
theorem Openings.isWhole_trimmed {o : Opening} (h : o.whole = false) :
    (trimmed (some [o])).isWhole = false := by
  have hleast : least [o] = [o] := rfl
  have hshared : sharedOnly [o] = [o] := by
    simp [sharedOnly, shared, merged, mergedFrom, Opening.keep]
  have hcut : (cutOrKept [o]).isWhole = false := by
    have hshort : cut cuts [o] = [o] := rfl
    simp only [cutOrKept, hshort, List.all_cons, h, Bool.false_and, Bool.false_eq_true, if_false]
    split
    · simp [isWhole, h]
    · rfl
  rw [trimmed]
  dsimp only
  rw [hleast, hshared]
  split
  · rfl
  · split
    · exact hcut
    · exact hcut

/-- A text that is longer than openings may be is not looked for as it is. -/
theorem Node.isSpelledOut_literal {cs : List Char} (h : Openings.lengthLimit < Utf8.width cs) :
    (literal cs).isSpelledOut = false := by
  have hopenings : (literal cs).openings =
      some [⟨(Utf8.encode cs).take Openings.lengthLimit, false⟩] := by
    rw [← Utf8.length_encode] at h
    simp [openings, depth, openingsFrom, Opening.keep, Nat.not_le.2 h]
  have hwhole : (Openings.trimmed
      (some [⟨(Utf8.encode cs).take Openings.lengthLimit, false⟩])).isWhole = false :=
    Openings.isWhole_trimmed rfl
  rw [isSpelledOut, hopenings, hwhole]
  simp [branches, manyTexts]

namespace Pattern

variable {ignoreCase : Bool} {limit : Nat} {source : List Char} {node : Node} {groups : Nat}

/-- What is not too large compiles. -/
theorem compile_of_size_le (h : readNode ignoreCase source = some (node, groups))
    (hsize : node.size ≤ limit) :
    compile ignoreCase limit source = .ok ⟨Program.ofNode node, groups⟩ := by
  have hlarge : (decide (limit < node.size) && !node.isSpelledOut) = false := by
    rw [decide_eq_false (Nat.not_lt.2 hsize), Bool.false_and]
  simp only [compile, h, hlarge, Bool.false_eq_true, if_false]

/-- What is too large and not looked for as it is does not compile. -/
theorem compile_of_lt_size (h : readNode ignoreCase source = some (node, groups))
    (hsize : limit < node.size) (hspelled : node.isSpelledOut = false) :
    compile ignoreCase limit source = .error (.tooBig limit) := by
  have hlarge : (decide (limit < node.size) && !node.isSpelledOut) = true := by
    rw [decide_eq_true hsize, hspelled]
    rfl
  simp only [compile, h, hlarge, if_true]

end Pattern

end KeyTrace
