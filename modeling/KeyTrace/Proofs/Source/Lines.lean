import KeyTrace.Source.Lines
import KeyTrace.Proofs.Rule.Slicing
import KeyTrace.Proofs.Text.Lines
import KeyTrace.Proofs.Text.Lossy

/-!
# The lines of a file

A file is read as a text, and the text is cut into lines at bytes. That can go wrong in two ways. A
cut may fall inside a character, or past the end; and reading may take a terminator for part of a
character, or make one out of bytes that are none, so that a line is merged with its neighbour,
split or lost.

Neither happens. Terminators are ASCII, so that the bytes around them are read apart, and the loop
that looks for their bytes finds just the terminators of the text.

## Main definitions

* `Lines.splitBytes`: the lines of some bytes.
* `Lines.splitFrom?`: the lines of a text, cut at bytes unless a cut goes wrong.
* `SourceFile.withoutMark`: the content of a file without the mark of byte order.

## Main results

* `Lines.Cut.splitFrom?`: the loop over bytes cuts off one line after the other.
* `Lines.Cut.decodeLossy`: bytes are cut into lines before or after they are read.
* `Lines.split_exact`: what splitting makes of a text.
* `SourceFile.readLines_of_read`: the lines of a file are its bytes, cut into lines and then read.
-/

namespace KeyTrace

namespace Lines

open Utf8

/-! ### The loop over bytes -/

/-- A byte that ends a line, or begins the pair that does. -/
def isBreak (b : UInt8) : Bool := b == 0x0d || b == 0x0a

/-- How many bytes the terminator at a byte has. -/
def breakWidth (bytes : Bytes) (stop : Nat) : Nat :=
  if bytes[stop]? = some 0x0d ∧ bytes[stop + 1]? = some 0x0a then 2 else 1

theorem breakWidth_pos (bytes : Bytes) (stop : Nat) : 0 < breakWidth bytes stop := by
  rw [breakWidth]
  split <;> decide

/-- The lines of a text from a number of bytes on, cut at bytes, unless a cut goes wrong. -/
def splitFrom? (text : List Char) (start : Nat) : Option (List String) :=
  if start < (encode text).length then
    match ((encode text).drop start).findIdx? isBreak with
    | none => (Segments.sliceBytes? text start (encode text).length).map fun l => [l]
    | some offset =>
      (Segments.sliceBytes? text start (start + offset)).bind fun l =>
        (splitFrom? text (start + offset + breakWidth (encode text) (start + offset))).map
          fun ls => l :: ls
  else some []
termination_by (encode text).length - start
decreasing_by
  have hpos := breakWidth_pos (encode text) (start + offset)
  omega

theorem isBreak_iff {b : UInt8} : isBreak b = true ↔ b = 0x0d ∨ b = 0x0a := by
  rw [isBreak, Bool.or_eq_true, beq_iff_eq, beq_iff_eq]

/-- No byte of a character that ends no line is one that does. -/
theorem isBreak_of_mem_encode {l : List Char} (hl : Plain '\r' '\n' l) :
    ∀ b ∈ encode l, ¬isBreak b = true := by
  intro b hb hbreak
  obtain ⟨p, more, h⟩ := List.append_of_mem hb
  have hread := decodeLossy_encode l
  rcases isBreak_iff.1 hbreak with rfl | rfl
  · rw [h, decodeLossy_append p more (by decide)] at hread
    exact hl.1 (hread ▸ List.mem_append_right _ List.mem_cons_self)
  · rw [h, decodeLossy_append p more (by decide)] at hread
    exact hl.2 (hread ▸ List.mem_append_right _ List.mem_cons_self)

theorem drop_encode (before s : List Char) :
    (encode (before ++ s)).drop (width before) = encode s := by
  rw [encode_append, ← length_encode, List.drop_left]

theorem sliceBytes?_append (before l rest : List Char) :
    Segments.sliceBytes? (before ++ (l ++ rest)) (width before) (width before + width l) =
      some (String.ofList l) := by
  have hstart : offset (before ++ (l ++ rest)) before.length = width before := by
    rw [offset, List.take_left]
  have hstop : offset (before ++ (l ++ rest)) (before.length + l.length) =
      width before + width l := by
    rw [← List.append_assoc, ← List.length_append, offset, List.take_left, width_append]
  have hle : before.length + l.length ≤ (before ++ (l ++ rest)).length := by simp
  rw [← hstop, ← hstart, Segments.sliceBytes?_offset (Nat.le_add_right _ _) hle, Segments.slice,
    List.drop_left, Nat.add_sub_cancel_left, List.take_left]

theorem encode_marks (e : Ending) (s : List Char) :
    encode (e.text ++ s) = e.marks 0x0d 0x0a ++ encode s := by
  cases e <;> rfl

/-- Behind bytes that end no line, the first that does is that of the terminator. -/
theorem findIdx?_encode {l : List Char} (hl : Plain '\r' '\n' l) (e : Ending) (rest : List Char) :
    (encode (l ++ (e.text ++ rest))).findIdx? isBreak = some (width l) := by
  have hnone : (encode l).findIdx? isBreak = none :=
    List.findIdx?_eq_none_iff.2 fun b hb => Bool.eq_false_of_not_eq_true
      (isBreak_of_mem_encode hl b hb)
  rw [encode_append, encode_marks, List.findIdx?_append, hnone, length_encode]
  cases e <;> simp [Ending.marks, List.findIdx?_cons, isBreak]

theorem head?_encode_ne {rest : List Char} (h : rest.head? ≠ some '\n') :
    (encode rest).head? ≠ some 0x0a := by
  intro hhead
  obtain ⟨more, hmore⟩ := List.head?_eq_some_iff.1 hhead
  have hread : decodeLossy ([] ++ 0x0a :: more) = '\n' :: decodeLossy more :=
    decodeLossy_append [] more (by decide)
  rw [List.nil_append, ← hmore, decodeLossy_encode] at hread
  exact h (hread ▸ rfl)

theorem breakWidth_encode (before : List Char) (e : Ending) {rest : List Char}
    (he : e = .lone → rest.head? ≠ some '\n') :
    breakWidth (encode (before ++ (e.text ++ rest))) (width before) = width e.text := by
  have hget : ∀ i, (encode (before ++ (e.text ++ rest)))[width before + i]? =
      (e.marks 0x0d 0x0a ++ encode rest)[i]? := by
    intro i
    rw [← List.getElem?_drop, drop_encode, encode_marks]
  have hfirst := hget 0
  rw [Nat.add_zero] at hfirst
  rw [breakWidth, hfirst, hget]
  cases e with
  | pair => rfl
  | feed => rfl
  | lone =>
    have hhead := head?_encode_ne (he rfl)
    rw [List.head?_eq_getElem?] at hhead
    exact if_neg fun h => hhead h.2

/-- The loop cuts off one line after the other, and never where it cannot cut. -/
theorem Cut.splitFrom? {s : List Char} {ls : List (List Char)} {es : List Ending}
    (h : Cut '\r' '\n' s ls es) (before : List Char) :
    splitFrom? (before ++ s) (width before) = some (ls.map String.ofList) := by
  induction h generalizing before with
  | nil =>
    rw [Lines.splitFrom?, if_neg (by simp [length_encode])]
    rfl
  | @last l hne hl =>
    have hpos : 0 < width l := by
      obtain ⟨c, t, rfl⟩ := List.exists_cons_of_ne_nil hne
      have hsize := c.utf8Size_pos
      rw [width_cons]
      omega
    have hfind : (encode l).findIdx? isBreak = none := List.findIdx?_eq_none_iff.2 fun b hb =>
      Bool.eq_false_of_not_eq_true (isBreak_of_mem_encode hl b hb)
    have hslice := sliceBytes?_append before l []
    rw [List.append_nil] at hslice
    have hlt : width before < (encode (before ++ l)).length := by
      rw [length_encode, width_append]
      omega
    rw [Lines.splitFrom?, if_pos hlt, drop_encode, hfind]
    simp [length_encode, hslice]
  | @ended l rest ls es e hl he _ ih =>
    have hpos : 0 < width e.text := by cases e <;> decide
    have hlt : width before < (encode (before ++ (l ++ (e.text ++ rest)))).length := by
      rw [length_encode, width_append, width_append, width_append]
      omega
    have hfind := findIdx?_encode hl e rest
    have hslice := sliceBytes?_append before l (e.text ++ rest)
    have hwidth := breakWidth_encode (before ++ l) e he
    rw [List.append_assoc, width_append] at hwidth
    have hmore := ih (before ++ (l ++ e.text))
    rw [List.append_assoc, List.append_assoc, width_append, width_append, ← Nat.add_assoc] at hmore
    rw [Lines.splitFrom?, if_pos hlt, drop_encode, hfind]
    simp only [hslice, hwidth, hmore, Option.bind_some, Option.map_some, List.map_cons]

/-- **What splitting makes of a text.** The loop over bytes ends and cuts where it can; no line has
a mark of a terminator in it; the lines with the terminators that are found are the text; there is
a line more than terminators just if the text goes on after the last one; and the lines are those
of the text with a line feed for each terminator. -/
theorem split_exact (text : List Char) :
    splitFrom? text 0 = some ((split text).map String.ofList) ∧
      (∀ l ∈ split text, '\r' ∉ l ∧ '\n' ∉ l) ∧
      interleave (split text) (endings text) = text ∧
      (split text).length = (endings text).length + (if isOpen text then 1 else 0) ∧
      split (unified text) = split text := by
  have h := cut_split text
  exact ⟨h.splitFrom? [], h.plain, h.interleave_eq, h.length_eq, h.unified.split_eq⟩

example : split "\n\r\r\nä\r".toList = [[], [], [], ['ä']] ∧
    endings "\n\r\r\nä\r".toList = [.feed, .lone, .pair, .lone] := by decide

/-! ### Bytes of a file -/

/-- The lines of some bytes, cut at the bytes of the terminators. -/
def splitBytes : Bytes → List Bytes
  | [] => []
  | 0x0d :: 0x0a :: rest => [] :: splitBytes rest
  | b :: rest =>
    if b == 0x0d || b == 0x0a then [] :: splitBytes rest else pushTo b (splitBytes rest)

theorem exists_cut_splitBytes (bytes : Bytes) :
    ∃ es, Cut 0x0d 0x0a bytes (splitBytes bytes) es := by
  fun_induction splitBytes bytes with
  | case1 => exact ⟨[], .nil⟩
  | case2 rest ih =>
    obtain ⟨es, h⟩ := ih
    exact ⟨.pair :: es, .ended .pair .nil nofun h⟩
  | case3 b rest hpair hbreak ih =>
    obtain ⟨es, h⟩ := ih
    rw [Bool.or_eq_true, beq_iff_eq, beq_iff_eq] at hbreak
    rcases hbreak with rfl | rfl
    · have hhead : rest.head? ≠ some 0x0a := head?_ne fun t => hpair t rfl
      exact ⟨.lone :: es, .ended .lone .nil (fun _ => hhead) h⟩
    · exact ⟨.feed :: es, .ended .feed .nil nofun h⟩
  | case4 b rest hpair hbreak ih =>
    obtain ⟨es, h⟩ := ih
    rw [Bool.or_eq_true, beq_iff_eq, beq_iff_eq, not_or] at hbreak
    exact ⟨es, h.cons hbreak.1 hbreak.2⟩

theorem plain_decodeLossy {l : Bytes} (h : Plain 0x0d 0x0a l) :
    Plain '\r' '\n' (decodeLossy l) := by
  have hmem : ∀ c ∈ decodeLossy l, c ≠ '\ufffd' → encodeChar c ⊆ l := fun c =>
    subset_of_mem_decodeLossy
  exact ⟨fun hcr => h.1 (hmem '\r' hcr (by decide) (List.mem_singleton_self (0x0d : UInt8))),
    fun hlf => h.2 (hmem '\n' hlf (by decide) (List.mem_singleton_self (0x0a : UInt8)))⟩

theorem decodeLossy_marks (e : Ending) (p rest : Bytes) :
    decodeLossy (p ++ (e.marks 0x0d 0x0a ++ rest)) =
      decodeLossy p ++ (e.text ++ decodeLossy rest) := by
  have hcr : ∀ q, decodeLossy (p ++ 0x0d :: q) = decodeLossy p ++ '\r' :: decodeLossy q :=
    fun q => decodeLossy_append p q (by decide)
  have hlf : ∀ p, decodeLossy (p ++ 0x0a :: rest) = decodeLossy p ++ '\n' :: decodeLossy rest :=
    fun p => decodeLossy_append p rest (by decide)
  cases e with
  | pair => exact (hcr _).trans (congrArg (fun s => decodeLossy p ++ '\r' :: s) (hlf []))
  | feed => exact hlf p
  | lone => exact hcr rest

/-- **Bytes are cut into lines before or after they are read.** -/
theorem Cut.decodeLossy {bytes : Bytes} {ls : List Bytes} {es : List Ending}
    (h : Cut 0x0d 0x0a bytes ls es) :
    Cut '\r' '\n' (decodeLossy bytes) (ls.map Utf8.decodeLossy) es := by
  induction h with
  | nil => exact .nil
  | last hne hl => exact .last (decodeLossy_ne_nil hne) (plain_decodeLossy hl)
  | @ended l rest ls es e hl he _ ih =>
    rw [decodeLossy_marks]
    refine .ended e (plain_decodeLossy hl) (fun hlone hhead => he hlone ?_) ih
    obtain ⟨t, ht⟩ := prefix_of_head?_decodeLossy hhead (by decide)
    rw [← ht]
    rfl

end Lines

namespace SourceFile

open Utf8

/-- The bytes of the mark of byte order. -/
def markBytes : Bytes := [0xef, 0xbb, 0xbf]

/-- The content of a file without the mark of byte order at its start. -/
def withoutMark (content : Bytes) : Bytes :=
  if markBytes.isPrefixOf content then content.drop markBytes.length else content

theorem dropMark_decodeLossy (content : Bytes) :
    dropMark (decodeLossy content) = decodeLossy (withoutMark content) := by
  rw [withoutMark]
  split
  · rename_i hmark
    obtain ⟨rest, rfl⟩ := List.isPrefixOf_iff_prefix.1 hmark
    rw [List.drop_left]
    show dropMark (decodeLossy (encodeChar '\ufeff' ++ rest)) = _
    rw [decodeLossy_encodeChar]
    rfl
  · rename_i hmark
    rw [dropMark.eq_def]
    split
    · rename_i rest hread
      refine absurd (List.isPrefixOf_iff_prefix.2 ?_) hmark
      exact prefix_of_head?_decodeLossy (c := '\ufeff') (by rw [hread]; rfl) (by decide)
    · rfl

theorem linesOf_eq (content : Bytes) :
    linesOf content =
      (Lines.splitBytes (withoutMark content)).map fun p => String.ofList (decodeLossy p) := by
  obtain ⟨es, h⟩ := Lines.exists_cut_splitBytes (withoutMark content)
  rw [linesOf, dropMark_decodeLossy, h.decodeLossy.split_eq, List.map_map]
  rfl

/-- **The lines of a file** are its bytes without the mark at their start, cut into lines and then
each read by itself; reading puts one replacement character for each longest broken piece. -/
theorem readLines_of_read {t : FileTree} {f : SourceFile} {content : Bytes}
    (h : t.read f.path = .ok content) :
    f.readLines t = ((Lines.splitBytes (withoutMark content)).map fun p =>
        String.ofList (decodeLossy p), []) ∧
      ∀ p s, Decodes p s ↔ decodeLossy p = s := by
  refine ⟨?_, fun p s => decodes_iff⟩
  rw [readLines, h, ← linesOf_eq]

/-- The mark, a lead byte before a pair, two bytes of a character before a carriage return, a stray
byte in a line of its own, and three bytes of a character at the end. -/
def damagedContent : Bytes :=
  [0xef, 0xbb, 0xbf, 0x61, 0xc3, 0x0d, 0x0a, 0xe2, 0x82, 0x0d, 0xbf, 0x0a, 0xf0, 0x9f, 0x98]

/-- The terminators end the broken characters before them. -/
theorem readLines_damagedContent :
    (SourceFile.ofPath "f.t").readLines ⟨[(["f.t"], .file damagedContent)], []⟩ =
      (["a\ufffd", "\ufffd", "\ufffd", "\ufffd"], []) := by
  have hread : FileTree.read ⟨[(["f.t"], .file damagedContent)], []⟩ "f.t" =
      .ok damagedContent := by decide +kernel
  exact (readLines_of_read (f := .ofPath "f.t") hread).1.trans (by decide +kernel)

end SourceFile

end KeyTrace
