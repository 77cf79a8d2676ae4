import KeyTrace.Proofs.Rule.Segments
import KeyTrace.Proofs.Text.Offset

/-!
# Lines are cut where they can be

A line is bytes, and a matcher cuts it at spans of bytes. Such a cut can go wrong: it may lie past
the end of the line or inside a character, or end before it starts. The spans of a template are
those of the padded line, shifted back by the space before it and held between the ends of the line,
which must not move them into a character either.

None of this happens. The spans in bytes are those of places in the line, in order, so that cutting
at them is the same as cutting at positions.

## Main definitions

* `Segments.cutBytes?`: a line cut at spans of bytes, where that is possible.
* `LineMatcher.spansInBytes?`: the spans of bytes that a matcher cuts a line at.
* `LineMatcher.outcome?`: what a matcher makes of a line, in bytes, unless a cut goes wrong.

## Main results

* `Segments.cutBytes?_inBytes`: a line can be cut at the places of spans that follow each other.
* `LineMatcher.outcome_of_compile`: a compiled rule never cuts a line where it cannot be cut.
-/

namespace KeyTrace

/-- A span with its ends counted in bytes. -/
def Span.inBytes (text : List Char) (s : Span) : Span :=
  ⟨Utf8.offset text s.start, Utf8.offset text s.stop⟩

@[simp] theorem Span.start_inBytes (text : List Char) (s : Span) :
    (s.inBytes text).start = Utf8.offset text s.start := rfl

@[simp] theorem Span.stop_inBytes (text : List Char) (s : Span) :
    (s.inBytes text).stop = Utf8.offset text s.stop := rfl

namespace Segments

/-- The piece of a line between two numbers of bytes. There is none unless both are the offset of a
place in the line and the second place is not before the first. -/
def sliceBytes? (line : List Char) (start stop : Nat) : Option String :=
  (Utf8.position? line start).bind fun i =>
    (Utf8.position? line stop).bind fun j => if i ≤ j then some (slice line i j) else none

/-- The segments of a line from byte `cursor` on, cut at spans of bytes. -/
def cutBytesFrom? (line : List Char) (cursor : Nat) : List Span → Option Segments
  | [] => (sliceBytes? line cursor (Utf8.width line)).map fun s => [s]
  | s :: rest =>
    (sliceBytes? line cursor s.start).bind fun plain =>
      (sliceBytes? line s.start s.stop).bind fun hit =>
        (cutBytesFrom? line s.stop rest).map fun more => plain :: hit :: more

/-- The segments of a line cut at spans of bytes, if every cut is possible. -/
def cutBytes? (line : List Char) (spans : List Span) : Option Segments := cutBytesFrom? line 0 spans

/-- Spans at which a line can be cut. -/
structure Fits (line : List Char) (spans : List Span) : Prop where
  chain : Chain 0 spans
  stop_le : ∀ s ∈ spans, s.stop ≤ line.length

variable {line : List Char} {spans : List Span}

theorem Fits.singleton {s : Span} (h : s.Within line.length) : Fits line [s] := by
  constructor
  · exact ⟨Nat.zero_le _, h.start_le_stop, trivial⟩
  · simpa using h.stop_le

theorem sliceBytes?_offset {i j : Nat} (hij : i ≤ j) (hj : j ≤ line.length) :
    sliceBytes? line (Utf8.offset line i) (Utf8.offset line j) = some (slice line i j) := by
  rw [sliceBytes?, Utf8.position?_offset (hij.trans hj), Utf8.position?_offset hj]
  simp [hij]

theorem cutBytesFrom?_inBytes {cursor : Nat} (hcursor : cursor ≤ line.length)
    (hchain : Chain cursor spans) (hstop : ∀ s ∈ spans, s.stop ≤ line.length) :
    cutBytesFrom? line (Utf8.offset line cursor) (spans.map (Span.inBytes line)) =
      some (cutFrom line cursor spans) := by
  induction spans generalizing cursor with
  | nil =>
    have hend : Utf8.width line = Utf8.offset line line.length :=
      (Utf8.offset_of_length_le (Nat.le_refl _)).symm
    have htake : (line.drop cursor).take (line.length - cursor) = line.drop cursor := by
      rw [List.take_of_length_le (by simp)]
    rw [List.map_nil, cutBytesFrom?, hend, sliceBytes?_offset hcursor (Nat.le_refl _)]
    simp [cutFrom, slice, htake]
  | cons s rest ih =>
    obtain ⟨hstart, hle, hrest⟩ := hchain
    have hs : s.stop ≤ line.length := hstop s (List.mem_cons_self ..)
    have hmore := ih hs hrest fun t ht => hstop t (List.mem_cons_of_mem s ht)
    rw [List.map_cons, cutBytesFrom?]
    simp only [Span.start_inBytes, Span.stop_inBytes]
    rw [sliceBytes?_offset hstart (hle.trans hs), sliceBytes?_offset hle hs, hmore]
    rfl

/-- **A line can be cut at the places of spans that follow each other**, and the segments are those
that lie between their positions. -/
theorem cutBytes?_inBytes (h : Fits line spans) :
    cutBytes? line (spans.map (Span.inBytes line)) = some (cut line spans) := by
  have hcut := cutBytesFrom?_inBytes (Nat.zero_le line.length) h.chain h.stop_le
  rwa [Utf8.offset_zero] at hcut

theorem length_cutFrom (line : List Char) (cursor : Nat) (spans : List Span) :
    (cutFrom line cursor spans).length = 2 * spans.length + 1 := by
  induction spans generalizing cursor with
  | nil => rfl
  | cons s rest ih =>
    simp only [cutFrom, List.length_cons, ih]
    omega

/-- Plain and matched text alternate, with plain text at both ends. -/
theorem odd_length_cut (line : List Char) (spans : List Span) : Odd (cut line spans).length :=
  ⟨spans.length, length_cutFrom line 0 spans⟩

end Segments

namespace LineMatcher

/-! ### The occurrence that is chosen -/

/-- The span of least size by some measure, the first of several. -/
def leastBy (measure : Span → Nat) (first : Span) (rest : List Span) : Span :=
  (rest.foldl (fun (best : Span × Nat) s => if measure s < best.2 then (s, measure s) else best)
    (first, measure first)).1

theorem closest_eq (offsets : Array Nat) (others : List Span) (first : Span) (rest : List Span) :
    closest offsets others first rest =
      leastBy (fun s => (nearest others (toBytes offsets s)).getD 0) first rest := rfl

/-- Spans may be rewritten before the least one is taken or afterwards. -/
theorem leastBy_map {f : Span → Span} {measure measure' : Span → Nat} {first : Span}
    {rest : List Span} (h : ∀ s ∈ first :: rest, measure' (f s) = measure s) :
    leastBy measure' (f first) (rest.map f) = f (leastBy measure first rest) := by
  rw [leastBy, leastBy, h first (List.mem_cons_self ..)]
  have hrest : ∀ s ∈ rest, measure' (f s) = measure s :=
    fun s hs => h s (List.mem_cons_of_mem first hs)
  clear h
  generalize measure first = size
  induction rest generalizing first size with
  | nil => rfl
  | cons s rest ih =>
    have hs := hrest s (List.mem_cons_self ..)
    have hmore := fun t ht => hrest t (List.mem_cons_of_mem s ht)
    rw [List.map_cons, List.foldl_cons, List.foldl_cons, hs]
    by_cases hlt : measure s < size
    · simp only [hlt, if_true]
      exact ih hmore (measure s)
    · simp only [hlt, if_false]
      exact ih hmore size

theorem toList_foldl_offsets (line : List Char) (before : Nat) (table : Array Nat) :
    (line.foldl (fun acc c => (acc.1 + c.utf8Size, acc.2.push (acc.1 + c.utf8Size)))
      (before, table)).2.toList =
    table.toList ++ (List.range line.length).map fun i => before + Utf8.offset line (i + 1) := by
  induction line generalizing before table with
  | nil => simp
  | cons c rest ih =>
    rw [List.foldl_cons, ih, Array.toList_push, List.length_cons, List.range_succ_eq_map]
    simp [Function.comp_def, Nat.add_assoc]

/-- The table of a line holds the offsets of its positions. -/
theorem toList_byteOffsets (line : List Char) :
    (byteOffsets line).toList = (List.range (line.length + 1)).map (Utf8.offset line) := by
  rw [byteOffsets, toList_foldl_offsets, List.range_succ_eq_map]
  simp [Function.comp_def]

theorem toBytes_byteOffsets {line : List Char} {s : Span} (h : s.Within line.length) :
    toBytes (byteOffsets line) s = s.inBytes line := by
  have hget : ∀ pos ≤ line.length, (byteOffsets line).getD pos 0 = Utf8.offset line pos := by
    intro pos hpos
    rw [Array.getD_eq_getD_getElem?, ← Array.getElem?_toList, toList_byteOffsets, List.getElem?_map,
      List.getElem?_range (by omega)]
    rfl
  rw [toBytes, hget _ (h.start_le_stop.trans h.stop_le), hget _ h.stop_le]
  rfl

theorem indexOf?_le {needle line : List Char} {i : Nat} (h : indexOf? needle line = some i) :
    i ≤ line.length := by
  induction line generalizing i with
  | nil =>
    rw [indexOf?] at h
    split at h
    · simp at h
      omega
    · cases h
  | cons c rest ih =>
    rw [indexOf?] at h
    split at h
    · simp at h
      omega
    · obtain ⟨j, hj, rfl⟩ := Option.map_eq_some_iff.1 h
      simpa using ih hj

theorem commentStart_le {m : LineMatcher} {line : List Char} {c : Nat}
    (h : m.commentStart line = some c) : c ≤ line.length := by
  obtain ⟨token, -, htoken⟩ := Option.bind_eq_some_iff.1 h
  exact indexOf?_le htoken

/-! ### Spans in bytes -/

/-- The occurrence that is nearest to the others, or the first one if there are no others. -/
def chosenInBytes? (others : List Span) : List Span → Option (List Span)
  | [] => none
  | first :: rest =>
    if others.isEmpty then some [first]
    else some [leastBy (fun s => (nearest others s).getD 0) first rest]

/-- The span in bytes of a key as plain text. -/
def literalInBytes? (m : LineMatcher) (key : Pattern) (container : Option Pattern)
    (line : List Char) : Option (List Span) :=
  let comment := (m.commentStart line).map (Utf8.offset line)
  let spans := ((key.findAll line).map (Span.inBytes line)).filter fun s =>
    comment.all fun c => s.start < c
  let others := match container with
    | some c => (c.findAll line).map (Span.inBytes line)
    | none => []
  chosenInBytes? others spans

/-- A number of bytes of the padded line as one of the line. -/
def toLineBytes (line : List Char) (n : Nat) : Nat := min (n - 1) (Utf8.width line)

/-- The spans in bytes of a template. -/
def templateInBytes? (m : LineMatcher) (pattern : Pattern) (line : List Char) :
    Option (List Span) :=
  let padded := ' ' :: line ++ [' ']
  match pattern.find? padded with
  | none => none
  | some (whole, groups) =>
    let comment := (m.commentStart line).map (Utf8.offset line)
    let whole := whole.inBytes padded
    if comment.any fun c => c ≤ toLineBytes line whole.start then none
    else
      let kept := match outermost 0 (groups.map (Span.inBytes padded)) with
        | [] => [whole]
        | kept => kept
      some (kept.map fun s => ⟨toLineBytes line s.start, toLineBytes line s.stop⟩)

/-- The spans in bytes that a line is cut at, if it matches. -/
def spansInBytes? (m : LineMatcher) (line : List Char) : Option (List Span) :=
  match m.sought with
  | .literal key container => m.literalInBytes? key container line
  | .template pattern => m.templateInBytes? pattern line

/-- What matching a line yields: whether it succeeds, and the segments of the line. -/
structure Outcome where
  success : Bool
  segments : Segments
deriving Repr, DecidableEq

/-- What a matcher makes of a line, in bytes. There is no outcome if the line would be cut where it
cannot be. -/
def outcome? (m : LineMatcher) (line : String) : Option Outcome :=
  match m.spansInBytes? line.toList with
  | none => some ⟨false, []⟩
  | some spans => (Segments.cutBytes? line.toList spans).map fun segments => ⟨true, segments⟩

/-- Spans in bytes and segments are of the same cuts of a line, if there are any. -/
def Agrees (line : List Char) (bytes : Option (List Span)) (segments : Option Segments) : Prop :=
  (bytes = none ∧ segments = none) ∨
    ∃ spans, Segments.Fits line spans ∧ bytes = some (spans.map (Span.inBytes line)) ∧
      segments = some (Segments.cut line spans)

variable {m : LineMatcher} {line : List Char} {node : Node}

/-! ### Keys as plain text -/

/-- Occurrences before the comment are the same in bytes. -/
theorem filter_inBytes (spans : List Span) :
    ((spans.map (Span.inBytes line)).filter fun s =>
        ((m.commentStart line).map (Utf8.offset line)).all fun c => s.start < c) =
      (spans.filter fun s => (m.commentStart line).all fun c => s.start < c).map
        (Span.inBytes line) := by
  rw [List.filter_map]
  congr 1
  refine List.filter_congr fun s _ => ?_
  cases hc : m.commentStart line with
  | none => rfl
  | some c =>
    have hlt := Utf8.offset_lt_offset_iff (commentStart_le hc) s.start
    simp [hlt]

theorem agrees_chosen (others spans : List Span) :
    (∀ s ∈ spans, s.Within line.length) →
      Agrees line (chosenInBytes? others (spans.map (Span.inBytes line)))
        (match spans with
        | [] => none
        | first :: rest =>
          some (Segments.cut line
            [if others.isEmpty then first else closest (byteOffsets line) others first rest])) := by
  intro h
  cases spans with
  | nil => exact Or.inl ⟨rfl, rfl⟩
  | cons first rest =>
    have hclosest : leastBy (fun s => (nearest others s).getD 0) (first.inBytes line)
          (rest.map (Span.inBytes line)) =
        (closest (byteOffsets line) others first rest).inBytes line := by
      rw [closest_eq]
      refine leastBy_map fun s hs => ?_
      rw [toBytes_byteOffsets (h s hs)]
    have hchosen := h _ (chosen_mem (byteOffsets line) others first rest)
    refine Or.inr ⟨_, .singleton hchosen, ?_, rfl⟩
    rw [List.map_cons, chosenInBytes?, hclosest]
    split
    · rfl
    · rfl

theorem agrees_literal {key : Pattern} (hkey : key.program = .ofNode node)
    {container : Option Pattern}
    (hcontainer : ∀ c, container = some c → ∃ node, c.program = .ofNode node) :
    Agrees line (m.literalInBytes? key container line) (m.applyLiteral key container line) := by
  have hwithin : ∀ s ∈ (key.findAll line).filter fun s =>
      (m.commentStart line).all fun c => s.start < c, s.Within line.length :=
    fun s hs => Pattern.within_of_findAll hkey (List.mem_filter.1 hs).1
  unfold literalInBytes? applyLiteral
  dsimp only
  rw [filter_inBytes]
  cases container with
  | none => exact agrees_chosen [] _ hwithin
  | some c =>
    obtain ⟨node, hnode⟩ := hcontainer c rfl
    have hothers : (c.findAll line).map (toBytes (byteOffsets line)) =
        (c.findAll line).map (Span.inBytes line) :=
      List.map_congr_left fun s hs => toBytes_byteOffsets (Pattern.within_of_findAll hnode hs)
    simp only [hothers]
    exact agrees_chosen _ _ hwithin

/-! ### Templates -/

theorem outermost_inBytes {text : List Char} {cursor : Nat} {groups : List Span}
    (hcursor : cursor ≤ text.length) (h : ∀ g ∈ groups, g.Within text.length) :
    outermost (Utf8.offset text cursor) (groups.map (Span.inBytes text)) =
      (outermost cursor groups).map (Span.inBytes text) := by
  induction groups generalizing cursor with
  | nil => rfl
  | cons g rest ih =>
    have hrest := fun g' hg' => h g' (List.mem_cons_of_mem g hg')
    have hiff := Utf8.offset_le_offset_iff hcursor g.start
    rw [List.map_cons, outermost, outermost, Span.start_inBytes, Span.stop_inBytes]
    by_cases hle : cursor ≤ g.start
    · rw [if_pos (hiff.2 hle), if_pos hle, List.map_cons]
      exact congrArg _ (ih (h g (List.mem_cons_self ..)).stop_le hrest)
    · rw [if_neg fun hbytes => hle (hiff.1 hbytes), if_neg hle]
      exact ih hcursor hrest

/-- **Shifting back keeps places places**: the space before the line takes one byte, and what lies
in the padding is moved to the nearest end of the line. -/
theorem toLineBytes_offset (line : List Char) (pos : Nat) :
    toLineBytes line (Utf8.offset (' ' :: line ++ [' ']) pos) =
      Utf8.offset line (toLine line pos) := by
  rw [toLineBytes, toLine]
  cases pos with
  | zero => simp
  | succ p =>
    have hspace : ' '.utf8Size = 1 := rfl
    rw [List.cons_append, Utf8.offset_cons_succ, hspace, Nat.add_sub_cancel_left,
      Nat.add_sub_cancel]
    by_cases hp : p ≤ line.length
    · rw [Utf8.offset_append_of_le hp, min_eq_left hp, min_eq_left (Utf8.offset_le_width line p)]
    · have hlength : line.length ≤ p := by omega
      rw [min_eq_right hlength, min_eq_right (Utf8.width_le_offset_append hlength),
        Utf8.offset_of_length_le (Nat.le_refl _)]

/-- Spans of the padded line are shifted back to the same places. -/
theorem shift_inBytes (line : List Char) (spans : List Span) :
    (spans.map (Span.inBytes (' ' :: line ++ [' ']))).map (fun s =>
        (⟨toLineBytes line s.start, toLineBytes line s.stop⟩ : Span)) =
      (spans.map fun s => ⟨toLine line s.start, toLine line s.stop⟩).map (Span.inBytes line) := by
  rw [List.map_map, List.map_map]
  refine List.map_congr_left fun s _ => ?_
  simp only [Function.comp_apply, Span.inBytes, toLineBytes_offset]

/-- A match starts after the comment token in bytes exactly if it does in positions. -/
theorem any_commentStart (pos : Nat) :
    (((m.commentStart line).map (Utf8.offset line)).any fun c =>
        c ≤ Utf8.offset line (toLine line pos)) =
      (m.commentStart line).any fun c => c ≤ toLine line pos := by
  cases hc : m.commentStart line with
  | none => rfl
  | some c =>
    have hle := Utf8.offset_le_offset_iff (commentStart_le hc) (toLine line pos)
    simp [hle]

theorem agrees_template {pattern : Pattern} (hp : pattern.program = .ofNode node) :
    Agrees line (m.templateInBytes? pattern line) (m.applyTemplate pattern line) := by
  rw [templateInBytes?, applyTemplate]
  cases hfind : pattern.find? (' ' :: line ++ [' ']) with
  | none => exact Or.inl ⟨rfl, rfl⟩
  | some found =>
    obtain ⟨whole, groups⟩ := found
    obtain ⟨hwhole, hgroups⟩ := Pattern.within_of_find? hp hfind
    have hkept := outermost_inBytes (Nat.zero_le _) hgroups
    rw [Utf8.offset_zero] at hkept
    have hstart : toLineBytes line (whole.inBytes (' ' :: line ++ [' '])).start =
        Utf8.offset line (toLine line whole.start) := toLineBytes_offset line whole.start
    dsimp only
    rw [hstart, any_commentStart, hkept]
    by_cases hcomment : ((m.commentStart line).any fun c => c ≤ toLine line whole.start) = true
    · simp only [hcomment, if_true]
      exact Or.inl ⟨rfl, rfl⟩
    · simp only [hcomment]
      refine Or.inr ⟨_, ⟨chain_kept line hwhole.start_le_stop
        fun g hg => (hgroups g hg).start_le_stop, ?_⟩, ?_, rfl⟩
      · intro s hs
        obtain ⟨s, -, rfl⟩ := List.mem_map.1 hs
        exact Nat.min_le_right ..
      · cases outermost 0 groups with
        | nil => exact congrArg some (shift_inBytes line [whole])
        | cons g rest => exact congrArg some (shift_inBytes line (g :: rest))

theorem agrees_of_compile {r : Rule} {container key : String} {limit : Nat}
    (hm : compile r container key limit = .ok m) (line : String) :
    Agrees line.toList (m.spansInBytes? line.toList) (m.apply line) := by
  rw [spansInBytes?, apply]
  rcases exists_of_compile hm with ⟨k, c, node, -, hs, hp, hc⟩ | ⟨_, p, node, _, -, hs, -, hp⟩
  · rw [hs]
    exact agrees_literal hp hc
  · rw [hs]
    exact agrees_template hp

/-- **A compiled rule never cuts a line where it cannot be cut.** Whatever the rule, the container,
the key and the limit are, matching a line has an outcome, which is the one that is found by
positions. If it succeeds, the number of segments is odd and they make up the line; if it fails,
there are no segments. -/
theorem outcome_of_compile {r : Rule} {container key : String} {limit : Nat}
    (hm : compile r container key limit = .ok m) (line : String) :
    ∃ o, m.outcome? line = some o ∧
      m.apply line = (if o.success then some o.segments else none) ∧
      (o.success = true → Odd o.segments.length ∧ o.segments.line = line) ∧
      (o.success = false → o.segments = []) := by
  rw [outcome?]
  rcases agrees_of_compile hm line with ⟨hbytes, happly⟩ | ⟨spans, hfits, hbytes, happly⟩
  · rw [hbytes]
    exact ⟨⟨false, []⟩, rfl, happly, nofun, fun _ => rfl⟩
  · rw [hbytes]
    refine ⟨⟨true, Segments.cut line.toList spans⟩, ?_, happly, fun _ => ⟨?_, ?_⟩, nofun⟩
    · simp only [Segments.cutBytes?_inBytes hfits, Option.map_some]
    · exact Segments.odd_length_cut line.toList spans
    · exact Segments.line_cut line hfits.chain

/-- A rule whose groups lie in the padding, are empty, take no part, or lie in each other. -/
def edgeRule : Rule := ⟨[".t"], true, some "( )()(x)?(($Key)( ))", none⟩

theorem outcome_edgeRule :
    ((compile edgeRule "" "é" defaultLimit).toOption.bind fun m => m.outcome? "é") =
      some ⟨true, ["", "", "", "", "", "é", ""]⟩ := by
  decide +kernel

theorem outcome_of_edgeRule : ∃ m o, compile edgeRule "" "é" defaultLimit = .ok m ∧
    m.outcome? "é" = some o ∧ o.segments = ["", "", "", "", "", "é", ""] ∧
    Odd o.segments.length ∧ o.segments.line = "é" := by
  cases hm : compile edgeRule "" "é" defaultLimit with
  | error e =>
    have heval := outcome_edgeRule
    rw [hm] at heval
    cases heval
  | ok m =>
    have heval := outcome_edgeRule
    rw [hm] at heval
    obtain ⟨o, ho, -, hsuccess, -⟩ := outcome_of_compile hm "é"
    obtain rfl := Option.some.inj (ho.symm.trans heval)
    exact ⟨m, _, rfl, ho, rfl, hsuccess rfl⟩

end LineMatcher

end KeyTrace
