import KeyTrace.Proofs.Pattern.Occurrences
import KeyTrace.Proofs.Rule.Comment

/-!
# Keys as plain text

A rule without a template cuts a line at one occurrence of the key. Which one is decided among the
leftmost occurrences that do not overlap and start before a comment: the one that is nearest to an
occurrence of the container's name, the leftmost of several. The container's name is looked for in
the same way as the key, so that it occurs where it does not overlap an earlier occurrence, and
distances are counted in bytes.

## Main definitions

* `Span.distance`: how many bytes lie between two spans.
* `Span.Nearest`: the leftmost of the spans that are nearest to others.
* `Rule.Occurs`: the occurrences that a rule takes into account.

## Main results

* `LineMatcher.leastBy_spec`: the first span of least measure.
* `LineMatcher.literal_of_compile`: what a rule without a template makes of a line.
-/

namespace KeyTrace

/-! ### Distances -/

/-- How many bytes lie between two spans, from the end of one to the start of the other; none if
they touch or overlap. -/
def Span.distance (line : List Char) (a b : Span) : Nat :=
  Utf8.width ((line.take b.start).drop a.stop) + Utf8.width ((line.take a.start).drop b.stop)

theorem Utf8.width_drop_take (text : List Char) (i j : Nat) :
    width ((text.take j).drop i) = offset text j - offset text i := by
  have hsum := offset_add_width_drop (text.take j) i
  rw [offset, List.take_take] at hsum
  change offset text (min i j) + _ = offset text j at hsum
  rcases Nat.le_total i j with hle | hle
  · rw [min_eq_left hle] at hsum
    omega
  · have hmono := offset_mono text hle
    rw [min_eq_right hle] at hsum
    omega

theorem LineMatcher.gap_inBytes {line : List Char} {a b : Span} (ha : a.start ≤ a.stop)
    (hb : b.start ≤ b.stop) : gap (a.inBytes line) (b.inBytes line) = a.distance line b := by
  have ha' := Utf8.offset_mono line ha
  have hb' := Utf8.offset_mono line hb
  rw [Span.distance, Utf8.width_drop_take, Utf8.width_drop_take, gap]
  split
  · rename_i hle
    simp only [Span.start_inBytes, Span.stop_inBytes] at hle ⊢
    omega
  · rename_i hnot
    simp only [Span.start_inBytes, Span.stop_inBytes] at hnot
    split
    · rename_i hle
      simp only [Span.start_inBytes, Span.stop_inBytes] at hle ⊢
      omega
    · rename_i hnot'
      simp only [Span.start_inBytes, Span.stop_inBytes] at hnot'
      omega

/-- Among some spans, the leftmost of those whose distance to the nearest of the others is least; if
there are no others, the leftmost of all. -/
structure Span.Nearest (line : List Char) (spans : Set Span) (others : List Span) (s : Span) :
    Prop where
  mem : s ∈ spans
  least : ∀ t ∈ spans, ∀ o ∈ others, ∃ o' ∈ others, o'.distance line s ≤ o.distance line t
  leftmost : ∀ t ∈ spans, t.start < s.start →
    ∃ o' ∈ others, ∀ o ∈ others, o'.distance line s < o.distance line t

namespace LineMatcher

variable {m : LineMatcher} {line : List Char} {measure : Span → Nat} {first : Span}
  {rest : List Span}

/-! ### The span that is chosen -/

theorem leastBy_cons (s : Span) : leastBy measure first (s :: rest) =
    if measure s < measure first then leastBy measure s rest else leastBy measure first rest := by
  rw [leastBy, List.foldl_cons]
  dsimp only
  split
  · rfl
  · rfl

/-- No span measures less than the one that is chosen. -/
theorem leastBy_le (measure : Span → Nat) (first : Span) (rest : List Span) :
    ∀ s ∈ first :: rest, measure (leastBy measure first rest) ≤ measure s := by
  induction rest generalizing first with
  | nil =>
    intro s hs
    obtain rfl := List.mem_singleton.1 hs
    exact Nat.le_refl _
  | cons t rest ih =>
    intro s hs
    rw [leastBy_cons]
    split
    · rename_i hlt
      rcases List.mem_cons.1 hs with rfl | hs
      · exact (ih t t (List.mem_cons_self ..)).trans hlt.le
      · exact ih t s hs
    · rename_i hnot
      rcases List.mem_cons.1 hs with rfl | hs
      · exact ih s s (List.mem_cons_self ..)
      · rcases List.mem_cons.1 hs with rfl | hs
        · exact (ih first first (List.mem_cons_self ..)).trans (Nat.not_lt.1 hnot)
        · exact ih first s (List.mem_cons_of_mem first hs)

/-- **The first span of least measure** is chosen: those before it measure more. -/
theorem leastBy_spec (measure : Span → Nat) (first : Span) (rest : List Span) :
    ∃ before after, first :: rest = before ++ leastBy measure first rest :: after ∧
      ∀ s ∈ before, measure (leastBy measure first rest) < measure s := by
  induction rest generalizing first with
  | nil => exact ⟨[], [], rfl, nofun⟩
  | cons t rest ih =>
    rw [leastBy_cons]
    split
    · rename_i hlt
      obtain ⟨before, after, heq, hbefore⟩ := ih t
      refine ⟨first :: before, after, congrArg (first :: ·) heq, fun s hs => ?_⟩
      rcases List.mem_cons.1 hs with rfl | hs
      · exact (leastBy_le measure t rest t (List.mem_cons_self ..)).trans_lt hlt
      · exact hbefore s hs
    · rename_i hnot
      obtain ⟨before, after, heq, hbefore⟩ := ih first
      cases before with
      | nil =>
        obtain ⟨hfirst, rfl⟩ := List.cons.inj heq
        exact ⟨[], t :: rest, congrArg (· :: t :: rest) hfirst, nofun⟩
      | cons u before =>
        obtain ⟨rfl, hrest⟩ := List.cons.inj heq
        have hfirst := hbefore first (List.mem_cons_self ..)
        refine ⟨first :: t :: before, after, congrArg (first :: t :: ·) hrest, fun s hs => ?_⟩
        rcases List.mem_cons.1 hs with rfl | hs
        · exact hfirst
        · rcases List.mem_cons.1 hs with rfl | hs
          · exact hfirst.trans_le (Nat.not_lt.1 hnot)
          · exact hbefore s (List.mem_cons_of_mem _ hs)

theorem leastBy_mem (measure : Span → Nat) (first : Span) (rest : List Span) :
    leastBy measure first rest ∈ first :: rest := by
  obtain ⟨before, after, heq, -⟩ := leastBy_spec measure first rest
  exact heq ▸ List.mem_append_right before (List.mem_cons_self ..)

/-- Of spans in order, those that start earlier than the chosen one measure more. -/
theorem leastBy_lt (hsorted : (first :: rest).Pairwise fun s t => s.start < t.start) {t : Span}
    (ht : t ∈ first :: rest) (hlt : t.start < (leastBy measure first rest).start) :
    measure (leastBy measure first rest) < measure t := by
  obtain ⟨before, after, heq, hbefore⟩ := leastBy_spec measure first rest
  rw [heq] at ht hsorted
  rcases List.mem_append.1 ht with ht | ht
  · exact hbefore t ht
  · rcases List.mem_cons.1 ht with rfl | ht
    · exact absurd hlt (Nat.lt_irrefl _)
    · have hlater := List.rel_of_pairwise_cons (List.pairwise_append.1 hsorted).2.1 ht
      exact absurd hlt (Nat.lt_asymm hlater)

/-- The measure of a span is its distance to the nearest of the others. -/
theorem nearest_spec {others : List Span} {s : Span} (hothers : others ≠ [])
    (hwithin : ∀ o ∈ others, o.start ≤ o.stop) (hs : s.start ≤ s.stop) :
    ∃ o ∈ others, (nearest (others.map (Span.inBytes line)) (s.inBytes line)).getD 0 =
        o.distance line s ∧
      ∀ o' ∈ others, o.distance line s ≤ o'.distance line s := by
  have hmap : (others.map (Span.inBytes line)).map (fun o => gap o (s.inBytes line)) =
      others.map fun o => o.distance line s := by
    rw [List.map_map]
    exact List.map_congr_left fun o ho => gap_inBytes (hwithin o ho) hs
  rw [nearest, hmap]
  cases hmin : (others.map fun o => o.distance line s).min? with
  | none => exact absurd (List.map_eq_nil_iff.1 (List.min?_eq_none_iff.1 hmin)) hothers
  | some d =>
    obtain ⟨hmem, hleast⟩ := List.min?_eq_some_iff.1 hmin
    obtain ⟨o, ho, rfl⟩ := List.mem_map.1 hmem
    exact ⟨o, ho, rfl, fun o' ho' => hleast _ (List.mem_map_of_mem ho')⟩

/-- **The occurrence that is chosen** is the leftmost of those that are nearest to the others. -/
theorem nearest_chosen {others : List Span} (hsorted : (first :: rest).Pairwise fun s t =>
      s.start < t.start)
    (hwithin : ∀ s ∈ first :: rest, s.Within line.length)
    (hothers : ∀ o ∈ others, o.Within line.length) :
    Span.Nearest line {s | s ∈ first :: rest} others
      (if (others.map (toBytes (byteOffsets line))).isEmpty then first
        else closest (byteOffsets line) (others.map (toBytes (byteOffsets line))) first rest) := by
  have hbytes : others.map (toBytes (byteOffsets line)) = others.map (Span.inBytes line) :=
    List.map_congr_left fun o ho => toBytes_byteOffsets (hothers o ho)
  rw [hbytes]
  cases others with
  | nil =>
    refine ⟨List.mem_cons_self .., nofun, fun t ht hlt => ?_⟩
    rcases List.mem_cons.1 ht with rfl | ht
    · exact absurd hlt (Nat.lt_irrefl _)
    · exact absurd hlt (Nat.lt_asymm (List.rel_of_pairwise_cons hsorted ht))
  | cons o others =>
    have hnil : ((o :: others).map (Span.inBytes line)).isEmpty = false := rfl
    rw [hnil, if_neg Bool.false_ne_true, closest_eq]
    generalize hmeasure : (fun s => (nearest ((o :: others).map (Span.inBytes line))
      (toBytes (byteOffsets line) s)).getD 0) = measure
    have hspec : ∀ s ∈ first :: rest, ∃ o' ∈ o :: others, measure s = o'.distance line s ∧
        ∀ o'' ∈ o :: others, o'.distance line s ≤ o''.distance line s := by
      intro s hs
      rw [← hmeasure]
      dsimp only
      rw [toBytes_byteOffsets (hwithin s hs)]
      exact nearest_spec (List.cons_ne_nil o others) (fun o' ho' => (hothers o' ho').start_le_stop)
        (hwithin s hs).start_le_stop
    have hmem := leastBy_mem measure first rest
    obtain ⟨o', ho', hs, -⟩ := hspec _ hmem
    refine ⟨hmem, fun t ht o'' ho'' => ⟨o', ho', ?_⟩, fun t ht hlt => ⟨o', ho', fun o'' ho'' => ?_⟩⟩
    · obtain ⟨o₁, -, ht', hmin⟩ := hspec t ht
      rw [← hs]
      exact ((leastBy_le measure first rest t ht).trans ht'.le).trans (hmin o'' ho'')
    · obtain ⟨o₁, -, ht', hmin⟩ := hspec t ht
      rw [← hs]
      exact ((leastBy_lt hsorted ht hlt).trans_eq ht').trans_le (hmin o'' ho'')

/-! ### Lines for a key as plain text -/

/-- The segments of a line for a key as plain text, with the occurrences of the container named. -/
theorem applyLiteral_eq (m : LineMatcher) (key : Pattern) (container : Option Pattern)
    (line : List Char) : m.applyLiteral key container line =
      match (key.findAll line).filter fun s => (m.commentStart line).all fun c => s.start < c with
      | [] => none
      | first :: rest =>
        let others := (container.elim [] fun c => c.findAll line).map (toBytes (byteOffsets line))
        some (Segments.cut line
          [if others.isEmpty then first else closest (byteOffsets line) others first rest]) := by
  rw [applyLiteral]
  cases container with
  | none => rfl
  | some c => rfl

/-- **A key as plain text** is found if one of its occurrences starts before the comment, and the
line is cut at the one of these that is nearest to the container. -/
theorem applyLiteral_spec {key : Pattern} {container : Option Pattern}
    (hsorted : (key.findAll line).Pairwise fun s t => s.start < t.start)
    (hkeys : ∀ s ∈ key.findAll line, s.Within line.length)
    (hothers : ∀ o ∈ container.elim [] (fun c => c.findAll line), o.Within line.length) :
    ((m.applyLiteral key container line).isSome = true ↔
        ∃ s ∈ key.findAll line, s.BeforeComment m.commentToken line) ∧
      ∀ segments, m.applyLiteral key container line = some segments →
        ∃ s, Span.Nearest line {s | s ∈ key.findAll line ∧ s.BeforeComment m.commentToken line}
            (container.elim [] fun c => c.findAll line) s ∧
          segments = Segments.cut line [s] := by
  have hcounted : ∀ s, s ∈ key.findAll line ∧ s.BeforeComment m.commentToken line ↔
      s ∈ (key.findAll line).filter fun s => (m.commentStart line).all fun c => s.start < c := by
    intro s
    rw [List.mem_filter, beforeComment_iff]
  have hsorted := hsorted.filter fun s => (m.commentStart line).all fun c => s.start < c
  have hwithin := fun s hs => hkeys s ((hcounted s).2 hs).1
  simp only [hcounted]
  rw [applyLiteral_eq]
  generalize (key.findAll line).filter (fun s =>
    (m.commentStart line).all fun c => s.start < c) = counted at hsorted hwithin
  cases counted with
  | nil => exact ⟨by simp, nofun⟩
  | cons first rest =>
    refine ⟨iff_of_true rfl ⟨first, List.mem_cons_self ..⟩, fun segments h => ?_⟩
    exact ⟨_, nearest_chosen hsorted hwithin hothers, (Option.some.inj h).symm⟩

end LineMatcher

namespace Rule

/-- The spans at which a text occurs in a line, with case minded or not as the rule says: the
leftmost ones that do not overlap. -/
def Occurs (r : Rule) (text line : String) (spans : List Span) : Prop :=
  Leftmost (Stands (!r.caseSensitive) text.toList line.toList) text.toList.length 0 spans

end Rule

namespace Pattern

variable {ignoreCase : Bool} {limit : Nat} {key : List Char}

/-- An escaped text is always well formed. -/
theorem error_of_escape {cause : PatternError}
    (h : compile ignoreCase limit (escape key) = .error cause) : cause = .tooBig limit := by
  rw [compile, readNode_escape_eq] at h
  dsimp only at h
  split at h
  · exact (Except.error.inj h).symm
  · cases h

/-- An escaped text compiles if the limit leaves some room for each byte. -/
theorem exists_of_escape (hkey : key ≠ []) (h : 32 * Utf8.width key + 208 ≤ limit) :
    ∃ p, compile false limit (escape key) = .ok p :=
  ⟨_, compile_of_size_le (readNode_escape_literal hkey) ((Node.size_literal key).trans_le h)⟩

end Pattern

namespace LineMatcher

variable {r : Rule} {container key : String} {limit : Nat}

theorem toList_ne_nil {s : String} (h : s ≠ "") : s.toList ≠ [] := by
  rwa [ne_eq, String.toList_eq_nil_iff]

/-- A rule without a template fails to compile only if the limit is too small. -/
theorem error_of_compile_literal {e : Failure} (hr : r.pattern = none)
    (h : compile r container key limit = .error e) : e = .pattern (.tooBig limit) := by
  rw [compile, hr] at h
  dsimp only at h
  split at h
  · rename_i cause hcause
    rw [← Except.error.inj h, Pattern.error_of_escape hcause]
  · split at h
    · cases h
    · split at h
      · rename_i cause hcause
        rw [← Except.error.inj h, Pattern.error_of_escape hcause]
      · cases h

/-- A rule without a template that minds case compiles if the limit leaves some room for each byte
of the key and of the container. -/
theorem exists_compile_of_room (hr : r.pattern = none) (hcase : r.caseSensitive = true)
    (hkey : key ≠ "") (hlimit : 32 * Utf8.width key.toList + 208 ≤ limit)
    (hlimit' : 32 * Utf8.width container.toList + 208 ≤ limit) :
    ∃ m, compile r container key limit = .ok m := by
  obtain ⟨k, hk⟩ := Pattern.exists_of_escape (toList_ne_nil hkey) hlimit
  by_cases hempty : container = ""
  · refine ⟨_, (compile_literal_iff hr).2 ⟨k, ?_, Or.inl ⟨hempty, rfl⟩⟩⟩
    rwa [hcase]
  · obtain ⟨c, hc⟩ := Pattern.exists_of_escape (toList_ne_nil hempty) hlimit'
    refine ⟨_, (compile_literal_iff hr).2 ⟨k, ?_, Or.inr ⟨hempty, c, ?_, rfl⟩⟩⟩
    · rwa [hcase]
    · rwa [hcase]

/-- **What a rule without a template makes of a line.** It compiles unless the key or the container
is too large for the limit, which it is not when case is minded and there are 32 bytes for each one
of theirs. Once compiled, it matches a line just if some occurrence of the key starts before the
comment; it cuts the line into three segments, the middle one being, among these occurrences, the
one nearest to an occurrence of the container: the leftmost of several, and the leftmost of all if
the container is empty or does not occur. -/
theorem literal_of_compile (hr : r.pattern = none) (hkey : key ≠ "") :
    (∀ e, compile r container key limit = .error e → e = .pattern (.tooBig limit)) ∧
    (r.caseSensitive = true → 32 * Utf8.width key.toList + 208 ≤ limit →
      32 * Utf8.width container.toList + 208 ≤ limit →
        ∃ m, compile r container key limit = .ok m) ∧
    ∀ m, compile r container key limit = .ok m → ∀ line : String, ∃ keys containers,
      r.Occurs key line keys ∧
      (container = "" → containers = []) ∧
      (container ≠ "" → r.Occurs container line containers) ∧
      ((m.apply line).isSome = true ↔ ∃ s ∈ keys, s.BeforeComment r.commentToken line.toList) ∧
      ∀ segments, m.apply line = some segments →
        ∃ s, Span.Nearest line.toList
            {s | s ∈ keys ∧ s.BeforeComment r.commentToken line.toList} containers s ∧
          segments = [String.ofList (line.toList.take s.start),
            String.ofList ((line.toList.drop s.start).take key.toList.length),
            String.ofList (line.toList.drop s.stop)] := by
  have hkey' := toList_ne_nil hkey
  refine ⟨fun e he => error_of_compile_literal hr he,
    fun hcase hlimit hlimit' => exists_compile_of_room hr hcase hkey hlimit hlimit',
    fun m hm line => ?_⟩
  obtain ⟨k, other, rfl, hk, hnone, hsome⟩ := exists_of_compile_literal hr hm
  obtain ⟨node, -, hnode⟩ := Pattern.exists_of_compile hk
  have hkeys := Pattern.leftmost_findAll hkey' hk line.toList
  have hsorted := hkeys.pairwise (List.length_pos_of_ne_nil hkey')
  have hwithin := fun s (hs : s ∈ k.findAll line.toList) => Pattern.within_of_findAll hnode hs
  have hothers : ∀ o ∈ other.elim [] (fun c => c.findAll line.toList),
      o.Within line.toList.length := by
    intro o ho
    by_cases hempty : container = ""
    · rw [hnone hempty] at ho
      cases ho
    · obtain ⟨c, rfl, hc⟩ := hsome hempty
      obtain ⟨node', -, hnode'⟩ := Pattern.exists_of_compile hc
      exact Pattern.within_of_findAll hnode' ho
  obtain ⟨hfound, hsegments⟩ : _ ∧ ∀ segments,
      (LineMatcher.mk (.literal k other) r.commentToken).applyLiteral k other line.toList =
        some segments → _ := applyLiteral_spec hsorted hwithin hothers
  refine ⟨k.findAll line.toList, other.elim [] fun c => c.findAll line.toList, hkeys,
    fun hempty => by rw [hnone hempty]; rfl, fun hempty => ?_, hfound, fun segments h => ?_⟩
  · obtain ⟨c, rfl, hc⟩ := hsome hempty
    exact Pattern.leftmost_findAll (toList_ne_nil hempty) hc line.toList
  · obtain ⟨s, hs, rfl⟩ := hsegments segments h
    refine ⟨s, hs, ?_⟩
    have hstop := (hkeys.of_mem hs.mem.1).2.2
    simp [Segments.cut, Segments.cutFrom, Segments.slice, hstop]

/-- A rule for keys as plain text, with case minded and comments. -/
def plainRule : Rule := ⟨[".t"], true, none, some "//"⟩

theorem apply_plainRule :
    ((compile plainRule "R" "K" defaultLimit).toOption.bind fun m =>
      m.apply "K as R.K // K") = some ["K as R.", "K", " // K"] := by
  decide +kernel

theorem literal_of_plainRule : ∃ m keys containers s,
    compile plainRule "R" "K" defaultLimit = .ok m ∧
    m.apply "K as R.K // K" = some ["K as R.", "K", " // K"] ∧
    plainRule.Occurs "K" "K as R.K // K" keys ∧ plainRule.Occurs "R" "K as R.K // K" containers ∧
    Span.Nearest "K as R.K // K".toList
      {s | s ∈ keys ∧ s.BeforeComment (some "//") "K as R.K // K".toList} containers s := by
  obtain ⟨-, hok, hline⟩ := @literal_of_compile plainRule "R" "K" defaultLimit rfl (by decide)
  obtain ⟨m, hm⟩ := hok rfl (by decide) (by decide)
  have heval := apply_plainRule
  rw [hm] at heval
  obtain ⟨keys, containers, hkeys, -, hcontainers, -, hsegments⟩ := hline m hm "K as R.K // K"
  obtain ⟨s, hs, -⟩ := hsegments _ heval
  exact ⟨m, keys, containers, s, hm, heval, hkeys, hcontainers (by decide), hs⟩

/-- A key that is too large for a pattern is not found in any line. -/
theorem matchOnce_of_large (hr : r.pattern = none) (hcase : r.caseSensitive = true)
    (h : defaultLimit < 32 * Utf8.width key.toList + 208) (line : String) :
    (r.matchOnce container key line).1 = none := by
  have hlong : Openings.lengthLimit < Utf8.width key.toList := by
    have hlimit : 1024 * 1024 ≤ defaultLimit := Nat.le_refl _
    have hlength : Openings.lengthLimit ≤ 100 := Nat.le_refl _
    omega
  have hkey : key.toList ≠ [] := by
    intro hnil
    rw [hnil] at hlong
    cases hlong
  have hsize : defaultLimit < (Node.literal key.toList).size := by
    rwa [Node.size_literal]
  have hpattern : Pattern.compile (!r.caseSensitive) defaultLimit (Pattern.escape key.toList) =
      .error (.tooBig defaultLimit) := by
    rw [hcase]
    exact Pattern.compile_of_lt_size (Pattern.readNode_escape_literal hkey) hsize
      (Node.isSpelledOut_literal hlong)
  have hcompile : compile r container key defaultLimit =
      .error (.pattern (.tooBig defaultLimit)) := by
    rw [compile, hr]
    dsimp only
    rw [hpattern]
  rw [Rule.matchOnce, hcompile]

/-- A key of the letter `a` only. -/
def longKey (n : Nat) : String := String.ofList (List.replicate n 'a')

theorem width_longKey (n : Nat) : Utf8.width (longKey n).toList = n := by
  rw [longKey, String.toList_ofList]
  induction n with
  | zero => rfl
  | succ n ih =>
    rw [List.replicate_succ, Utf8.width_cons, ih, Nat.add_comm]
    rfl

theorem matchOnce_longKey {n : Nat} (h : defaultLimit < 32 * n + 208) :
    (Rule.matchOnce ⟨[".t"], true, none, none⟩ "" (longKey n) (longKey n)).1 = none ∧
      Stands false (longKey n).toList (longKey n).toList 0 := by
  refine ⟨matchOnce_of_large rfl rfl ?_ _, stands_false_iff.2 List.prefix_rfl⟩
  rwa [width_longKey]

theorem apply_overlapping :
    ((compile ⟨[".t"], true, none, none⟩ "aba" "x" defaultLimit).toOption.bind fun m =>
      m.apply "x..ababa.x") = some ["", "x", "..ababa.x"] := by
  decide +kernel

/-- Not every key that stands in a line is found: it may be too large. And not every occurrence of
the container counts: of the two that overlap, the second one is not found, although the second key
is nearer to it than the first key is to either. -/
theorem plain_not_found :
    ((Rule.matchOnce ⟨[".t"], true, none, none⟩ "" (longKey 50000) (longKey 50000)).1 = none ∧
      Stands false (longKey 50000).toList (longKey 50000).toList 0) ∧
    ∃ m, compile ⟨[".t"], true, none, none⟩ "aba" "x" defaultLimit = .ok m ∧
      m.apply "x..ababa.x" = some ["", "x", "..ababa.x"] ∧
      Stands false "aba".toList "x..ababa.x".toList 5 ∧
      Stands false "x".toList "x..ababa.x".toList 9 ∧
      Span.distance "x..ababa.x".toList ⟨5, 8⟩ ⟨9, 10⟩ = 1 ∧
      ∀ i, Stands false "aba".toList "x..ababa.x".toList i →
        2 ≤ Span.distance "x..ababa.x".toList ⟨i, i + 3⟩ ⟨0, 1⟩ := by
  constructor
  · exact matchOnce_longKey (by decide)
  · have heval := apply_overlapping
    cases hm : compile ⟨[".t"], true, none, none⟩ "aba" "x" defaultLimit with
    | error e =>
      rw [hm] at heval
      cases heval
    | ok m =>
      rw [hm] at heval
      refine ⟨m, rfl, heval, stands_false_iff.2 (by decide), stands_false_iff.2 (by decide),
        by decide, fun i hi => ?_⟩
      rw [stands_false_iff] at hi
      have hbound : i < 10 := by
        by_contra hle
        rw [List.drop_of_length_le (Nat.not_lt.1 hle)] at hi
        cases List.eq_nil_of_prefix_nil hi
      have hall : ∀ i < 10, "aba".toList <+: "x..ababa.x".toList.drop i →
          2 ≤ Span.distance "x..ababa.x".toList ⟨i, i + 3⟩ ⟨0, 1⟩ := by
        decide
      exact hall i hbound hi

end LineMatcher

end KeyTrace
