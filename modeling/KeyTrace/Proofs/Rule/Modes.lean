import KeyTrace.Proofs.Rule.Literal
import KeyTrace.Proofs.Text.Folding

/-!
# The two ways to look for a key

A rule without a template searches the line itself and leaves out the occurrences in a comment; a
template that is nothing but the key searches the line between two spaces and looks at the comment
afterwards. For a key that neither begins nor ends with a space, both come to the same: the spaces
are in no occurrence, since only the space folds to the same as the space, and if the leftmost
occurrence lies in the comment, all of them do.

## Main results

* `LineMatcher.stands_padded_iff`: where such a key occurs between two spaces.
* `LineMatcher.applyLiteral_eq_applyTemplate`: the same pattern finds the same in both ways.
* `LineMatcher.modes_agree`: both rules compile together, and to the same outcomes.
-/

namespace KeyTrace

namespace Folding

variable {ignoreCase : Bool} {key w : List Char}

/-- A spelling begins with a space only if the text does. -/
theorem head?_of_spelling (hw : w ∈ spellings ignoreCase key) (h : w.head? = some ' ') :
    key.head? = some ' ' := by
  cases ignoreCase with
  | false =>
    obtain rfl : w = key := hw
    exact h
  | true =>
    cases mem_words.1 hw with
    | nil => cases h
    | cons hd _ =>
      obtain rfl := Option.some.inj h
      exact congrArg some (eq_space_of_mem_orbit hd)

theorem reverse_mem_spellings (hw : w ∈ spellings ignoreCase key) :
    w.reverse ∈ spellings ignoreCase key.reverse := by
  cases ignoreCase with
  | false => exact congrArg List.reverse (hw : w = key)
  | true => exact mem_words.2 (List.forall₂_reverse_iff.2 (mem_words.1 hw))

/-- A spelling ends with a space only if the text does. -/
theorem getLast?_of_spelling (hw : w ∈ spellings ignoreCase key) (h : w.getLast? = some ' ') :
    key.getLast? = some ' ' := by
  rw [← List.head?_reverse] at h ⊢
  exact head?_of_spelling (reverse_mem_spellings hw) h

end Folding

namespace LineMatcher

variable {ignoreCase : Bool} {key line : List Char} {limit : Nat} {p : Pattern}

/-- **Between two spaces** a key that neither begins nor ends with a space occurs where it does in
the line, one position later. -/
theorem stands_padded_iff (hkey : key ≠ []) (hhead : key.head? ≠ some ' ')
    (hlast : key.getLast? ≠ some ' ') {i : Nat} :
    Stands ignoreCase key (padded line) i ↔ ∃ j, i = j + 1 ∧ Stands ignoreCase key line j := by
  have hne : ∀ w ∈ Folding.spellings ignoreCase key, w ≠ [] := by
    intro w hw hnil
    have hlength := Folding.length_of_mem_spellings hw
    rw [hnil] at hlength
    exact hkey (List.length_eq_zero_iff.1 hlength.symm)
  constructor
  · rintro ⟨w, hw, hstart⟩
    cases i with
    | zero =>
      -- The spelling would begin with the space before the line.
      obtain ⟨d, ds, rfl⟩ := List.exists_cons_of_ne_nil (hne w hw)
      obtain ⟨rfl, -⟩ := List.cons_prefix_cons.1 hstart
      exact absurd (Folding.head?_of_spelling hw rfl) hhead
    | succ j =>
      refine ⟨j, rfl, w, hw, ?_⟩
      change w <+: (line ++ [' ']).drop j at hstart
      rcases Nat.lt_or_ge line.length j with hlt | hle
      · rw [List.drop_of_length_le (by simpa using hlt)] at hstart
        exact absurd (List.prefix_nil.1 hstart) (hne w hw)
      · rw [List.drop_append_of_le_length hle] at hstart
        rcases List.prefix_concat_iff.1 hstart with hwhole | hstart
        · -- The spelling would end with the space after the line.
          refine absurd (Folding.getLast?_of_spelling hw ?_) hlast
          rw [hwhole, List.getLast?_concat]
        · exact hstart
  · rintro ⟨j, rfl, w, hw, hstart⟩
    exact ⟨w, hw, hstart.trans ((List.prefix_append line [' ']).drop j)⟩

/-- A match without groups that is the span of the line one position later shows that span. -/
theorem shown_of_padded {s : Span} (hs : s.Within line.length) :
    shown line ⟨s.start + 1, s.stop + 1⟩ [] = [s] := by
  have hle := hs.start_le_stop
  have hstop := hs.stop_le
  have hstart' : min s.start line.length = s.start := by omega
  have hstop' : min s.stop line.length = s.stop := by omega
  simp [shown, outermost, toLine, hstart', hstop']

/-- If the first of some spans starts at a comment or after it, none counts; otherwise the first
that counts is that one. -/
theorem head?_filter_before {c : Nat} {first : Span} {rest : List Span}
    (hsorted : (first :: rest).Pairwise fun s t => s.start < t.start) :
    ((first :: rest).filter fun s => decide (s.start < c)).head? =
      if c ≤ first.start then none else some first := by
  by_cases hle : c ≤ first.start
  · have hlater : ∀ s ∈ first :: rest, ¬ s.start < c := by
      intro s hs
      rcases List.mem_cons.1 hs with rfl | hs
      · omega
      · have hlt := List.rel_of_pairwise_cons hsorted hs
        omega
    have hfilter : (first :: rest).filter (fun s => decide (s.start < c)) = [] := by
      simpa [List.filter_eq_nil_iff] using hlater
    rw [hfilter, if_pos hle, List.head?_nil]
  · have hcounts : decide (first.start < c) = true := decide_eq_true (Nat.not_le.1 hle)
    rw [List.filter_cons, if_pos hcounts, if_neg hle, List.head?_cons]

/-- Without a container, the first occurrence that counts is shown. -/
theorem applyLiteral_none (m : LineMatcher) (p : Pattern) (line : List Char) :
    m.applyLiteral p none line =
      ((p.findAll line).filter fun s => (m.commentStart line).all fun c => s.start < c).head?.map
        fun s => Segments.cut line [s] := by
  rw [applyLiteral_eq]
  cases (p.findAll line).filter fun s => (m.commentStart line).all fun c => s.start < c with
  | nil => rfl
  | cons first rest => rfl

/-- **The same pattern finds the same** in the line as plain text and between two spaces as a
template. -/
theorem applyLiteral_eq_applyTemplate (hkey : key ≠ []) (hhead : key.head? ≠ some ' ')
    (hlast : key.getLast? ≠ some ' ')
    (h : Pattern.compile ignoreCase limit (Pattern.escape key) = .ok p) (m : LineMatcher) :
    m.applyLiteral p none line = m.applyTemplate p line := by
  have hstands := fun i => @stands_padded_iff ignoreCase key line hkey hhead hlast i
  have hspans := Pattern.leftmost_findAll hkey h line
  have hsorted := hspans.pairwise (List.length_pos_of_ne_nil hkey)
  rw [applyLiteral_none, applyTemplate_eq]
  cases hfind : p.find? (padded line) with
  | none =>
    have hnone : p.findAll line = [] := by
      rw [hspans.eq_nil_iff]
      intro j _ hj
      exact (Pattern.find?_escape_eq_none_iff hkey h).1 hfind (j + 1) ((hstands _).2 ⟨j, rfl, hj⟩)
    rw [hnone]
    rfl
  | some found =>
    obtain ⟨⟨start, stop⟩, groups⟩ := found
    obtain ⟨hleast, hstop, rfl⟩ := Pattern.isLeast_of_find?_escape hkey h hfind
    dsimp only at hleast hstop
    obtain ⟨j, rfl, hj⟩ := (hstands start).1 hleast.1
    have hfirst : IsLeast {i | 0 ≤ i ∧ Stands ignoreCase key line i} j :=
      ⟨⟨Nat.zero_le j, hj⟩, fun i hi =>
        Nat.le_of_succ_le_succ (hleast.2 ((hstands _).2 ⟨i, rfl, hi.2⟩))⟩
    cases hall : p.findAll line with
    | nil => exact absurd hj (hspans.eq_nil_iff.1 hall j (Nat.zero_le j))
    | cons first rest =>
      obtain ⟨node, -, hnode⟩ := Pattern.exists_of_compile h
      have hwithin : first.Within line.length :=
        Pattern.within_of_findAll hnode (hall ▸ List.mem_cons_self ..)
      rw [hall] at hspans hsorted
      obtain rfl : first.start = j := hspans.isLeast_head.unique hfirst
      obtain rfl : stop = first.stop + 1 := by
        have hend := (hspans.of_mem (List.mem_cons_self ..)).2.2
        omega
      have hline : toLine line (first.start + 1) = first.start :=
        min_eq_left (hwithin.start_le_stop.trans hwithin.stop_le)
      rw [Option.bind_some, shown_of_padded hwithin, hline]
      cases m.commentStart line with
      | none => simp
      | some c =>
        simp only [Option.all_some, Option.any_some, head?_filter_before hsorted]
        by_cases hle : c ≤ first.start
        · simp [hle]
        · simp [hle]

/-- **Both ways agree.** For every key that is not empty and neither begins nor ends with a space,
every case flag, comment token and limit, a rule without a template compiles without a container
just if one whose template is the key alone does, and both have the same outcome on every line. -/
theorem modes_agree {key : String} (hkey : key ≠ "") (hhead : key.toList.head? ≠ some ' ')
    (hlast : key.toList.getLast? ≠ some ' ') (extensions extensions' : List String)
    (caseSensitive : Bool) (token : Option String) (container : String) (limit : Nat) :
    ((∃ m, compile ⟨extensions, caseSensitive, none, token⟩ "" key limit = .ok m) ↔
      ∃ m, compile ⟨extensions', caseSensitive, some "$Key", token⟩ container key limit = .ok m) ∧
    ∀ m m', compile ⟨extensions, caseSensitive, none, token⟩ "" key limit = .ok m →
      compile ⟨extensions', caseSensitive, some "$Key", token⟩ container key limit = .ok m' →
        ∀ line, m.apply line = m'.apply line := by
  have hexpand : (Template.expand "$Key" container key).toList = Pattern.escape key.toList := by
    have htemplate : "$Key".toList = ['$', 'K', 'e', 'y'] := rfl
    rw [Template.expand, String.toList_ofList, htemplate, Template.fill, Template.fill_nil,
      List.append_nil]
  have hliteral : ∀ m, compile ⟨extensions, caseSensitive, none, token⟩ "" key limit = .ok m ↔
      ∃ p, Pattern.compile (!caseSensitive) limit (Pattern.escape key.toList) = .ok p ∧
        m = ⟨.literal p none, token⟩ := by
    intro m
    rw [compile_literal_iff rfl]
    simp
  have htemplate : ∀ m,
      compile ⟨extensions', caseSensitive, some "$Key", token⟩ container key limit = .ok m ↔
        ∃ p, Pattern.compile (!caseSensitive) limit (Pattern.escape key.toList) = .ok p ∧
          m = ⟨.template p, token⟩ := by
    intro m
    rw [compile_template_iff rfl, hexpand]
  constructor
  · constructor
    · rintro ⟨m, hm⟩
      obtain ⟨p, hp, -⟩ := (hliteral m).1 hm
      exact ⟨_, (htemplate _).2 ⟨p, hp, rfl⟩⟩
    · rintro ⟨m, hm⟩
      obtain ⟨p, hp, -⟩ := (htemplate m).1 hm
      exact ⟨_, (hliteral _).2 ⟨p, hp, rfl⟩⟩
  · intro m m' hm hm' line
    obtain ⟨p, hp, rfl⟩ := (hliteral m).1 hm
    obtain ⟨p', hp', rfl⟩ := (htemplate m').1 hm'
    obtain rfl := Except.ok.inj (hp.symm.trans hp')
    exact applyLiteral_eq_applyTemplate (toList_ne_nil hkey) hhead hlast hp ⟨.literal p none, token⟩

theorem apply_plainKey :
    ((compile ⟨[".t"], true, none, some "//"⟩ "" "a.b" defaultLimit).toOption.bind fun m =>
      m.apply "aab a.b // a.b") = some ["aab ", "a.b", " // a.b"] := by
  decide +kernel

theorem modes_agree_of_plainKey : ∃ m m',
    compile ⟨[".t"], true, none, some "//"⟩ "" "a.b" defaultLimit = .ok m ∧
    compile ⟨[".cs"], true, some "$Key", some "//"⟩ "R" "a.b" defaultLimit = .ok m' ∧
    m.apply "aab a.b // a.b" = some ["aab ", "a.b", " // a.b"] ∧
    m'.apply "aab a.b // a.b" = some ["aab ", "a.b", " // a.b"] := by
  obtain ⟨hboth, hagree⟩ := @modes_agree "a.b" (by decide) (by decide) (by decide) [".t"] [".cs"]
    true (some "//") "R" defaultLimit
  have heval := apply_plainKey
  cases hm : compile ⟨[".t"], true, none, some "//"⟩ "" "a.b" defaultLimit with
  | error e =>
    rw [hm] at heval
    cases heval
  | ok m =>
    rw [hm] at heval
    obtain ⟨m', hm'⟩ := hboth.1 ⟨m, hm⟩
    exact ⟨m, m', rfl, hm', heval, (hagree m m' hm hm' _).symm.trans heval⟩

end LineMatcher

end KeyTrace
