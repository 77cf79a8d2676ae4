import KeyTrace.Proofs.Path.Below
import KeyTrace.Proofs.Text.Blank
import KeyTrace.Proofs.Text.Lossy
import KeyTrace.Report
import Mathlib.Data.List.Basic

/-!
# Reports with and without colours

Without its colour sequences, a coloured report is the plain one, but for one thing. A line is
trimmed when its matched segments have their sequences around them already, so the trimming stops
at these: blanks at an end of the line stay where the line begins or ends with a matched segment.

## Main definitions

* `Style.bare`: a text without its colour sequences.
* `Style.Carries`: a coloured text of which a given one is left, whatever follows.
* `Segments.trimContext`: a line without the blanks before its first match and behind its last one.
* `Report.textChars`: the report as text, with its lines of code in some form.

## Main results

* `Report.carries_highlight`: what is left of a highlighted line.
* `Report.bare_render`: what is left of a coloured report.
-/

namespace KeyTrace

/-! ### Texts without their colours -/

namespace Style

/-- A character of the codes of a style. -/
def isCode (c : Char) : Bool := c.isDigit || c == ';'

/-- How many characters after an escape character belong with it to a colour sequence. -/
def sequenceLength? : List Char → Option Nat
  | '[' :: rest =>
    match rest.dropWhile isCode with
    | 'm' :: after => some (rest.length - after.length + 1)
    | _ => none
  | _ => none

/-- The text without its colour sequences. The next `skip` characters belong to one. -/
def bareFrom : Nat → List Char → List Char
  | _, [] => []
  | 0, c :: rest =>
    if c = '\x1b' then
      match sequenceLength? rest with
      | some n => bareFrom n rest
      | none => c :: bareFrom 0 rest
    else c :: bareFrom 0 rest
  | n + 1, _ :: rest => bareFrom n rest

/-- A text without its colour sequences. -/
def bare (s : List Char) : List Char := bareFrom 0 s

variable {s t u v : List Char}

theorem bareFrom_append (s t : List Char) : bareFrom s.length (s ++ t) = bare t := by
  induction s with
  | nil => rfl
  | cons c rest ih => exact ih

/-- What is left of the coloured text is the other one, whatever follows. -/
def Carries (s t : List Char) : Prop := ∀ rest, bare (s ++ rest) = t ++ bare rest

namespace Carries

theorem bare (h : Carries s t) : Style.bare s = t := by
  have hs : Style.bare (s ++ []) = t ++ [] := h []
  rwa [List.append_nil, List.append_nil] at hs

theorem append (hs : Carries s t) (hu : Carries u v) : Carries (s ++ u) (t ++ v) := by
  intro rest
  rw [List.append_assoc, hs, hu, List.append_assoc]

theorem flatMap {α : Type} {l : List α} {f g : α → List Char} (h : ∀ a ∈ l, Carries (f a) (g a)) :
    Carries (l.flatMap f) (l.flatMap g) := by
  induction l with
  | nil => exact fun rest => rfl
  | cons a l ih =>
    exact (h a List.mem_cons_self).append (ih fun b hb => h b (List.mem_cons_of_mem a hb))

/-- A text without escape characters has no colour sequences. -/
theorem of_notMem (h : '\x1b' ∉ s) : Carries s s := by
  intro rest
  induction s with
  | nil => rfl
  | cons c s ih =>
    have hc : c ≠ '\x1b' := fun heq => h (heq ▸ List.mem_cons_self)
    have htail := ih fun hmem => h (List.mem_cons_of_mem c hmem)
    rw [Style.bare] at htail ⊢
    rw [List.cons_append, bareFrom, if_neg hc, htail]
    rfl

/-- Nothing is left of a colour sequence. -/
theorem of_codes (h : s.all isCode = true) : Carries ('\x1b' :: '[' :: s ++ ['m']) [] := by
  intro rest
  have hdrop : (s ++ 'm' :: rest).dropWhile isCode = 'm' :: rest := by
    rw [List.dropWhile_append_of_pos (List.all_eq_true.1 h)]
    exact List.dropWhile_cons_of_neg (by decide)
  have hlength : sequenceLength? ('[' :: (s ++ 'm' :: rest)) = some ('[' :: s ++ ['m']).length := by
    simp only [sequenceLength?, hdrop, List.length_append, List.length_cons, List.length_nil]
    exact congrArg some (by omega)
  have hflat : '\x1b' :: '[' :: s ++ ['m'] ++ rest = '\x1b' :: '[' :: (s ++ 'm' :: rest) := by simp
  rw [hflat, Style.bare, bareFrom, if_pos rfl, hlength]
  have hskip := bareFrom_append ('[' :: s ++ ['m']) rest
  rw [List.append_assoc] at hskip
  exact hskip

theorem start (style : Style) : Carries style.start [] :=
  of_codes (by cases style <;> decide)

theorem reset : Carries reset [] := of_codes (s := ['0']) (by decide)

end Carries

/-- A text without escape characters is not switched on again anywhere. -/
theorem restart_eq (on : List Char) (h : '\x1b' ∉ s) : restart on 0 s = s := by
  induction s with
  | nil => rfl
  | cons c rest ih =>
    have hc : '\x1b' ≠ c := fun heq => h (heq ▸ List.mem_cons_self)
    have hprefix : reset.isPrefixOf (c :: rest) = false := by
      rw [reset, List.isPrefixOf, beq_false_of_ne hc, Bool.false_and]
    rw [restart, hprefix, if_neg Bool.false_ne_true,
      ih fun hmem => h (List.mem_cons_of_mem c hmem)]

theorem paint_true (style : Style) {text : String} (h : '\x1b' ∉ text.toList) :
    (style.paint true text).toList = style.start ++ text.toList ++ reset := by
  rw [paint, if_pos rfl, String.toList_ofList, restart_eq _ h]

@[simp] theorem paint_false (style : Style) (text : String) : style.paint false text = text := rfl

theorem Carries.paint (style : Style) {text : String} (h : '\x1b' ∉ text.toList) :
    Carries (style.paint true text).toList text.toList := by
  rw [paint_true style h]
  simpa using ((start style).append (of_notMem h)).append Carries.reset

end Style

/-! ### Highlighted lines -/

namespace Segments

/-- What stands from a match on, without the blanks behind the last match. -/
def trimBehind : Segments → List Char
  | [] => []
  | [matched] => matched.toList
  | [matched, context] => matched.toList ++ Blank.trimEnd context.toList
  | matched :: context :: rest => matched.toList ++ context.toList ++ trimBehind rest

/-- A line without the blanks before its first match and behind its last one. -/
def trimContext : Segments → List Char
  | [] => []
  | [context] => Blank.trim context.toList
  | context :: rest => Blank.trimStart context.toList ++ trimBehind rest

/-- Segments without escape characters. -/
def Unescaped (s : Segments) : Prop := ∀ t ∈ s, '\x1b' ∉ t.toList

@[simp] theorem line_nil : line [] = "" := rfl

@[simp] theorem toList_line_cons (t : String) (s : Segments) :
    (line (t :: s)).toList = t.toList ++ (line s).toList := by
  rw [line, String.join_cons, String.toList_append, line]

theorem trim_append_trimBehind (front : List Char) (s : Segments) :
    Blank.trim (front ++ trimBehind s) = Blank.trim (front ++ s.line.toList) := by
  induction s using trimBehind.induct generalizing front with
  | case1 => rfl
  | case2 matched => simp [trimBehind]
  | case3 matched context =>
    have h := Blank.trim_append_trimEnd (front ++ matched.toList) context.toList
    simpa [trimBehind] using h
  | case4 matched context rest hrest ih =>
    have h := ih (front ++ (matched.toList ++ context.toList))
    rw [trimBehind, toList_line_cons, toList_line_cons]
    · simpa using h
    · exact hrest

/-- The blanks that are taken off are at the ends of the line. -/
theorem trim_trimContext (s : Segments) : Blank.trim s.trimContext = Blank.trim s.line.toList := by
  match s with
  | [] => rfl
  | [context] => simp [trimContext]
  | context :: matched :: rest =>
    rw [trimContext, Blank.trim_trimStart_append, trim_append_trimBehind,
      toList_line_cons context]
    exact List.cons_ne_nil _ _

end Segments

namespace Report

open Style

/-- What is shown of the segments from position `n` on, with the matched ones set off. -/
def painted (color : Bool) (n : Nat) (s : Segments) : List Char :=
  (String.join ((s.zipIdx n).map fun (t, i) =>
    if i % 2 = 1 then boldRed.paint color t else t)).toList

theorem toList_highlight (color : Bool) (s : Segments) :
    (highlight color s).toList = Blank.trim (painted color 0 s) := String.toList_ofList

theorem painted_cons (color : Bool) (n : Nat) (t : String) (s : Segments) :
    painted color n (t :: s) =
      (if n % 2 = 1 then boldRed.paint color t else t).toList ++ painted color (n + 1) s := by
  rw [painted, List.zipIdx_cons, List.map_cons, String.join_cons, String.toList_append, painted]

theorem painted_false (n : Nat) (s : Segments) : painted false n s = s.line.toList := by
  induction s generalizing n with
  | nil => rfl
  | cons t s ih => rw [painted_cons, ih, paint_false, ite_self, Segments.toList_line_cons]

/-- A plain line is the line without blanks at its ends. -/
theorem toList_highlight_false (s : Segments) :
    (highlight false s).toList = Blank.trim s.line.toList := by
  rw [toList_highlight, painted_false]

/-- A matched segment begins with an escape character, whatever is in it. -/
theorem exists_painted_odd {n : Nat} (hn : n % 2 = 1) (t : String) (s : Segments) :
    ∃ rest, painted true n (t :: s) = '\x1b' :: rest := by
  rw [painted_cons, if_pos hn, paint, if_pos rfl, String.toList_ofList]
  exact ⟨_, rfl⟩

theorem painted_odd {n : Nat} (hn : n % 2 = 1) {t : String} (ht : '\x1b' ∉ t.toList)
    (s : Segments) :
    painted true n (t :: s) = boldRed.start ++ t.toList ++ reset ++ painted true (n + 1) s := by
  rw [painted_cons, if_pos hn, paint_true _ ht]

theorem painted_even {n : Nat} (hn : n % 2 = 0) (t : String) (s : Segments) :
    painted true n (t :: s) = t.toList ++ painted true (n + 1) s := by
  rw [painted_cons, if_neg (by omega)]

theorem trimEnd_painted_odd {n : Nat} (hn : n % 2 = 1) {t : String} (ht : '\x1b' ∉ t.toList)
    (s : Segments) :
    Blank.trimEnd (painted true n (t :: s)) =
      boldRed.start ++ t.toList ++ reset ++ Blank.trimEnd (painted true (n + 1) s) := by
  have hlast := Blank.trimEnd_append (boldRed.start ++ t.toList ++ ['\x1b', '[', '0'])
    (show Blank.isBlank 'm' = false by decide) (painted true (n + 1) s)
  rw [painted_odd hn ht, reset]
  simpa using hlast

/-- Trailing blanks of a highlighted line are only taken off behind the last match. -/
theorem carries_trimEnd_painted {s : Segments} (h : s.Unescaped) {n : Nat} (hn : n % 2 = 1) :
    Carries (Blank.trimEnd (painted true n s)) s.trimBehind := by
  have hmatched : ∀ t ∈ s, Carries (boldRed.start ++ t.toList ++ reset) t.toList := fun t ht =>
    paint_true boldRed (h t ht) ▸ Carries.paint boldRed (h t ht)
  induction s using Segments.trimBehind.induct generalizing n with
  | case1 => exact fun rest => rfl
  | case2 matched =>
    have hend : Blank.trimEnd (painted true (n + 1) []) = [] := rfl
    rw [trimEnd_painted_odd hn (h _ (by simp)), hend, List.append_nil]
    exact hmatched _ (by simp)
  | case3 matched context =>
    have hend : painted true (n + 1) [context] = context.toList := by
      rw [painted_even (by omega)]
      exact List.append_nil _
    rw [trimEnd_painted_odd hn (h _ (by simp)), hend]
    refine (hmatched _ (by simp)).append (Carries.of_notMem fun hmem => ?_)
    exact h context (by simp) ((Blank.trimEnd_sublist _).subset hmem)
  | case4 matched context rest hrest ih =>
    obtain ⟨next, after, rfl⟩ := List.exists_cons_of_ne_nil hrest
    have hrestN : (n + 2) % 2 = 1 := by omega
    obtain ⟨tail, htail⟩ := exists_painted_odd hrestN next after
    have hend : Blank.trimEnd (painted true (n + 1) (context :: next :: after)) =
        context.toList ++ Blank.trimEnd (painted true (n + 2) (next :: after)) := by
      have hescape : Blank.isBlank '\x1b' = false := by decide
      rw [painted_even (by omega), htail, Blank.trimEnd_append _ hescape]
      exact congrArg _ (Blank.trimEnd_append [] hescape tail).symm
    rw [trimEnd_painted_odd hn (h _ (by simp)), hend, ← List.append_assoc, Segments.trimBehind]
    · exact ((hmatched _ (by simp)).append (Carries.of_notMem (h _ (by simp)))).append
        (ih (fun t ht => h t (by simp [ht])) hrestN fun t ht => hmatched t (by simp [ht]))
    · exact hrest

/-- **What is left of a highlighted line:** the line without the blanks before its first match and
behind its last one. -/
theorem carries_highlight {s : Segments} (h : s.Unescaped) :
    Carries (highlight true s).toList s.trimContext := by
  rw [toList_highlight]
  match s with
  | [] => exact fun rest => rfl
  | [context] =>
    have hline : painted true 0 [context] = context.toList := by
      rw [painted_even rfl]
      exact List.append_nil _
    rw [hline, Segments.trimContext]
    exact Carries.of_notMem fun hmem => h context (by simp) ((Blank.trim_sublist _).subset hmem)
  | context :: matched :: rest =>
    obtain ⟨tail, htail⟩ := exists_painted_odd (n := 1) rfl matched rest
    have hescape : Blank.isBlank '\x1b' = false := by decide
    have hend : Blank.trim (painted true 0 (context :: matched :: rest)) =
        Blank.trimStart context.toList ++ Blank.trimEnd (painted true 1 (matched :: rest)) := by
      rw [painted_even rfl, htail, Blank.trim_append _ hescape]
      exact congrArg _ (Blank.trimEnd_append [] hescape tail).symm
    rw [hend, Segments.trimContext]
    · refine Carries.append (Carries.of_notMem fun hmem => ?_)
        (carries_trimEnd_painted (fun t ht => h t (by simp [ht])) rfl)
      exact h context (by simp) ((Blank.trimStart_sublist _).subset hmem)
    · exact List.cons_ne_nil _ _

/-! ### The report -/

section Lines

variable (line : Segments → List Char) (root : Path)

/-- The line of one reference, with its code in some form. -/
def referenceChars (r : Reference) : List Char :=
  ("  " ++ fileName root r ++ ":" ++ toString r.lineNumber ++ ": ").toList ++ line r.segments ++
    "\n".toList

/-- The lines of one entry, with the code in some form. -/
def recordChars (r : Record) : List Char :=
  let name := (r.entry.container ++ "." ++ r.entry.key).toList
  if !r.scanned then name ++ " ".toList ++ "(not scanned)".toList ++ "\n".toList
  else if r.references.isEmpty then name ++ " ".toList ++ "unused".toList ++ "\n".toList
  else
    let count := "(" ++ toString r.references.length ++ " references)"
    name ++ " ".toList ++ count.toList ++ "\n".toList ++
      r.references.flatMap (referenceChars line root)

/-- The report as text, with the lines of code in some form. -/
def textChars (records : List Record) (total unused : Nat) : List Char :=
  records.flatMap (recordChars line root) ++ "\n".toList ++ (toString total).toList ++
    " entries, ".toList ++ (toString unused).toList ++ " unused\n".toList

end Lines

variable {root : Path}

/-- The plain report trims the lines. -/
theorem toList_text_false (root : Path) (records : List Record) (total unused : Nat) :
    (text false root records total unused).toList =
      textChars (fun s => Blank.trim s.line.toList) root records total unused := by
  have hreference : ∀ r, (referenceLine false root r).toList =
      referenceChars (fun s => Blank.trim s.line.toList) root r := by
    intro r
    simp only [referenceLine, referenceChars, paint_false, String.toList_append,
      toList_highlight_false]
  have hrecord : ∀ r, (recordLines false root r).toList =
      recordChars (fun s => Blank.trim s.line.toList) root r := by
    intro r
    rw [recordLines, recordChars]
    split
    · simp
    · split
      · simp
      · simp [List.flatMap_map, hreference]
  simp only [text, textChars, paint_false, String.toList_append, String.toList_join,
    List.flatMap_map, hrecord]

end Report

/-- A reference without escape characters in its path and its texts. -/
structure Reference.Unescaped (r : Reference) : Prop where
  path : 0x1b ∉ r.file.path
  segments : r.segments.Unescaped

/-- An entry without escape characters in what is shown of it. -/
structure Record.Unescaped (r : Record) : Prop where
  container : '\x1b' ∉ r.entry.container.toList
  key : '\x1b' ∉ r.entry.key.toList
  references : ∀ u ∈ r.references, u.Unescaped

namespace Report

open Style

variable {root : Path}

theorem notMem_fileName {r : Reference} (h : r.Unescaped) :
    '\x1b' ∉ (fileName root r).toList := by
  have hrelative : 0x1b ∉ relative root r := by
    rw [relative]
    cases hstrip : Path.strip? r.file.path root with
    | none => exact h.path
    | some rest => exact fun hmem => h.path (Path.subset_of_strip? hstrip hmem)
  intro hmem
  rw [fileName, Path.display, Utf8.lossy, String.toList_ofList] at hmem
  exact hrelative (Utf8.subset_of_mem_decodeLossy hmem (by decide) (by decide))

theorem notMem_toString (n : Nat) : '\x1b' ∉ (toString n).toList := by
  intro hmem
  have hdigit := Nat.isDigit_of_mem_toDigits (b := 10) (by omega) (by omega)
    (show '\x1b' ∈ Nat.toDigits 10 n by simpa using hmem)
  exact absurd hdigit (by decide)

theorem carries_referenceLine {r : Reference} (h : r.Unescaped) :
    Carries (referenceLine true root r).toList (referenceChars Segments.trimContext root r) := by
  have hfile : Carries (cyan.paint true (fileName root r)).toList (fileName root r).toList :=
    .paint cyan (notMem_fileName h)
  have hnumber := Carries.paint green (notMem_toString r.lineNumber)
  have hmargin : Carries "  ".toList "  ".toList := .of_notMem (by decide)
  have hcolon : Carries ":".toList ":".toList := .of_notMem (by decide)
  have hgap : Carries ": ".toList ": ".toList := .of_notMem (by decide)
  have hend : Carries "\n".toList "\n".toList := .of_notMem (by decide)
  simp only [referenceLine, referenceChars, String.toList_append]
  exact (((((hmargin.append hfile).append hcolon).append hnumber).append hgap).append
    (carries_highlight h.segments)).append hend

theorem carries_recordLines {r : Record} (h : r.Unescaped) :
    Carries (recordLines true root r).toList (recordChars Segments.trimContext root r) := by
  have hname : Carries (bold.paint true (r.entry.container ++ "." ++ r.entry.key)).toList
      (r.entry.container ++ "." ++ r.entry.key).toList := by
    refine .paint bold ?_
    have hdot : '\x1b' ∉ ".".toList := by decide
    simp only [String.toList_append, List.mem_append, h.container, h.key, hdot, or_self,
      not_false_iff]
  have hblank : Carries " ".toList " ".toList := .of_notMem (by decide)
  have hend : Carries "\n".toList "\n".toList := .of_notMem (by decide)
  rw [recordLines, recordChars]
  split
  · have hstate : Carries (dimmed.paint true "(not scanned)").toList "(not scanned)".toList :=
      .paint dimmed (by decide)
    simpa only [String.toList_append] using ((hname.append hblank).append hstate).append hend
  · split
    · have hstate : Carries (yellow.paint true "unused").toList "unused".toList :=
        .paint yellow (by decide)
      simpa only [String.toList_append] using ((hname.append hblank).append hstate).append hend
    · have hcount : Carries
          (dimmed.paint true ("(" ++ toString r.references.length ++ " references)")).toList
          ("(" ++ toString r.references.length ++ " references)").toList := by
        refine .paint dimmed ?_
        have hopen : '\x1b' ∉ "(".toList := by decide
        have hclose : '\x1b' ∉ " references)".toList := by decide
        simp only [String.toList_append, List.mem_append, hopen, hclose, notMem_toString,
          or_self, not_false_iff]
      have hlines : Carries ((r.references.map (referenceLine true root)).flatMap String.toList)
          (r.references.flatMap (referenceChars Segments.trimContext root)) := by
        rw [List.flatMap_map]
        exact Carries.flatMap fun u hu => carries_referenceLine (h.references u hu)
      simpa only [String.toList_append, String.toList_join] using
        (((hname.append hblank).append hcount).append hend).append hlines

/-- **What is left of a coloured report:** the report with the blanks taken off that stand before
the first match of a line and behind its last one. -/
theorem carries_text {records : List Record} (h : ∀ r ∈ records, r.Unescaped)
    (total unused : Nat) :
    Carries (text true root records total unused).toList
      (textChars Segments.trimContext root records total unused) := by
  have hrecords : Carries ((records.map (recordLines true root)).flatMap String.toList)
      (records.flatMap (recordChars Segments.trimContext root)) := by
    rw [List.flatMap_map]
    exact Carries.flatMap fun r hr => carries_recordLines (h r hr)
  have hcount := Carries.paint (if unused = 0 then green else yellow) (notMem_toString unused)
  have htotal := Carries.of_notMem (notMem_toString total)
  have hline : Carries "\n".toList "\n".toList := .of_notMem (by decide)
  have hentries : Carries " entries, ".toList " entries, ".toList := .of_notMem (by decide)
  have hend : Carries " unused\n".toList " unused\n".toList := .of_notMem (by decide)
  simpa only [text, textChars, String.toList_append, String.toList_join] using
    ((((hrecords.append hline).append htotal).append hentries).append hcount).append hend

/-! ### Where the two reports differ -/

/-- Where pieces are cut out of the parts of a text, it stays the same only if each part does. -/
theorem forall_eq_of_flatMap_eq {α β : Type} {l : List α} {f g : α → List β}
    (h : ∀ a ∈ l, (f a).Sublist (g a)) (heq : l.flatMap f = l.flatMap g) :
    ∀ a ∈ l, f a = g a := by
  induction l with
  | nil => exact fun a ha => absurd ha List.not_mem_nil
  | cons a l ih =>
    have hrest : ∀ b ∈ l, (f b).Sublist (g b) := fun b hb => h b (List.mem_cons_of_mem a hb)
    have hlength : (l.flatMap f).length ≤ (l.flatMap g).length := by
      rw [List.length_flatMap, List.length_flatMap]
      exact List.sum_le_sum fun b hb => (hrest b hb).length_le
    have htotal := congrArg List.length heq
    simp only [List.flatMap_cons, List.length_append] at htotal
    have hhead := (h a List.mem_cons_self).length_le
    have hfirst : f a = g a := (h a List.mem_cons_self).eq_of_length (by omega)
    rw [List.flatMap_cons, List.flatMap_cons, hfirst] at heq
    exact List.forall_mem_cons.2 ⟨hfirst, ih hrest (List.append_cancel_left heq)⟩

section Layout

variable {f g : Segments → List Char}

theorem flatMap_sublist {α β : Type} {l : List α} {f g : α → List β}
    (h : ∀ a ∈ l, (f a).Sublist (g a)) : (l.flatMap f).Sublist (l.flatMap g) := by
  induction l with
  | nil => exact List.Sublist.refl _
  | cons a l ih =>
    exact (h a List.mem_cons_self).append (ih fun b hb => h b (List.mem_cons_of_mem a hb))

theorem referenceChars_sublist (h : ∀ s, (f s).Sublist (g s)) (r : Reference) :
    (referenceChars f root r).Sublist (referenceChars g root r) :=
  ((List.Sublist.refl _).append (h r.segments)).append (List.Sublist.refl _)

theorem referenceChars_inj {r : Reference}
    (h : referenceChars f root r = referenceChars g root r) : f r.segments = g r.segments :=
  List.append_cancel_left (List.append_cancel_right h)

theorem recordChars_sublist (h : ∀ s, (f s).Sublist (g s)) (r : Record) :
    (recordChars f root r).Sublist (recordChars g root r) := by
  rw [recordChars, recordChars]
  split
  · exact List.Sublist.refl _
  · split
    · exact List.Sublist.refl _
    · exact (List.Sublist.refl _).append (flatMap_sublist fun u _ => referenceChars_sublist h u)

/-- The references of an entry that are listed. -/
theorem recordChars_inj (h : ∀ s, (f s).Sublist (g s)) {r : Record} (hr : r.scanned = true)
    (heq : recordChars f root r = recordChars g root r) :
    ∀ u ∈ r.references, f u.segments = g u.segments := by
  intro u hu
  have hne : r.references.isEmpty = false := List.isEmpty_eq_false_iff.2 (List.ne_nil_of_mem hu)
  simp only [recordChars, hr, hne, Bool.not_true, Bool.false_eq_true, if_false] at heq
  exact referenceChars_inj (forall_eq_of_flatMap_eq (fun v _ => referenceChars_sublist h v)
    (List.append_cancel_left heq) u hu)

/-- Two reports of which the lines of one are cut out of those of the other are the same only if
each line of a reference is. -/
theorem textChars_eq_iff (h : ∀ s, (f s).Sublist (g s)) {records : List Record}
    (hscanned : ∀ r ∈ records, r.references ≠ [] → r.scanned = true) (total unused : Nat) :
    textChars f root records total unused = textChars g root records total unused ↔
      ∀ r ∈ records, ∀ u ∈ r.references, f u.segments = g u.segments := by
  constructor
  · intro heq r hr u hu
    have hrecords : records.flatMap (recordChars f root) = records.flatMap (recordChars g root) :=
      by simpa only [textChars, List.append_cancel_right_eq] using heq
    have hrecord := forall_eq_of_flatMap_eq (fun v _ => recordChars_sublist h v) hrecords r hr
    exact recordChars_inj h (hscanned r hr (List.ne_nil_of_mem hu)) hrecord u hu
  · intro heq
    have hrecords : records.flatMap (recordChars f root) = records.flatMap (recordChars g root) := by
      refine List.flatMap_congr fun r hr => ?_
      have hlines : r.references.flatMap (referenceChars f root) =
          r.references.flatMap (referenceChars g root) :=
        List.flatMap_congr fun u hu => by rw [referenceChars, heq r hr u hu, referenceChars]
      rw [recordChars, recordChars, hlines]
    rw [textChars, hrecords, textChars]

end Layout

theorem scanned_of_references (e : Entry × Slot) (h : (Record.ofEntry e).references ≠ []) :
    (Record.ofEntry e).scanned = true := by
  rw [Record.ofEntry, Slot.isScanned]
  cases hslot : e.2.references with
  | none => exact absurd (show (e.2.references).getD [] = [] by rw [hslot]; rfl) h
  | some _ => rfl

/-- **Colours change nothing but blanks at a match.** What is left of a highlighted line are its
segments, without the blanks before the first match and behind the last one; a plain line is the
same text without any blanks at its ends. So a coloured report becomes the plain one without its
colours exactly if no line of it begins or ends with a match that has blanks there. A report on
unused entries has no such lines. -/
theorem bare_render {entries : List (Entry × Slot)}
    (h : ∀ e ∈ entries, (Record.ofEntry e).Unescaped) (unusedOnly : Bool) (root : Path) :
    (∀ s : Segments, s.Unescaped → bare (highlight true s).toList = s.trimContext ∧
      (highlight false s).toList = Blank.trim (bare (highlight true s).toList)) ∧
    (bare (render .text unusedOnly true root entries).toList =
        (render .text unusedOnly false root entries).toList ↔
      unusedOnly = true ∨ ∀ e ∈ entries, ∀ r ∈ (Record.ofEntry e).references,
        Blank.trim r.segments.trimContext = r.segments.trimContext) := by
  have hlines : ∀ s : Segments, s.Unescaped → bare (highlight true s).toList = s.trimContext ∧
      (highlight false s).toList = Blank.trim (bare (highlight true s).toList) := by
    intro s hs
    have hbare := (carries_highlight hs).bare
    exact ⟨hbare, by rw [hbare, Segments.trim_trimContext, toList_highlight_false]⟩
  refine ⟨hlines, ?_⟩
  have hplain : ∀ s : Segments, (Blank.trim s.line.toList).Sublist s.trimContext :=
    fun s => s.trim_trimContext ▸ Blank.trim_sublist _
  set shown := (entries.map Record.ofEntry).filter fun r => !unusedOnly || r.isUnused with hshown
  have hofEntry : ∀ r ∈ shown, ∃ e ∈ entries, Record.ofEntry e = r :=
    fun r hr => List.mem_map.1 (List.mem_filter.1 hr).1
  have hunescaped : ∀ r ∈ shown, r.Unescaped := by
    intro r hr
    obtain ⟨e, he, rfl⟩ := hofEntry r hr
    exact h e he
  have hscanned : ∀ r ∈ shown, r.references ≠ [] → r.scanned = true := by
    intro r hr
    obtain ⟨e, -, rfl⟩ := hofEntry r hr
    exact scanned_of_references e
  simp only [render, ← hshown]
  rw [(carries_text hunescaped _ _).bare, toList_text_false, eq_comm,
    textChars_eq_iff hplain hscanned]
  constructor
  · intro heq
    cases unusedOnly with
    | true => exact Or.inl rfl
    | false =>
      refine Or.inr fun e he r hr => ?_
      have hmem : Record.ofEntry e ∈ shown := by
        rw [hshown, List.mem_filter]
        exact ⟨List.mem_map_of_mem he, rfl⟩
      rw [Segments.trim_trimContext]
      exact heq _ hmem r hr
  · rintro (rfl | hedges) r hr u hu
    · have hunused : r.references = [] := by
        have hr := (List.mem_filter.1 hr).2
        rw [Bool.not_true, Bool.false_or, Record.isUnused, Bool.and_eq_true] at hr
        exact List.isEmpty_iff.1 hr.2
      rw [hunused] at hu
      cases hu
    · obtain ⟨e, he, rfl⟩ := hofEntry r hr
      rw [← Segments.trim_trimContext]
      exact hedges e he u hu

/-- An entry with one reference, to a match that begins with a blank. -/
def paddedEntries (before : String) : List (Entry × Slot) :=
  [(⟨"R", "K"⟩, ⟨1, false, some [⟨.ofPath "/r/a.cs", 7, [before, " K", ";"]⟩]⟩)]

theorem unescaped_paddedEntries {before : String} (h : '\x1b' ∉ before.toList) :
    ∀ e ∈ paddedEntries before, (Record.ofEntry e).Unescaped := by
  intro e he
  obtain rfl := List.mem_singleton.1 he
  refine ⟨show '\x1b' ∉ "R".toList by decide, show '\x1b' ∉ "K".toList by decide, fun u hu => ?_⟩
  obtain rfl := List.mem_singleton.1 hu
  refine ⟨show 0x1b ∉ Utf8.ofText "/r/a.cs" by decide, fun t ht => ?_⟩
  obtain rfl | rfl | rfl : t = before ∨ t = " K" ∨ t = ";" := by simpa using ht
  · exact h
  · decide
  · decide

theorem bare_render_paddedEntries :
    (∀ e ∈ paddedEntries "x =", (Record.ofEntry e).Unescaped) ∧
      bare (render .text false true "/r" (paddedEntries "x =")).toList =
        (render .text false false "/r" (paddedEntries "x =")).toList := by
  have h := unescaped_paddedEntries (show '\x1b' ∉ "x =".toList by decide)
  refine ⟨h, ((bare_render h false "/r").2).2 (Or.inr fun e he r hr => ?_)⟩
  obtain rfl := List.mem_singleton.1 he
  obtain rfl := List.mem_singleton.1 hr
  decide +kernel

/-- Where the line begins with the match, its blank is only taken off without colours. -/
theorem bare_render_ne :
    (∀ e ∈ paddedEntries "", (Record.ofEntry e).Unescaped) ∧
      bare (render .text false true "/r" (paddedEntries "")).toList ≠
        (render .text false false "/r" (paddedEntries "")).toList :=
  ⟨unescaped_paddedEntries (by decide), by decide +kernel⟩

end Report

end KeyTrace
