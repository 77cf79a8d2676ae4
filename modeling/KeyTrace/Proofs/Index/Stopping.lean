import KeyTrace.Proofs.Index.Lookup
import KeyTrace.Proofs.Scan.Candidacy

/-!
# Stopping between two lines

A file is indexed line by line: each token of a line is looked up in two tables, the keys by their
probes and the keys by their probes in lower case, and the line is noted for the keys found there.
Before each line it is asked whether to stop. What is noted at any time is determined by the lines
that were handled, whatever the order and the number of the hits in a line, and so a stopped index
has the hits of its first lines.

## Main definitions

* `Candidates.keysAt`: the keys that a token points to, from the two tables.
* `FileIndex.build`: the index of a file, built line by line until it is to stop.
* `Notes`: what has been noted for each key.

## Main results

* `Notes.line`, `Notes.run`: what one line adds, and what the lines up to the stop add.
* `FileIndex.build_eq_ofLines`: building line by line yields the index over the first lines.
* `FileIndex.build_stopped`: a stopped index is a clean beginning of the full one.
-/

namespace KeyTrace

namespace Candidates

/-- The keys of some candidates by what a function makes of their probes, in order. -/
def table (f : List Char → List Char) (cs : Candidates) : List Char → List String :=
  cs.foldl (fun t c => Function.update t (f c.probe) (t (f c.probe) ++ [c.key])) fun _ => []

theorem table_eq (f : List Char → List Char) (cs : Candidates) (token : List Char) :
    table f cs token = (cs.filter fun c => f c.probe = token).map Candidate.key := by
  induction cs using List.reverseRecOn with
  | nil => rfl
  | append_singleton cs c ih =>
    have hstep : table f (cs ++ [c]) =
        Function.update (table f cs) (f c.probe) (table f cs (f c.probe) ++ [c.key]) := by
      rw [table, List.foldl_append]
      rfl
    rw [hstep, List.filter_append, List.map_append, ← ih]
    by_cases h : f c.probe = token
    · simp [← h]
    · simp [h, Function.update_of_ne (Ne.symm h)]

/-- The keys that a token points to: those that have it as their probe and then, if case is
ignored, those whose probe is the same in lower case. -/
def keysAt (cs : Candidates) (ignoreCase : Bool) (token : List Char) : List String :=
  table id cs token ++
    if ignoreCase then table Lowercase.lowerChars cs (Lowercase.lowerChars token) else []

theorem mem_keysAt {cs : Candidates} {ignoreCase : Bool} {token : List Char} {key : String} :
    key ∈ cs.keysAt ignoreCase token ↔ ∃ c ∈ cs, c.key = key ∧ c.isHit ignoreCase token = true := by
  have htable : ∀ (f : List Char → List Char) (t : List Char),
      key ∈ table f cs t ↔ ∃ c ∈ cs, c.key = key ∧ f c.probe = t := by
    intro f t
    simp only [table_eq, List.mem_map, List.mem_filter, decide_eq_true_eq]
    exact exists_congr fun c => by tauto
  cases ignoreCase with
  | false => simp [keysAt, htable, Candidate.isHit]
  | true =>
    simp only [keysAt, if_true, List.mem_append, htable, Candidate.isHit, Bool.true_and,
      Bool.or_eq_true, beq_iff_eq, id]
    exact ⟨by grind, by grind⟩

/-- The keys that the tokens of a line point to, as often as they do. -/
def keysOn (cs : Candidates) (ignoreCase : Bool) (line : String) : List String :=
  (Token.tokens line.toList).flatMap (cs.keysAt ignoreCase)

theorem mem_keysOn {cs : Candidates} {ignoreCase : Bool} {line : String} {key : String} :
    key ∈ cs.keysOn ignoreCase line ↔
      ∃ c ∈ cs, c.key = key ∧ c.isHitBy ignoreCase (Token.tokens line.toList) = true := by
  simp only [keysOn, List.mem_flatMap, mem_keysAt, Candidate.isHitBy, List.any_eq_true]
  exact ⟨by grind, by grind⟩

/-- The positions of the lines that point to a key, the first line being at the given one. -/
def positions (cs : Candidates) (ignoreCase : Bool) (key : String) (i : Nat)
    (lines : List String) : List Nat :=
  (lines.zipIdx i).filterMap fun (line, j) =>
    if key ∈ cs.keysOn ignoreCase line then some j else none

theorem positions_cons (cs : Candidates) (ignoreCase : Bool) (key : String) (i : Nat)
    (line : String) (lines : List String) :
    cs.positions ignoreCase key i (line :: lines) =
      (if key ∈ cs.keysOn ignoreCase line then [i] else []) ++
        cs.positions ignoreCase key (i + 1) lines := by
  by_cases h : key ∈ cs.keysOn ignoreCase line <;> simp [positions, List.zipIdx_cons, h]

/-- The first lines have the positions below their number. -/
theorem positions_take (cs : Candidates) (ignoreCase : Bool) (key : String) (i k : Nat)
    (lines : List String) :
    cs.positions ignoreCase key i (lines.take k) =
      (cs.positions ignoreCase key i lines).filter fun j => j < i + k := by
  induction lines generalizing i k with
  | nil => simp [positions]
  | cons line rest ih =>
    cases k with
    | zero =>
      refine (List.filter_eq_nil_iff.2 fun j hj => ?_).symm
      obtain ⟨p, hp, hsome⟩ := List.mem_filterMap.1 hj
      have hle : i ≤ p.2 := List.le_snd_of_mem_zipIdx hp
      grind
    | succ k =>
      rw [List.take_succ_cons, positions_cons, positions_cons, List.filter_append, ih,
        Nat.add_assoc, Nat.add_comm 1 k]
      congr 1
      split <;> simp

/-- A candidate is determined by its key. -/
theorem eq_of_key_eq {keys : List String} {c d : Candidate} (hc : c ∈ ofKeys keys)
    (hd : d ∈ ofKeys keys) (h : d.key = c.key) : d = c := by
  obtain ⟨k, p⟩ := c
  obtain ⟨k', q⟩ := d
  obtain rfl : k' = k := h
  obtain rfl : q = p :=
    Option.some.inj ((mem_ofKeys.1 hd).2.symm.trans (mem_ofKeys.1 hc).2)
  rfl

/-- The candidates are in the order of their keys. -/
theorem pairwise_ofKeys (keys : List String) :
    (ofKeys keys).Pairwise fun c d => compareText c.key d.key = .lt := by
  have hkeys : (Ascending.texts keys).Pairwise fun a b => compareText a b = .lt :=
    Ascending.pairwise_ofList keys
  refine hkeys.filterMap _ ?_
  intro a b hlt c hc d hd
  obtain ⟨p, -, rfl⟩ := Option.map_eq_some_iff.1 hc
  obtain ⟨q, -, rfl⟩ := Option.map_eq_some_iff.1 hd
  exact hlt

end Candidates

namespace FileIndex

/-! ### Building line by line -/

/-- Keys with the lines noted for them, by key. -/
abbrev Hits := List (String × List Nat)

/-- Notes a line for a key. -/
def noteHit (i : Nat) (hits : Hits) (key : String) : Hits :=
  Ascending.insert compareName (key, Ascending.insert compare i ((hits.lookup key).getD [])) hits

/-- Notes a line for all keys that its tokens point to, token by token. -/
def noteLine (cs : Candidates) (ignoreCase : Bool) (i : Nat) (line : String) (hits : Hits) : Hits :=
  (Token.tokens line.toList).foldl
    (fun hits token => (cs.keysAt ignoreCase token).foldl (noteHit i) hits) hits

/-- Notes lines, the first of them at the given position. Before each line it is asked whether to
stop there. -/
def noteLines (cs : Candidates) (ignoreCase : Bool) (stop : Nat → Bool) :
    Nat → List String → Hits → Hits
  | _, [], hits => hits
  | i, line :: rest, hits =>
    if stop i then hits
    else noteLines cs ignoreCase stop (i + 1) rest (noteLine cs ignoreCase i line hits)

/-- The index of a file with the given lines. `stop` has the answers to the questions whether to
stop, of which the first one is asked before the first line. -/
def build (f : SourceFile) (rules : RuleSet) (cs : Candidates) (lines : List String)
    (stop : Nat → Bool) : FileIndex :=
  let ids := rules.idsFor f.extension
  if ids.isEmpty then unread f
  else ⟨f, ids, lines, noteLines cs (ignoresCase rules ids) stop 0 lines []⟩

/-! ### What has been noted -/

/-- A line that comes after others is put behind them, or stays there. -/
theorem insert_append {i : Nat} {s : List Nat} (h : ∀ j ∈ s, j < i) (t : List Nat) :
    Ascending.insert compare i (s ++ t) = s ++ Ascending.insert compare i t := by
  induction s with
  | nil => rfl
  | cons j s ih =>
    have hgt : compare i j = .gt := Nat.compare_eq_gt.2 (h j (List.mem_cons_self ..))
    rw [List.cons_append, Ascending.insert, hgt, ih fun j hj => h j (List.mem_cons_of_mem _ hj)]
    rfl

/-- What has been noted: for each key the given lines, and no key without a line. -/
structure Notes (hits : Hits) (noted : String → List Nat) : Prop where
  /-- The keys are in ascending order. -/
  ascending : hits.Pairwise fun a b => compareName a b = .lt
  /-- Each key has its lines. -/
  lines : ∀ key, (hits.lookup key).getD [] = noted key
  /-- A key that is there has a line. -/
  ne_nil : ∀ p ∈ hits, p.2 ≠ []

namespace Notes

variable {hits : Hits} {noted : String → List Nat}

theorem mem_iff (h : Notes hits noted) {p : String × List Nat} :
    p ∈ hits ↔ noted p.1 = p.2 ∧ p.2 ≠ [] := by
  rw [← h.lines]
  constructor
  · intro hp
    exact ⟨by rw [(mem_iff_lookup h.ascending).1 hp]; rfl, h.ne_nil p hp⟩
  · rintro ⟨hlines, hne⟩
    rw [mem_iff_lookup h.ascending]
    cases hlookup : hits.lookup p.1 with
    | none =>
      rw [hlookup] at hlines
      exact (hne hlines.symm).elim
    | some is =>
      rw [hlookup] at hlines
      exact congrArg some hlines

/-- **Notes are determined by what has been noted.** -/
theorem unique {hits' : Hits} (h : Notes hits noted) (h' : Notes hits' noted) : hits = hits' := by
  have hmem : ∀ p, p ∈ hits ↔ p ∈ hits' := fun p => h.mem_iff.trans h'.mem_iff.symm
  have hne : ∀ {a b : String × List Nat}, compareName a b = .lt → a ≠ b :=
    fun hlt heq => name_ne_of_lt hlt (congrArg Prod.fst heq)
  have hperm : hits.Perm hits' :=
    (List.perm_ext_iff_of_nodup (h.ascending.imp hne) (h'.ascending.imp hne)).2 hmem
  refine hperm.eq_of_pairwise (fun a b _ _ hab hba => ?_) h.ascending h'.ascending
  exact absurd rfl (hne (Std.TransCmp.lt_trans hab hba))

theorem nil : Notes [] fun _ => [] := ⟨.nil, fun _ => rfl, nofun⟩

/-- Noting a line for one key. -/
theorem hit (h : Notes hits noted) (i : Nat) (key : String) :
    Notes (noteHit i hits key)
      (Function.update noted key (Ascending.insert compare i (noted key))) where
  ascending := Ascending.pairwise_insert h.ascending
  lines k := by
    rw [noteHit, lookup_insert, h.lines, Function.update_apply]
    split
    · rfl
    · exact h.lines k
  ne_nil p hp := by
    rcases Ascending.mem_of_mem_insert hp with rfl | hp
    · exact List.ne_nil_of_mem (Ascending.mem_insert_self ..)
    · exact h.ne_nil p hp

/-- Noting a line for some keys, after lines that come before it. -/
theorem foldl_hit {base : String → List Nat} {i : Nat} {seen : List String}
    (hbase : ∀ key, ∀ j ∈ base key, j < i)
    (h : Notes hits fun key => base key ++ if key ∈ seen then [i] else []) (keys : List String) :
    Notes (keys.foldl (noteHit i) hits)
      fun key => base key ++ if key ∈ seen ++ keys then [i] else [] := by
  -- The keys that come first count as seen, for a key may come again within the line.
  induction keys generalizing hits seen with
  | nil => simpa using h
  | cons key rest ih =>
    have hstep : Notes (noteHit i hits key)
        fun k => base k ++ if k ∈ seen ++ [key] then [i] else [] := by
      convert h.hit i key using 1
      funext k
      by_cases hk : k = key
      · subst hk
        rw [Function.update_self, insert_append (hbase k)]
        by_cases hseen : k ∈ seen <;> simp [hseen, Ascending.insert]
      · rw [Function.update_of_ne hk]
        simp [hk]
    simpa using ih hstep

/-- **What one line adds**: the line, for each key that some token of the line points to. -/
theorem line {i : Nat} (h : Notes hits noted) (hlt : ∀ key, ∀ j ∈ noted key, j < i)
    (cs : Candidates) (ignoreCase : Bool) (line : String) :
    Notes (noteLine cs ignoreCase i line hits)
      fun key => noted key ++ if key ∈ cs.keysOn ignoreCase line then [i] else [] := by
  have hnone : Notes hits fun key => noted key ++ if key ∈ ([] : List String) then [i] else [] := by
    simpa using h
  have hfold := hnone.foldl_hit hlt (cs.keysOn ignoreCase line)
  rw [Candidates.keysOn, List.foldl_flatMap] at hfold
  simpa [noteLine, Candidates.keysOn] using hfold

/-- **What the lines up to the stop add**: each key gets those that point to it. -/
theorem run {i k : Nat} {stop : Nat → Bool} {lines : List String} (cs : Candidates)
    (ignoreCase : Bool) (h : Notes hits noted) (hlt : ∀ key, ∀ j ∈ noted key, j < i)
    (hgo : ∀ j < k, stop (i + j) = false) (hstop : stop (i + k) = true ∨ lines.length ≤ k) :
    Notes (noteLines cs ignoreCase stop i lines hits)
      fun key => noted key ++ cs.positions ignoreCase key i (lines.take k) := by
  -- The first line comes after all that have been noted, and before all that are left.
  induction lines generalizing i k hits noted with
  | nil => simpa [noteLines, Candidates.positions] using h
  | cons line rest ih =>
    rw [noteLines]
    cases k with
    | zero =>
      have hnow : stop i = true := hstop.resolve_right (by simp)
      simpa [hnow, Candidates.positions] using h
    | succ k =>
      have hnow : stop i = false := hgo 0 k.succ_pos
      rw [hnow, if_neg Bool.false_ne_true]
      have hlt' : ∀ key, ∀ j ∈ noted key ++ (if key ∈ cs.keysOn ignoreCase line then [i] else []),
          j < i + 1 := by
        intro key j hj
        rcases List.mem_append.1 hj with hj | hj
        · exact Nat.lt_succ_of_lt (hlt key j hj)
        · split at hj
          · rw [List.mem_singleton.1 hj]
            exact i.lt_succ_self
          · cases hj
      have hgo' : ∀ j < k, stop (i + 1 + j) = false := by
        intro j hj
        rw [Nat.add_assoc, Nat.add_comm 1]
        exact hgo (j + 1) (Nat.succ_lt_succ hj)
      have hstop' : stop (i + 1 + k) = true ∨ rest.length ≤ k := by
        rw [Nat.add_assoc, Nat.add_comm 1]
        exact hstop.imp_right Nat.le_of_succ_le_succ
      have hrest := ih (h.line hlt cs ignoreCase line) hlt' hgo' hstop'
      simpa only [List.take_succ_cons, Candidates.positions_cons, List.append_assoc] using hrest

end Notes

/-! ### The index over the first lines -/

section Index

variable {f : SourceFile} {rules : RuleSet} {keys : List String} {lines : List String}

theorem idsFor_ne_nil (hf : rules.covers f.extension = true) : rules.idsFor f.extension ≠ [] := by
  rw [Ne, ← List.isEmpty_iff, RuleSet.isEmpty_idsFor, hf]
  exact Bool.false_ne_true

/-- A key that is searched for is on the lines that its candidate has. -/
theorem positions_of_mem {c : Candidate} (hc : c ∈ Candidates.ofKeys keys) (ignoreCase : Bool)
    (lines : List String) :
    (Candidates.ofKeys keys).positions ignoreCase c.key 0 lines =
      hitLines ignoreCase c (lines.map fun l => Token.tokens l.toList) := by
  have hline : ∀ line, c.key ∈ (Candidates.ofKeys keys).keysOn ignoreCase line ↔
      c.isHitBy ignoreCase (Token.tokens line.toList) = true := by
    intro line
    rw [Candidates.mem_keysOn]
    constructor
    · rintro ⟨d, hd, hkey, hhit⟩
      exact Candidates.eq_of_key_eq hc hd hkey ▸ hhit
    · exact fun hhit => ⟨c, hc, rfl, hhit⟩
  rw [hitLines, List.zipIdx_map, List.filterMap_map]
  exact List.filterMap_congr fun p _ => if_congr (hline p.1) rfl rfl

/-- A key that is not searched for is on no line. -/
theorem positions_of_forall_ne {cs : Candidates} {key : String} (h : ∀ c ∈ cs, c.key ≠ key)
    (ignoreCase : Bool) (i : Nat) (lines : List String) :
    cs.positions ignoreCase key i lines = [] := by
  refine List.filterMap_eq_nil_iff.2 fun p _ => if_neg fun hmem => ?_
  obtain ⟨c, hc, hkey, -⟩ := Candidates.mem_keysOn.1 hmem
  exact h c hc hkey

/-- **What the index over the first lines notes**: for each key those that point to it. -/
theorem notes_ofLines (hf : rules.covers f.extension = true) (handled : Nat) :
    Notes (ofLines f rules (Candidates.ofKeys keys) lines handled).hits fun key =>
      (Candidates.ofKeys keys).positions (ignoresCase rules (rules.idsFor f.extension)) key 0
        (lines.take handled) where
  ascending := by
    refine (Candidates.pairwise_ofKeys keys).filterMap _ ?_
    intro c d hlt a ha b hb
    split at ha
    · cases ha
    · split at hb
      · cases hb
      · cases ha
        cases hb
        exact hlt
  lines key := by
    set ignoreCase := ignoresCase rules (rules.idsFor f.extension)
    have hof : (ofLines f rules (Candidates.ofKeys keys) lines handled).hits =
        hitsOf (fun c => hitLines ignoreCase c
          ((lines.take handled).map fun l => Token.tokens l.toList)) (Candidates.ofKeys keys) := rfl
    rw [hof]
    by_cases hkey : ∃ c ∈ Candidates.ofKeys keys, c.key = key
    · obtain ⟨c, hc, rfl⟩ := hkey
      rw [lookup_hitsOf _ (fun d hd => Candidates.eq_of_key_eq hc hd) hc, positions_of_mem hc]
    · have hnone : ∀ c ∈ Candidates.ofKeys keys, c.key ≠ key := fun c hc heq => hkey ⟨c, hc, heq⟩
      rw [lookup_hitsOf_of_ne _ hnone, positions_of_forall_ne hnone]
      rfl
  ne_nil := (Built.read (idsFor_ne_nil hf) _ lines handled).ne_nil

/-- **Building line by line yields the index over the first lines**, those before the stop. -/
theorem build_eq_ofLines (hf : rules.covers f.extension = true) {stop : Nat → Bool} {k : Nat}
    (hgo : ∀ i < k, stop i = false) (hstop : stop k = true ∨ lines.length ≤ k) :
    build f rules (Candidates.ofKeys keys) lines stop =
      ofLines f rules (Candidates.ofKeys keys) lines k := by
  have hgo' : ∀ i < k, stop (0 + i) = false := by simpa using hgo
  have hstop' : stop (0 + k) = true ∨ lines.length ≤ k := by simpa using hstop
  have hrun := Notes.nil.run (Candidates.ofKeys keys) (ignoresCase rules (rules.idsFor f.extension))
    (fun _ => nofun) hgo' hstop'
  have hhits := hrun.unique (notes_ofLines hf k)
  rw [build, if_neg (mt List.isEmpty_iff.1 (idsFor_ne_nil hf)), hhits]
  rfl

/-- Without a stop, the whole file is indexed. -/
theorem build_eq_whole (hf : rules.covers f.extension = true) {stop : Nat → Bool}
    (hgo : ∀ i < lines.length, stop i = false) :
    build f rules (Candidates.ofKeys keys) lines stop =
      whole rules (Candidates.ofKeys keys) f lines := by
  rw [build_eq_ofLines hf hgo (Or.inr le_rfl), whole, if_pos hf]

/-- The lines that the index over the first lines has for a key are those of the whole index that
come before the end. -/
theorem linesFor_ofLines_eq_filter (hf : rules.covers f.extension = true) (k : Nat) (key : String) :
    (ofLines f rules (Candidates.ofKeys keys) lines k).linesFor key =
      ((whole rules (Candidates.ofKeys keys) f lines).linesFor key).filter fun i => i < k := by
  rw [whole, if_pos hf, linesFor, linesFor, (notes_ofLines hf k).lines,
    (notes_ofLines hf lines.length).lines, List.take_length, Candidates.positions_take,
    Nat.zero_add]

/-- **A stopped index is a clean beginning of the full one.** Take a file that some rule covers,
and let `k` be the line, counted from 0, before which it is first answered that building is to stop.
For each key, the stopped index has just those lines below `k` that the full index has, and it has
the key if there are any; the rules that cover the file and its lines are the same. Where no stop
comes before the last line, building leads to the full index. -/
theorem build_stopped (rules : RuleSet) (keys : List String) (f : SourceFile) (lines : List String)
    (hf : rules.covers f.extension = true) :
    let full := whole rules (Candidates.ofKeys keys) f lines
    (∀ (stop : Nat → Bool) (k : Nat), (∀ i < k, stop i = false) → stop k = true →
      let part := build f rules (Candidates.ofKeys keys) lines stop
      part = ofLines f rules (Candidates.ofKeys keys) lines k ∧
        (∀ key, part.linesFor key = (full.linesFor key).filter fun i => i < k) ∧
        (∀ key, part.containsKey key = true ↔ ∃ i ∈ full.linesFor key, i < k) ∧
        part.ruleIds = full.ruleIds ∧ part.lines = full.lines ∧
        part.lines.length = full.lines.length) ∧
    ∀ stop : Nat → Bool, (∀ i < lines.length, stop i = false) →
      build f rules (Candidates.ofKeys keys) lines stop = full := by
  intro full
  refine ⟨fun stop k hgo hstop => ?_, fun stop hgo => build_eq_whole hf hgo⟩
  intro part
  have hpart : part = ofLines f rules (Candidates.ofKeys keys) lines k :=
    build_eq_ofLines hf hgo (Or.inl hstop)
  have hfull : full = ofLines f rules (Candidates.ofKeys keys) lines lines.length := if_pos hf
  have hlines : ∀ key, part.linesFor key = (full.linesFor key).filter fun i => i < k := by
    intro key
    rw [hpart]
    exact linesFor_ofLines_eq_filter hf k key
  have hbuilt : part.Built := hpart ▸ Built.read (idsFor_ne_nil hf) _ lines k
  refine ⟨hpart, hlines, fun key => ?_, ?_, ?_, ?_⟩
  · rw [hbuilt.containsKey_iff, hlines, Ne, List.filter_eq_nil_iff]
    simp
  all_goals rw [hpart, hfull]; rfl

end Index

/-- A stop before the third of three lines; the key on all of them keeps the first two, and the key
on the third one only is not there. -/
theorem build_stopped_third :
    let rules := RuleSet.ofRules [⟨[".t"], false, none, none⟩]
    let f := SourceFile.ofPath "f.t"
    let lines := ["ab(AB)", "a b ab", "ab c"]
    let stop : Nat → Bool := fun i => i == 2
    let part := build f rules (Candidates.ofKeys ["ab", "c.AB", "c"]) lines stop
    rules.covers f.extension = true ∧ (∀ i < 2, stop i = false) ∧ stop 2 = true ∧
      part.linesFor "c.AB" = [0, 1] ∧ part.containsKey "c" = false ∧ part.lines.length = 3 := by
  intro rules f lines stop part
  have hcovers : rules.covers f.extension = true := by decide +kernel
  have hgo : ∀ i < 2, stop i = false := by decide
  obtain ⟨-, hlines, hcontains, -, -, hcount⟩ :=
    (build_stopped rules ["ab", "c.AB", "c"] f lines hcovers).1 stop 2 hgo rfl
  have hall : (whole rules (Candidates.ofKeys ["ab", "c.AB", "c"]) f lines).linesFor "c.AB" =
      [0, 1, 2] := by decide +kernel
  have hthird : (whole rules (Candidates.ofKeys ["ab", "c.AB", "c"]) f lines).linesFor "c" =
      [2] := by decide +kernel
  refine ⟨hcovers, hgo, rfl, ?_, ?_, ?_⟩
  · rw [hlines, hall]
    rfl
  · rw [← Bool.not_eq_true, hcontains, hthird]
    decide
  · rw [hcount, whole, if_pos hcovers]
    rfl

end FileIndex

end KeyTrace
