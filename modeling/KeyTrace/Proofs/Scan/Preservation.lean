import KeyTrace.Proofs.Scan.Invariant

/-!
# The invariant of a scan is kept

Each kind of step keeps the invariant of the scan that takes it, and of all other scans too.
`ScanCore.frame` covers everything that leaves the work itself alone: steps of other scans and of
callers, requests to stop, and changes of the stage.
-/

namespace KeyTrace

variable {l l' : Ledger} {t t' : Tracker} {g : Nat} {s : Scan}

/-! ### Steps of others -/

/-- The ledger has grown, but the scan at position `g` has made no attempt. -/
structure Ledger.Grows (l l' : Ledger) (g : Nat) : Prop where
  trees : l.trees ⊆ l'.trees
  requests : l.requests ⊆ l'.requests
  attempts : ∃ more, l'.attempts = l.attempts ++ more ∧ ∀ p ∈ more, p.scan ≠ g

/-- What a scan relies on has stayed, and at most a later scan has become the current one. -/
structure Tracker.Grows (t t' : Tracker) : Prop where
  settings : t'.settings = t.settings
  entries : t'.entries = t.entries
  generation : t.generation ≤ t'.generation

theorem Ledger.Grows.refl (l : Ledger) (g : Nat) : l.Grows l g :=
  ⟨fun _ h => h, fun _ h => h, [], by simp⟩

theorem Tracker.Grows.refl (t : Tracker) : t.Grows t := ⟨rfl, rfl, Nat.le_refl _⟩

namespace Ledger.Grows

theorem publishedBy (hl : l.Grows l' g) :
    Attempt.publishedBy g l'.attempts = Attempt.publishedBy g l.attempts := by
  obtain ⟨more, hmore, hg⟩ := hl.attempts
  have hnil : more.filter (fun p => p.accepted && p.scan == g) = [] := by
    simpa [List.filter_eq_nil_iff] using fun p hp _ => hg p hp
  rw [Attempt.publishedBy, hmore, List.filter_append, hnil, List.append_nil, Attempt.publishedBy]

theorem mem_attempts (hl : l.Grows l' g) {p : Attempt} (hp : p ∈ l'.attempts) (hg : p.scan = g) :
    p ∈ l.attempts := by
  obtain ⟨more, hmore, hne⟩ := hl.attempts
  rcases List.mem_append.1 (hmore ▸ hp) with h | h
  · exact h
  · exact absurd hg (hne p h)

theorem attempts_subset (hl : l.Grows l' g) : l.attempts ⊆ l'.attempts := by
  obtain ⟨more, hmore, -⟩ := hl.attempts
  rw [hmore]
  exact List.subset_append_left _ _

end Ledger.Grows

/-- A scan that has been asked to stop stays so. -/
theorem Tracker.Stops.grow (h : t.Stops s) (hb : s.generation ≤ t.generation) (ht : t.Grows t') :
    t'.Stops s :=
  h.imp_right fun hne => by have := ht.generation; omega

theorem generation_ne_grow (h : t.generation ≠ s.generation) (hb : s.generation ≤ t.generation)
    (ht : t.Grows t') : t'.generation ≠ s.generation := by
  have := ht.generation
  omega

namespace Scan

theorem LookupFull.mono {trees trees' : List FileTree} {entries : List Entry}
    (h : s.LookupFull trees entries) (ht : trees ⊆ trees') : s.LookupFull trees' entries := by
  obtain ⟨hc, indexes, hi, hl⟩ := h
  exact ⟨hc, indexes, hi.imp fun _ _ hx => hx.mono ht, hl⟩

theorem FilesFull.mono {trees trees' : List FileTree} (h : s.FilesFull trees)
    (ht : trees ⊆ trees') : s.FilesFull trees' :=
  List.Forall₂.imp (fun _ _ hx => hx.mono ht) h

variable {cancelled finished : Bool} {progress : Progress} {stage' : Stage}
  {outcome : Option Outcome}

theorem Complete.frame {entries : List Entry} (h : s.Complete l entries g) (hl : l.Grows l' g)
    (hv : progress.visited = s.progress.visited) (htot : progress.total = s.progress.total) :
    Complete l' entries g { s with
      cancelled := cancelled, finished := finished, progress := progress, stage := stage'
      outcome := outcome } where
  filesOver := ⟨h.filesOver.length, h.filesOver.done⟩
  entriesOver := ⟨h.entriesOver.length, h.entriesOver.done⟩
  lookup := h.lookup.mono hl.trees
  published k hk := by
    obtain ⟨p, hp, hrest⟩ := h.published k hk
    exact ⟨p, hl.attempts_subset hp, hrest⟩
  noneRefused p hp hg := h.noneRefused p (hl.mem_attempts hp hg) hg
  entriesMatched := h.entriesMatched
  visited := by rw [hv, htot, h.visited]

theorem StageSound.frame {stage : Stage} (h : s.StageSound l t g stage)
    (hb : s.generation ≤ t.generation) (ht : t.Grows t') (hl : l.Grows l' g)
    (hv : progress.visited = s.progress.visited) (htot : progress.total = s.progress.total)
    (ho : ∀ m, outcome = some (.completed m) → s.outcome = some (.completed m)) :
    StageSound l' t' g { s with
      cancelled := cancelled, finished := finished, progress := progress, stage := stage'
      outcome := outcome } stage := by
  have hne := fun hne => generation_ne_grow (s := s) hne hb ht
  cases stage with
  | queued => exact h
  | indexing => exact ⟨ht.entries ▸ h.1, h.2⟩
  | indexed poll =>
    cases poll with
    | flag => exact ⟨ht.entries ▸ h.1, ⟨h.2.1.length, h.2.1.done⟩, h.2.2⟩
    | number =>
      obtain ⟨hc, hf, hn, hx⟩ := h
      exact ⟨ht.entries ▸ hc, ⟨hf.length, hf.done⟩, hn, hx.imp (fun hx => hx.mono hl.trees) hne⟩
  | starting a => exact ⟨⟨h.1.length, h.1.done⟩, h.2.1, ht.entries ▸ h.2.2.mono hl.trees⟩
  | matching => exact ⟨⟨h.1.length, h.1.done⟩, h.2.1, ht.entries ▸ h.2.2.mono hl.trees⟩
  | matched poll =>
    cases poll with
    | flag =>
      exact ⟨⟨h.1.length, h.1.done⟩, ⟨h.2.1.length, h.2.1.done⟩, ht.entries ▸ h.2.2.mono hl.trees⟩
    | number =>
      exact h.imp (fun h => ht.entries ▸ h.frame hl hv htot) fun h =>
        ⟨⟨h.1.length, h.1.done⟩, ⟨h.2.1.length, h.2.1.done⟩, hne h.2.2⟩
  | completing a =>
    rw [StageSound, ht.entries]
    exact Complete.frame h hl hv htot
  | yielding a => trivial
  | leaving a => trivial
  | finishing o => exact fun m hm => ⟨ht.entries ▸ (h m hm).1.frame hl hv htot, (h m hm).2⟩
  | reporting o => exact fun m hm => ⟨ht.entries ▸ (h m hm).1.frame hl hv htot, (h m hm).2⟩
  | ended =>
    intro m hm
    obtain ⟨hcomplete, hsum⟩ := h m (ho m hm)
    exact ⟨ht.entries ▸ hcomplete.frame hl hv htot, hsum⟩

end Scan

/-- **What leaves the work alone keeps the invariant.** The scan may be asked to stop, go on to
another stage, or hand over its outcome meanwhile. -/
theorem ScanCore.frame (h : ScanCore l t g s) (ht : t.Grows t') (hl : l.Grows l' g)
    {cancelled finished : Bool} {progress : Progress} {stage : Stage} {outcome : Option Outcome}
    (hc : s.cancelled = true → cancelled = true)
    (hv : progress.visited = s.progress.visited) (htot : progress.total = s.progress.total) :
    ScanCore l' t' g { s with
      cancelled := cancelled, finished := finished, progress := progress, stage := stage
      outcome := outcome } := by
  have hstop : t.Stops s → t'.Stops { s with
      cancelled := cancelled, finished := finished, progress := progress, stage := stage
      outcome := outcome } := fun hs => (hs.grow h.bound ht).imp_left hc
  have hne : t.generation ≠ s.generation → t'.generation ≠ s.generation :=
    fun hne => generation_ne_grow hne h.bound ht
  obtain ⟨r, hr, hreq⟩ := h.request
  refine ⟨h.number, h.bound.trans ht.generation, ⟨r, hl.requests hr, ht.settings ▸ hreq⟩,
    htot.trans h.total, ?_, ?_, ?_, ?_, ?_, ?_, ?_, ?_, ?_, ?_⟩
  · intro k f task hf htask
    have hsound := h.files hf htask
    cases task with
    | waiting poll => trivial
    | opening => trivial
    | indexing poll lines left =>
      obtain ⟨hrules, tree, htree, hlines⟩ := hsound
      exact ⟨hrules, tree, hl.trees htree, hlines⟩
    | counting x => exact hsound.imp (fun hx => hx.mono hl.trees) hstop
    | visiting x => exact hsound.imp (fun hx => hx.mono hl.trees) hstop
    | done x =>
      cases x with
      | none => exact hstop hsound
      | some x => exact hsound.imp (fun hx => hx.mono hl.trees) hstop
  · intro k id e task hid he htask
    have hsound := h.entries hid (ht.entries ▸ he) htask
    have hctx : t'.context s e = t.context s e := by
      rw [Tracker.context, ht.settings, Tracker.context]
    have hfound : t'.found s e = t.found s e := by rw [Tracker.found, hctx, Tracker.found]
    cases task with
    | searching poll left m found =>
      obtain ⟨tried, hw, htried⟩ := hsound
      exact ⟨tried, hw, by rw [← htried, ← hctx]; rfl⟩
    | checking poll found =>
      cases poll with
      | flag => exact hsound.imp (fun hx => hx.trans hfound.symm) hstop
      | number => exact hsound.imp (fun hx => hx.trans hfound.symm) hne
    | publishing found => exact Eq.trans hsound hfound.symm
    | _ => trivial
  · exact h.lookup.imp_right fun hlook => ht.entries ▸ hlook.mono hl.trees
  · exact fun hnil p hp hg => h.quiet hnil p (hl.mem_attempts hp hg) hg
  · intro k task htask hpast
    refine (h.reached htask hpast).imp ?_ hstop
    rintro ⟨p, hp, hrest⟩
    exact ⟨p, hl.attempts_subset hp, hrest⟩
  · exact h.noneRefused.imp (fun hall p hp hg => hall p (hl.mem_attempts hp hg) hg) hstop
  · rw [hl.publishedBy]
    exact h.counted
  · rw [hl.publishedBy]
    exact h.past.imp_right hstop
  · rw [hl.publishedBy]
    exact h.summed
  · rw [hv]
    exact h.visited.imp_right hstop

theorem ScanInv.frame (h : ScanInv l t g s) (ht : t.Grows t') (hl : l.Grows l' g)
    {cancelled : Bool} {progress : Progress} {outcome : Option Outcome}
    (hc : s.cancelled = true → cancelled = true)
    (hv : progress.visited = s.progress.visited) (htot : progress.total = s.progress.total)
    (ho : outcome = none ∨ outcome = s.outcome) :
    ScanInv l' t' g
      { s with cancelled := cancelled, progress := progress, outcome := outcome } := by
  refine ⟨h.core.frame ht hl hc hv htot, ?_, ?_⟩
  · refine h.stage.frame h.core.bound ht hl hv htot fun m hm => ?_
    rcases ho with rfl | rfl
    · cases hm
    · exact hm
  · rcases ho with rfl | rfl
    · exact Or.inr rfl
    · exact h.outcome

/-! ### Steps of the thread -/

theorem Advance.step_visited (a : Advance) (p : Progress) : (a.step p).1.visited = p.visited := by
  rw [Advance.step]
  repeat' split
  all_goals rfl

theorem Advance.step_total (a : Advance) (p : Progress) : (a.step p).1.total = p.total := by
  rw [Advance.step]
  repeat' split
  all_goals rfl

namespace ScanCore

/-- Where no file was dropped, the work on all files leaves all indexes, in the same order. -/
theorem forall₂_indexesOf {P : SourceFile → FileIndex → Prop} {files : List SourceFile}
    {tasks : List FileTask} (hlen : tasks.length = files.length)
    (h : ∀ (k : Nat) f task, files[k]? = some f → tasks[k]? = some task →
      ∃ x, task = FileTask.done (some x) ∧ P f x) :
    List.Forall₂ P files (Tracker.indexesOf tasks) := by
  induction files generalizing tasks with
  | nil =>
    obtain rfl := List.eq_nil_of_length_eq_zero hlen
    exact .nil
  | cons f files ih =>
    cases tasks with
    | nil => simp at hlen
    | cons task tasks =>
      obtain ⟨x, rfl, hx⟩ := h 0 f task rfl rfl
      exact .cons hx (ih (by simpa using hlen) fun k => h (k + 1))

theorem filesFull (h : ScanCore l t g s) (ho : s.FilesOver) (hs : ¬t.Stops s) :
    s.FilesFull l.trees := by
  refine forall₂_indexesOf ho.length fun k f task hf htask => ?_
  have hsound := h.files hf htask
  have hdone := List.all_eq_true.1 ho.done task (List.mem_of_getElem? htask)
  cases task with
  | done x =>
    cases x with
    | none => exact absurd hsound hs
    | some x => exact ⟨x, rfl, hsound.resolve_right hs⟩
  | _ => cases hdone

theorem sum_visits_files (ho : s.FilesOver) :
    (s.fileTasks.map FileTask.visits).sum = s.files.length := by
  have hone : s.fileTasks.map FileTask.visits = s.fileTasks.map fun _ => 1 := by
    refine List.map_congr_left fun task htask => ?_
    have hdone := List.all_eq_true.1 ho.done task htask
    cases task with
    | done x => rfl
    | _ => cases hdone
  rw [hone, ← ho.length]
  simp

/-- Where the work on each entry is over, a weight of the tasks adds up to a multiple of their
number. -/
theorem sum_weight_entries (ho : s.EntriesOver) (w : EntryTask → Nat) :
    (s.entryTasks.map w).sum = s.entries.length * w EntryTask.done := by
  have hdone : s.entryTasks.map w = s.entryTasks.map fun _ => w EntryTask.done := by
    refine List.map_congr_left fun task htask => ?_
    have hdone := List.all_eq_true.1 ho.done task htask
    cases task with
    | done => rfl
    | _ => cases hdone
  rw [hdone, ← ho.length]
  simp

/-- **What the last look but one establishes.** When all work is over and no one has asked to stop,
nothing was left out. -/
theorem complete (h : ScanCore l t g s) (hf : s.FilesOver) (he : s.EntriesOver)
    (hl : s.LookupFull l.trees t.entries) (hs : ¬t.Stops s) : s.Complete l t.entries g where
  filesOver := hf
  entriesOver := he
  lookup := hl
  published k hk := by
    have hk' : k < s.entryTasks.length := he.length ▸ hk
    have hdone := List.all_eq_true.1 he.done _ (List.getElem_mem hk')
    refine (h.reached (List.getElem?_eq_getElem hk') ?_).resolve_right hs
    cases htask : s.entryTasks[k] with
    | done => rfl
    | _ => simp [htask, Tracker.entryDone] at hdone
  noneRefused := h.noneRefused.resolve_right hs
  entriesMatched := by
    have hcounted := h.counted
    have hpast := h.past.resolve_right hs
    rw [sum_weight_entries he] at hcounted hpast
    have huncounted : EntryTask.uncounted .done = 0 := rfl
    have hone : EntryTask.past .done = 1 := rfl
    rw [huncounted, Nat.mul_zero, Nat.add_zero] at hcounted
    rw [hcounted, hpast, hone, Nat.mul_one]
  visited := by
    have hone : EntryTask.visits .done = 1 := rfl
    rw [h.visited.resolve_right hs, h.total, sum_visits_files hf, sum_weight_entries he, hone,
      Nat.mul_one, Nat.add_comm]

/-- A change of the stage, and of the state on its way. -/
theorem atStage (h : ScanCore l t g s) {finished : Bool} {progress : Progress} {stage : Stage}
    {outcome : Option Outcome} (hv : progress.visited = s.progress.visited)
    (htot : progress.total = s.progress.total) :
    ScanCore l t g { s with
      finished := finished, progress := progress, stage := stage, outcome := outcome } :=
  h.frame (.refl t) (.refl l g) id hv htot

theorem started (h : ScanCore l t g s) (hf : s.fileTasks = []) (he : s.entryTasks = []) :
    ScanCore l t g { s with
      stage := .indexing
      candidates := Candidates.ofKeys (s.keys t.entries)
      fileTasks := s.files.map fun _ => .waiting .flag } where
  number := h.number
  bound := h.bound
  request := h.request
  total := h.total
  files hk htask := by
    obtain ⟨_, _, rfl⟩ := List.getElem?_map .. ▸ htask |> Option.map_eq_some_iff.1
    trivial
  entries _ _ htask := by simp [he] at htask
  lookup := Or.inl he
  quiet := h.quiet
  reached htask := by simp [he] at htask
  noneRefused := h.noneRefused
  counted := h.counted
  past := h.past
  summed := h.summed
  visited := h.visited.imp_left fun hv => by
    rw [hf] at hv
    simpa [FileTask.visits] using hv

theorem filesCleared (h : ScanCore l t g s) (he : s.entryTasks = []) {stage : Stage}
    {lookup : Lookup} : ScanCore l t g { s with stage := stage, lookup := lookup } where
  number := h.number
  bound := h.bound
  request := h.request
  total := h.total
  files := h.files
  entries _ _ htask := by simp [he] at htask
  lookup := Or.inl he
  quiet := h.quiet
  reached := h.reached
  noneRefused := h.noneRefused
  counted := h.counted
  past := h.past
  summed := h.summed
  visited := h.visited

theorem matchingBegun (h : ScanCore l t g s) (he : s.entryTasks = [])
    (hl : s.LookupFull l.trees t.entries) {progress : Progress} {stage : Stage}
    (hv : progress.visited = s.progress.visited) (htot : progress.total = s.progress.total) :
    ScanCore l t g { s with
      progress := progress
      stage := stage
      entryTasks := s.entries.map fun _ => .waiting .flag } := by
  have htask : ∀ {k : Nat} {task : EntryTask},
      (s.entries.map fun _ => EntryTask.waiting .flag)[k]? = some task →
        task = .waiting .flag := by
    intro k task h
    rw [List.getElem?_map] at h
    obtain ⟨_, _, rfl⟩ := Option.map_eq_some_iff.1 h
    rfl
  have hsum : ∀ w : EntryTask → Nat, w (.waiting .flag) = 0 →
      ((s.entries.map fun _ => EntryTask.waiting .flag).map w).sum = (s.entryTasks.map w).sum := by
    intro w hw
    simp [he, hw]
  exact
    { h with
      total := htot.trans h.total
      entries := fun _ _ h => by obtain rfl := htask h; trivial
      lookup := Or.inr hl
      quiet := fun _ => h.quiet he
      reached := fun h hpast => by obtain rfl := htask h; cases hpast
      counted := by rw [hsum EntryTask.uncounted rfl]; exact h.counted
      past := by rw [hsum EntryTask.past rfl]; exact h.past
      summed := by rw [hsum EntryTask.unsummed rfl]; exact h.summed
      visited := by rw [hv, hsum EntryTask.visits rfl]; exact h.visited }

end ScanCore

/-- The thread of a scan keeps its invariant. -/
theorem ScanInv.thread {s' : Scan} (h : ScanInv l t g s) (hm : s.ThreadMove t s') :
    ScanInv l t g s' := by
  have hst := h.stage
  have hout : ∀ {stage : Stage}, s.stage = stage → stage ≠ .ended → s.outcome = none :=
    fun hs hne => h.outcome.resolve_left (hs ▸ hne)
  cases hm with
  | started hs =>
    rw [hs] at hst
    exact ⟨h.core.started hst.1 hst.2, ⟨rfl, by simp, hst.2⟩, Or.inr (hout hs (by simp))⟩
  | filesDone hs hd =>
    rw [hs] at hst
    exact ⟨h.core.atStage rfl rfl, ⟨hst.1, ⟨hst.2.1, hd⟩, hst.2.2⟩, Or.inr (hout hs (by simp))⟩
  | filesUnflagged hs hc =>
    rw [hs] at hst
    obtain ⟨hcand, hover, hnil⟩ := hst
    refine ⟨h.core.atStage rfl rfl, ⟨hcand, ⟨hover.length, hover.done⟩, hnil, ?_⟩,
      Or.inr (hout hs (by simp))⟩
    by_cases hn : t.generation = s.generation
    · exact Or.inl (h.core.filesFull hover fun hstop => hstop.elim (by simp [hc]) fun hne => hne hn)
    · exact Or.inr hn
  | filesStopped hs => exact ⟨h.core.atStage rfl rfl, trivial, Or.inr (hout hs (by simp))⟩
  | filesCleared hs hn =>
    rw [hs] at hst
    obtain ⟨hcand, hover, hnil, hfull⟩ := hst
    exact ⟨h.core.filesCleared hnil, ⟨⟨hover.length, hover.done⟩, hnil, hcand, _,
      hfull.resolve_right fun hne => hne hn, rfl⟩, Or.inr (hout hs (by simp))⟩
  | @starting a b hs =>
    rw [hs] at hst
    obtain ⟨hover, hnil, hlook⟩ := hst
    exact ⟨h.core.atStage (a.step_visited _) (a.step_total _),
      ⟨⟨hover.length, hover.done⟩, hnil, hlook⟩, Or.inr (hout hs (by simp))⟩
  | @matchingBegun a hs =>
    rw [hs] at hst
    obtain ⟨hover, hnil, hlook⟩ := hst
    exact ⟨h.core.matchingBegun hnil hlook (a.step_visited _) (a.step_total _),
      ⟨⟨hover.length, hover.done⟩, by simp, hlook⟩, Or.inr (hout hs (by simp))⟩
  | entriesDone hs hd =>
    rw [hs] at hst
    obtain ⟨hover, hlen, hlook⟩ := hst
    exact ⟨h.core.atStage rfl rfl, ⟨⟨hover.length, hover.done⟩, ⟨hlen, hd⟩, hlook⟩,
      Or.inr (hout hs (by simp))⟩
  | entriesUnflagged hs hc =>
    rw [hs] at hst
    obtain ⟨hover, heover, hlook⟩ := hst
    refine ⟨h.core.atStage rfl rfl, ?_, Or.inr (hout hs (by simp))⟩
    by_cases hn : t.generation = s.generation
    · have hstop : ¬t.Stops s := fun hstop => hstop.elim (by simp [hc]) fun hne => hne hn
      exact Or.inl ((h.core.complete hover heover hlook hstop).frame (.refl l g) rfl rfl)
    · exact Or.inr ⟨⟨hover.length, hover.done⟩, ⟨heover.length, heover.done⟩, hn⟩
  | entriesStopped hs => exact ⟨h.core.atStage rfl rfl, trivial, Or.inr (hout hs (by simp))⟩
  | entriesCleared hs hn =>
    rw [hs] at hst
    have hcomplete := Or.resolve_right hst fun hne => hne.2.2 hn
    exact ⟨h.core.atStage rfl rfl, hcomplete.frame (.refl l g) rfl rfl,
      Or.inr (hout hs (by simp))⟩
  | @completing a b hs =>
    rw [hs] at hst
    exact ⟨h.core.atStage (a.step_visited _) (a.step_total _),
      Scan.Complete.frame hst (.refl l g) (a.step_visited _) (a.step_total _),
      Or.inr (hout hs (by simp))⟩
  | @completed a hs =>
    rw [hs] at hst
    refine ⟨h.core.atStage (a.step_visited _) (a.step_total _), fun m hm => ?_,
      Or.inr (hout hs (by simp))⟩
    obtain rfl := Outcome.completed.inj hm
    exact ⟨Scan.Complete.frame hst (.refl l g) (a.step_visited _) (a.step_total _), rfl⟩
  | @yielding a b hs =>
    exact ⟨h.core.atStage (a.step_visited _) (a.step_total _), trivial,
      Or.inr (hout hs (by simp))⟩
  | @yielded a hs =>
    exact ⟨h.core.atStage (a.step_visited _) (a.step_total _), trivial,
      Or.inr (hout hs (by simp))⟩
  | @leaving a b hs =>
    exact ⟨h.core.atStage (a.step_visited _) (a.step_total _), trivial,
      Or.inr (hout hs (by simp))⟩
  | @departed a hs =>
    exact ⟨h.core.atStage (a.step_visited _) (a.step_total _), nofun, Or.inr (hout hs (by simp))⟩
  | finished hs =>
    rw [hs] at hst
    exact ⟨h.core.atStage rfl rfl, fun m hm => ⟨(hst m hm).1.frame (.refl l g) rfl rfl,
      (hst m hm).2⟩, Or.inr (hout hs (by simp))⟩
  | reported hs =>
    rw [hs] at hst
    refine ⟨h.core.atStage rfl rfl, fun m hm => ?_, Or.inl rfl⟩
    obtain ⟨hcomplete, hsum⟩ := hst m (Option.some.inj hm)
    exact ⟨hcomplete.frame (.refl l g) rfl rfl, hsum⟩

end KeyTrace
