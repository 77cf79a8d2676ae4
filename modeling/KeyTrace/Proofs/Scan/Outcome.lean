import KeyTrace.Proofs.Scan.Counting
import KeyTrace.Proofs.Scan.OneScan
import KeyTrace.Scan.Session

/-!
# Asking for an outcome

The outcome of a scan comes through a channel that takes one message. Who asks for it gets the
message if it is there. Without one the answer depends on whether the thread of the scan has let go
of its end of the channel: if so, the scan is said to be cancelled, and if not, that it still runs.
The thread lets go at some moment after it has sent the outcome, and the message can be taken only
once. So whoever asks again, after the outcome of a complete scan, may be told that it was
cancelled.

## Main definitions

* `Watch`, `Watch.step`: a tracker and what has been answered about one of its scans.
* `Scan.GaveUp`: a scan ends as cancelled.

## Main results

* `Tracker.stops_of_gaveUp`: a scan that gives up has been asked to stop.
* `Watch.outcomes_run`: what is answered about a scan in any run.
* `Watch.outcomes_plainRun`: a complete scan that is said to be cancelled.
-/

namespace KeyTrace

/-! ### Scans that give up -/

/-- Whether a scan at a stage is on its way to end as cancelled. -/
def Stage.givesUp : Stage → Bool
  | .yielding _ => true
  | .leaving _ => true
  | .finishing .cancelled => true
  | .reporting .cancelled => true
  | _ => false

variable {t : Tracker} {g : Nat} {s s' : Scan} {a : Action}

/-- A scan ends as cancelled, or has just done so. -/
def Scan.GaveUp (s : Scan) : Prop := s.stage.givesUp = true ∨ s.outcome = some .cancelled

namespace Scan.Move

/-- A scan begins to give up only if it has been asked to stop. -/
theorem gaveUp (hm : s.Move t g a s') (h : s'.GaveUp) : s.GaveUp ∨ t.Stops s := by
  cases hm with
  | same | flagged | advanced | file | entry | attempted => exact Or.inl h
  | taken => exact Or.inl (Or.inl (h.resolve_right nofun))
  | thread hm =>
    cases hm with
    | filesStopped _ hs | entriesStopped _ hs => exact Or.inr hs
    | yielding hst | yielded hst | leaving hst | departed hst =>
      exact Or.inl (Or.inl (by rw [hst]; rfl))
    | @finished o hst =>
      refine Or.inl (h.imp_left fun hgives => ?_)
      rw [hst]
      cases o with
      | completed => cases hgives
      | cancelled => rfl
    | reported hst =>
      obtain rfl := Option.some.inj (h.resolve_left nofun)
      exact Or.inl (Or.inl (by rw [hst]; rfl))
    | _ => exact Or.inl (Or.inr (h.resolve_left nofun))

end Scan.Move

namespace Tracker

variable (settings : ScanSettings) (entries : List Entry) (files : FileTree)
  (actions : List Action)

/-- **A scan that gives up has been asked to stop.** -/
theorem stops_of_gaveUp (hs : ((initial settings entries files).run actions).scans[g]? = some s)
    (h : s.GaveUp) : ((initial settings entries files).run actions).Stops s := by
  refine scan_induction (P := fun t s => s.GaveUp → t.Stops s) settings entries files ?_ ?_
    actions hs h
  · intro t settings r n s hnew h
    cases hnew with
    | queued => exact h.elim nofun nofun
    | unstarted => exact Or.inl rfl
  · intro l t a s s' hinv hm hstops h
    exact hm.stops hinv.core.bound ((hm.gaveUp h).elim hstops id)

/-- A scan that has been asked to stop stays so along a run. -/
theorem stops_run (hs : ((initial settings entries files).run actions).scans[g]? = some s)
    (h : ((initial settings entries files).run actions).Stops s) (more : List Action) :
    ∃ s', ((initial settings entries files).run (actions ++ more)).scans[g]? = some s' ∧
      ((initial settings entries files).run (actions ++ more)).Stops s' := by
  induction more using List.reverseRecOn with
  | nil => exact ⟨s, by rwa [List.append_nil], by rwa [List.append_nil]⟩
  | append_singleton more a ih =>
    obtain ⟨s₀, hs₀, h₀⟩ := ih
    have hb := ((inv_run settings entries files (actions ++ more)).scans hs₀).core.bound
    obtain ⟨s₁, hs₁, hm⟩ := scanMove hs₀ a
    rw [← List.append_assoc, run_append]
    exact ⟨s₁, hs₁, hm.stops hb h₀⟩

end Tracker

/-! ### Answers -/

/-- Whether an action takes the outcome of the scan at a position. -/
def Action.asks (g : Nat) : Action → Bool
  | .take j => j == g
  | _ => false

/-- A tracker whose scan at some position is watched. -/
structure Watch where
  tracker : Tracker
  /-- The thread of the scan has let go of its end of the channel. -/
  closed : Bool
  /-- What was answered to those who asked, in order. A call that waits asks until there is an
  outcome. -/
  answers : List (Option Outcome)

/-- What happens while a scan is watched. -/
inductive WatchEvent where
  | act (a : Action)
  /-- The thread lets go of the channel, which it can do once it is over. A thread that could not be
  started has let go before anybody can ask. -/
  | close

/-- The action of an event. -/
def WatchEvent.action? : WatchEvent → Option Action
  | .act a => some a
  | .close => none

namespace Watch

/-- What somebody is told who asks for the outcome of the scan at a position. -/
def answer? (w : Watch) (g : Nat) : Option Outcome :=
  (w.tracker.scans[g]?).bind fun s => s.outcome.or (if w.closed then some .cancelled else none)

/-- One event. -/
def step (w : Watch) (g : Nat) : WatchEvent → Watch
  | .act a =>
    { w with
      tracker := w.tracker.step a
      answers := if a.asks g then w.answers ++ [w.answer? g] else w.answers }
  | .close =>
    { w with closed := w.closed || (w.tracker.scans[g]?).any fun s => s.stage == .ended }

/-- Events one after the other, from a tracker on. -/
def run (t : Tracker) (g : Nat) (events : List WatchEvent) : Watch :=
  events.foldl (fun w e => w.step g e) ⟨t, false, []⟩

/-- The answers that give an outcome. -/
def outcomes (w : Watch) : List Outcome := w.answers.filterMap id

variable {w : Watch} {e : WatchEvent}

theorem answer?_eq (hs : w.tracker.scans[g]? = some s) :
    w.answer? g = s.outcome.or (if w.closed then some .cancelled else none) := by
  rw [answer?, hs]
  rfl

theorem outcomes_act (w : Watch) (g : Nat) (a : Action) :
    (w.step g (.act a)).outcomes =
      w.outcomes ++ if a.asks g then (w.answer? g).toList else [] := by
  simp only [step, outcomes]
  split
  · rw [List.filterMap_append]
    cases w.answer? g <;> rfl
  · rw [List.append_nil]

/-- In plain use a thread has let go of the channel as soon as it is over. -/
theorem take_eq_answer? (session : Session) (hs : session.tracker.scans[g]? = some s) :
    (session.take g).1 = answer? ⟨session.tracker, s.stage == .ended, []⟩ g := by
  rw [answer?_eq hs, Session.take, hs]
  cases ho : s.outcome with
  | some o => simp [ho]
  | none => simp [ho]

end Watch

/-- What can have been answered about a scan: nothing before it is over, then the outcome it was
`given`, and from then on only that it was cancelled. A scan without a thread was never given an
outcome, and is said to be cancelled from the beginning. -/
inductive Scan.Told (given : Outcome → Prop) (s : Scan) : Bool → List Outcome → Prop
  | waiting (hstage : s.stage ≠ .ended) (ho : s.outcome = none) : Told given s false []
  | ready {closed : Bool} {o : Outcome} (hstage : s.stage = .ended) (ho : s.outcome = some o) :
      Told given s closed []
  | told {closed : Bool} {o : Outcome} {n : Nat} (hstage : s.stage = .ended)
      (ho : s.outcome = none) (hgiven : given o) :
      Told given s closed (o :: List.replicate n .cancelled)
  | unstarted {closed : Bool} {n : Nat} (hstage : s.stage = .ended) (ho : s.outcome = none)
      (hc : s.cancelled = true) : Told given s closed (List.replicate n .cancelled)

namespace Scan.Told

variable {given given' : Outcome → Prop} {closed : Bool} {os : List Outcome}

theorem imp (h : s.Told given closed os) (himp : ∀ o, given o → given' o) :
    s.Told given' closed os := by
  cases h with
  | waiting hstage ho => exact .waiting hstage ho
  | ready hstage ho => exact .ready hstage ho
  | told hstage ho hgiven => exact .told hstage ho (himp _ hgiven)
  | unstarted hstage ho hc => exact .unstarted hstage ho hc

theorem congr (h : s.Told given closed os) (hstage : s'.stage = s.stage)
    (ho : s'.outcome = s.outcome) (hc : s.cancelled = true → s'.cancelled = true) :
    s'.Told given closed os := by
  cases h with
  | waiting hst hnone => exact .waiting (hstage ▸ hst) (ho.trans hnone)
  | ready hst hsome => exact .ready (hstage.trans hst) (ho.trans hsome)
  | told hst hnone hgiven => exact .told (hstage.trans hst) (ho.trans hnone) hgiven
  | unstarted hst hnone hflag => exact .unstarted (hstage.trans hst) (ho.trans hnone) (hc hflag)

/-- The thread of a scan that is over takes no more steps. -/
theorem thread (h : s.Told given closed os) (hm : s.ThreadMove t s') : s'.Told given closed os := by
  have hne : s.stage ≠ .ended := by
    intro hended
    cases hm with
    | _ hst => cases hended.symm.trans hst
  cases h with
  | ready hst | told hst | unstarted hst => exact absurd hst hne
  | waiting _ ho =>
    cases hm with
    | reported => exact .ready rfl rfl
    | _ => exact .waiting nofun ho

/-- A step that does not take the outcome. -/
theorem move (h : s.Told given closed os) (hm : s.Move t g a s') (ha : a.asks g = false) :
    s'.Told given closed os := by
  cases hm with
  | same => exact h
  | flagged => exact h.congr rfl rfl fun _ => rfl
  | advanced | file | entry | attempted => exact h.congr rfl rfl id
  | thread hm => exact h.thread hm
  | taken => simp [Action.asks] at ha

/-- **Whoever asks first is told the outcome**, and whoever asks later is told that the scan was
cancelled, once the channel is closed. -/
theorem taken (h : s.Told given closed os) (hgiven : ∀ o, s.outcome = some o → given o) :
    Told given { s with outcome := none } closed
      (os ++ (s.outcome.or (if closed then some .cancelled else none)).toList) := by
  cases h with
  | waiting hstage ho =>
    rw [ho]
    exact .waiting hstage rfl
  | @ready _ o hstage ho =>
    rw [ho]
    exact .told (n := 0) hstage rfl (hgiven o ho)
  | @told _ o n hstage ho hgiven =>
    rw [ho]
    cases closed with
    | false =>
      rw [if_neg (by simp), Option.or_none, Option.toList_none, List.append_nil]
      exact .told hstage rfl hgiven
    | true =>
      have hmore : o :: List.replicate n .cancelled ++ [.cancelled] =
          o :: List.replicate (n + 1) .cancelled := by
        rw [List.cons_append, ← List.replicate_succ']
      rw [if_pos rfl, Option.none_or, Option.toList_some, hmore]
      exact .told hstage rfl hgiven
  | @unstarted _ n hstage ho hc =>
    rw [ho]
    cases closed with
    | false =>
      rw [if_neg (by simp), Option.or_none, Option.toList_none, List.append_nil]
      exact .unstarted hstage rfl hc
    | true =>
      rw [if_pos rfl, Option.none_or, Option.toList_some, ← List.replicate_succ']
      exact .unstarted hstage rfl hc

/-- The channel is closed once the scan is over. -/
theorem close (h : s.Told given closed os) : s.Told given (closed || s.stage == .ended) os := by
  cases h with
  | waiting hstage ho =>
    rw [beq_eq_false_iff_ne.2 hstage]
    exact .waiting hstage ho
  | ready hstage ho => exact .ready hstage ho
  | told hstage ho hgiven => exact .told hstage ho hgiven
  | unstarted hstage ho hc => exact .unstarted hstage ho hc

end Scan.Told

namespace Watch

variable {w : Watch} {given : Outcome → Prop}

/-- What has been answered fits the scan that is watched, if it is there. -/
structure Sound (given : Outcome → Prop) (g : Nat) (w : Watch) : Prop where
  absent : w.tracker.scans[g]? = none → w.closed = false ∧ w.outcomes = []
  told : ∀ {s}, w.tracker.scans[g]? = some s → s.Told given w.closed w.outcomes

/-- **Each step keeps the answers sound.** -/
theorem Sound.act (h : Sound given g w)
    (hgiven : ∀ s o, w.tracker.scans[g]? = some s → s.outcome = some o → given o) (a : Action) :
    Sound given g (w.step g (.act a)) := by
  cases hs : w.tracker.scans[g]? with
  | none =>
    obtain ⟨hclosed, hnil⟩ := h.absent hs
    have hnil' : (w.step g (.act a)).outcomes = [] := by
      rw [outcomes_act, hnil, answer?, hs]
      simp
    refine ⟨fun _ => ⟨hclosed, hnil'⟩, fun {s'} hs' => ?_⟩
    obtain ⟨r, n, hnew⟩ := Tracker.isNew_of_step hs hs'
    rw [hnil', show (w.step g (.act a)).closed = false from hclosed]
    cases hnew with
    | queued => exact .waiting nofun rfl
    | unstarted => exact .unstarted (n := 0) rfl rfl rfl
  | some s =>
    obtain ⟨s', hs', hm⟩ := Tracker.scanMove hs a
    refine ⟨fun hnone => (nomatch hs'.symm.trans hnone), fun {s''} hs'' => ?_⟩
    obtain rfl : s' = s'' := Option.some.inj (hs'.symm.trans hs'')
    rw [outcomes_act]
    cases ha : a.asks g with
    | false =>
      rw [if_neg (by simp), List.append_nil]
      exact (h.told hs).move hm ha
    | true =>
      rw [if_pos rfl, answer?_eq hs]
      have htaken := (h.told hs).taken fun o => hgiven s o hs
      cases hm with
      | taken => exact htaken
      | same hne =>
        cases a with
        | take j => exact absurd (congrArg Action.take (beq_iff_eq.1 ha)) hne
        | _ => cases ha
      | _ => cases ha

theorem Sound.close (h : Sound given g w) : Sound given g (w.step g .close) where
  absent hnone := by
    have hnone : w.tracker.scans[g]? = none := hnone
    refine ⟨?_, (h.absent hnone).2⟩
    rw [step, hnone, (h.absent hnone).1]
    rfl
  told {s} hs := by
    have hs : w.tracker.scans[g]? = some s := hs
    have hclosed : (w.step g .close).closed = (w.closed || s.stage == .ended) := by
      rw [step, hs]
      rfl
    rw [hclosed]
    exact (h.told hs).close

theorem run_concat (t : Tracker) (g : Nat) (events : List WatchEvent) (e : WatchEvent) :
    run t g (events ++ [e]) = (run t g events).step g e := by
  simp [run]

theorem tracker_run (t : Tracker) (g : Nat) (events : List WatchEvent) :
    (run t g events).tracker = t.run (events.filterMap WatchEvent.action?) := by
  induction events using List.reverseRecOn with
  | nil => rfl
  | append_singleton events e ih =>
    rw [run_concat, List.filterMap_append, Tracker.run_append, ← ih]
    cases e <;> rfl

/-- The scan at a position has handed over an outcome at some moment of a run. -/
def Given (t : Tracker) (actions : List Action) (g : Nat) (o : Outcome) : Prop :=
  ∃ before, before <+: actions ∧ ∃ s, (t.run before).scans[g]? = some s ∧ s.outcome = some o

variable (settings : ScanSettings) (entries : List Entry) (files : FileTree) (g : Nat)

/-- What has been answered after a run. -/
theorem sound_run (events : List WatchEvent) :
    Sound (Given (.initial settings entries files) (events.filterMap WatchEvent.action?) g) g
      (run (.initial settings entries files) g events) := by
  induction events using List.reverseRecOn with
  | nil => exact ⟨fun _ => ⟨rfl, rfl⟩, nofun⟩
  | append_singleton events e ih =>
    have hprefix : events.filterMap WatchEvent.action? <+:
        (events ++ [e]).filterMap WatchEvent.action? := by
      rw [List.filterMap_append]
      exact List.prefix_append _ _
    have hlater : Sound (Given (.initial settings entries files)
        ((events ++ [e]).filterMap WatchEvent.action?) g) g
        (run (.initial settings entries files) g events) :=
      ⟨ih.absent, fun hs => (ih.told hs).imp fun o ⟨before, hbefore, hgiven⟩ =>
        ⟨before, hbefore.trans hprefix, hgiven⟩⟩
    rw [run_concat]
    cases e with
    | close => exact hlater.close
    | act a =>
      refine hlater.act (fun s o hs ho => ⟨_, hprefix, s, ?_, ho⟩) a
      rwa [← tracker_run]

/-- An outcome that a scan has handed over is a summary of all it has done, unless it was asked to
stop. -/
theorem Given.delivers {actions : List Action} {o : Outcome}
    (h : Given (.initial settings entries files) actions g o) :
    (∃ m, o = .completed m ∧
      ((Tracker.initial settings entries files).run actions).Delivers g m) ∨
    o = .cancelled ∧ ∃ s,
      ((Tracker.initial settings entries files).run actions).scans[g]? = some s ∧
      ((Tracker.initial settings entries files).run actions).Stops s := by
  obtain ⟨before, ⟨more, rfl⟩, s, hs, ho⟩ := h
  cases o with
  | completed m =>
    refine Or.inl ⟨m, rfl, Tracker.delivers_of_handsOver settings entries files _ ?_⟩
    exact ⟨before.length, s, by rwa [List.take_left], ho⟩
  | cancelled =>
    have hstops := Tracker.stops_of_gaveUp settings entries files before hs (Or.inr ho)
    exact Or.inr ⟨rfl, Tracker.stops_run settings entries files before hs hstops more⟩

/-- **What is answered about a scan.** Nobody is told an outcome, or one is told, once, and all who
are told one later are told that the scan was cancelled. The first outcome is the summary of all
the scan has done, unless the scan was asked to stop, by its own flag or by a later scan. After it,
the next answer depends only on whether the channel is closed. -/
theorem outcomes_run (events : List WatchEvent) :
    ((run (.initial settings entries files) g events).outcomes = [] ∨
      ∃ o n, (run (.initial settings entries files) g events).outcomes =
          o :: List.replicate n .cancelled ∧
        ((∃ m, o = .completed m ∧
            (run (.initial settings entries files) g events).tracker.Delivers g m) ∨
          o = .cancelled ∧ ∃ s,
            (run (.initial settings entries files) g events).tracker.scans[g]? = some s ∧
            (run (.initial settings entries files) g events).tracker.Stops s)) ∧
    ((run (.initial settings entries files) g events).outcomes ≠ [] →
      (run (.initial settings entries files) g events).answer? g =
        if (run (.initial settings entries files) g events).closed then some .cancelled
        else none) := by
  have hsound := sound_run settings entries files g events
  generalize hw : run (.initial settings entries files) g events = w at hsound ⊢
  have htracker : w.tracker =
      (Tracker.initial settings entries files).run (events.filterMap WatchEvent.action?) := by
    rw [← hw, tracker_run]
  cases hs : w.tracker.scans[g]? with
  | none =>
    have hnil := (hsound.absent hs).2
    exact ⟨Or.inl hnil, fun hne => absurd hnil hne⟩
  | some s =>
    have htold := hsound.told hs
    generalize hos : w.outcomes = os at htold ⊢
    generalize hclosed : w.closed = closed at htold ⊢
    cases htold with
    | waiting | ready => exact ⟨Or.inl rfl, fun hne => absurd rfl hne⟩
    | told _ ho hgiven =>
      refine ⟨Or.inr ⟨_, _, rfl, ?_⟩, fun _ => ?_⟩
      · rw [← hs, htracker]
        exact hgiven.delivers
      · rw [answer?_eq hs, ho, hclosed, Option.none_or]
    | @unstarted _ n _ ho hc =>
      refine ⟨?_, fun _ => ?_⟩
      · cases n with
        | zero => exact Or.inl rfl
        | succ n =>
          exact Or.inr ⟨.cancelled, n, List.replicate_succ, Or.inr ⟨rfl, s, rfl, Or.inl hc⟩⟩
      · rw [answer?_eq hs, ho, hclosed, Option.none_or]

/-- A scan that completes, is asked for its outcome, lets go of the channel and is asked again. -/
def plainEvents : List WatchEvent :=
  Tracker.plainRun.map .act ++ [.act (.take 0), .close, .act (.take 0)]

/-- **A complete scan that is said to be cancelled.** Nobody has cancelled it and no other scan has
begun; still the second answer is not the first one. -/
theorem outcomes_plainRun :
    (run (.initial .standard [⟨"", "a"⟩] ⟨[(["f.t"], .file [97])], []⟩) 0 plainEvents).outcomes =
      [.completed ⟨1, 0, 1, 1⟩, .cancelled] ∧
    ((run (.initial .standard [⟨"", "a"⟩] ⟨[(["f.t"], .file [97])], []⟩) 0
      plainEvents).tracker.scans[0]?).map (fun s => (s.cancelled, s.generation)) =
        some (false, 1) ∧
    (run (.initial .standard [⟨"", "a"⟩] ⟨[(["f.t"], .file [97])], []⟩) 0
      plainEvents).tracker.generation = 1 := by
  refine ⟨?_, ?_, ?_⟩
  · decide +kernel
  · decide +kernel
  · decide +kernel

end Watch

end KeyTrace
