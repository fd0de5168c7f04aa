import Gateway.Proofs.Lifecycle.Turns

/-!
# Positions of a run

A run that waits for a signal or a notice goes through few positions: the service is built and
started, it serves, it is stopped for one of the two reasons, and it has stopped or the deadline has
passed. A `Position` says all there is to know about a stage, apart from what is merely noted: where
the run stands and what it has published, how it failed and ended, its calls with their times
(`Position.view`), and what the agenda holds for it (`Position.core`).

A stage that looks like a position, on an agenda that holds what the position waits for and besides
only what it ignores, is said to fit it (`Position.Fits`). A run begins at one (`fits_first`).
-/

namespace Gateway.Lifecycle

variable {ε : Type}

/-! ### What is seen of a run -/

/-- Whether something is a call of the service or of its surroundings, or the end of the run. -/
def Observation.isMark : Observation ε → Bool
  | .start | .waiting | .stop _ | .finish => true
  | .created | .build | .signal | .notice | .stopped | .lingered => false

/-- Whether something may end a service. -/
def Observation.isTrigger : Observation ε → Bool
  | .signal | .notice => true
  | .created | .build | .start | .waiting | .stop _ | .stopped | .finish | .lingered => false

/-- A run, as far as it matters. -/
structure View (ε : Type) where
  phase : Phase
  published : List Phase
  failure : Option ε
  outcome : Option (Outcome ε)
  /-- The calls and the end of the run. -/
  marks : List (Event ε)
  /-- The signals and notices that found the service running. -/
  wins : List (Event ε)

namespace View

/-- The view after another phase is entered. -/
def enter (v : View ε) (phase : Phase) : View ε :=
  { v with phase := phase, published := v.published ++ [phase] }

/-- The view after a call, or after the end. -/
def mark (v : View ε) (now : Nat) (what : Observation ε) : View ε :=
  { v with marks := v.marks ++ [⟨what, now, v.phase⟩] }

/-- The view after a signal or a notice that found the service running. -/
def win (v : View ε) (now : Nat) (what : Observation ε) : View ε :=
  { v with wins := v.wins ++ [⟨what, now, .running⟩] }

end View

namespace Run

/-- What is seen of a run. -/
def view (r : Run ε) : View ε where
  phase := r.phase
  published := r.published
  failure := r.failure
  outcome := r.outcome
  marks := r.events.filter fun e => e.what.isMark
  wins := r.events.filter fun e => e.what.isTrigger && decide (e.phase = .running)

theorem view_enter (r : Run ε) (phase : Phase) : (r.enter phase).view = r.view.enter phase := rfl

theorem view_observe_mark (r : Run ε) (now : Nat) {what : Observation ε}
    (h : what.isMark = true) : (r.observe now what).view = r.view.mark now what := by
  have htrigger : what.isTrigger = false := by cases what <;> first | rfl | cases h
  simp [view, observe, View.mark, h, htrigger]

/-- What ends the wait is noted while the service runs. -/
theorem view_observe_trigger (r : Run ε) (now : Nat) {what : Observation ε}
    (h : what.isTrigger = true) (hphase : r.phase = .running) :
    (r.observe now what).view = r.view.win now what := by
  have hmark : what.isMark = false := by cases what <;> first | rfl | cases h
  simp [view, observe, View.win, h, hmark, hphase]

/-- Nothing else is seen. -/
theorem view_observe (r : Run ε) (now : Nat) {what : Observation ε} (hmark : what.isMark = false)
    (h : what.isTrigger = false ∨ r.phase ≠ .running) : (r.observe now what).view = r.view := by
  have hwin : (what.isTrigger && decide (r.phase = .running)) = false := by
    rcases h with h | h
    · rw [h, Bool.false_and]
    · rw [decide_eq_false h, Bool.and_false]
  simp [view, observe, hmark, hwin]

theorem view_ends (s : Script ε) (r : Run ε) (now : Nat) (outcome : Outcome ε) :
    (r.ends s now outcome).run.view = { r.view.mark now .finish with outcome := some outcome } := by
  have hview : ({ r with outcome := some outcome }.observe now .finish).view =
      { r.view.mark now .finish with outcome := some outcome } := view_observe_mark _ now rfl
  unfold ends
  cases s.linger with
  | none => exact hview
  | some time =>
    cases time with
    | zero => exact (view_observe _ now rfl (.inl rfl)).trans hview
    | succ time => exact hview

/-- Behind the end of a run, nothing but the end of the watch is added. -/
theorem eq_left_of_mem_ends (s : Script ε) (r : Run ε) (now : Nat) (outcome : Outcome ε) :
    ∀ e ∈ (r.ends s now outcome).next, e.2 = .left := by
  unfold ends
  cases s.linger with
  | none => exact fun _ he => absurd he List.not_mem_nil
  | some time =>
    cases time with
    | zero => exact fun _ he => absurd he List.not_mem_nil
    | succ time =>
      intro e he
      rw [List.mem_singleton.mp he]

end Run

/-! ### Positions -/

/-- What ended a service. -/
inductive Trigger where
  | signal
  | notice
  deriving DecidableEq, Repr

namespace Trigger

/-- The happening on the agenda. -/
def happening : Trigger → Happening
  | signal => .signalled
  | notice => .noticed

/-- The observation. -/
def what : Trigger → Observation ε
  | signal => .signal
  | notice => .notice

/-- The error behind it, which only a notice can give. -/
def failure (s : Script ε) : Trigger → Option ε
  | signal => none
  | notice => Run.noticeError s

end Trigger

/-- How long a stop takes, if it comes to an end. -/
def Stop.duration? : Stop → Option Nat
  | takes duration | breaksAfter duration => some duration
  | never => none

/-- A stop that comes to an end does so after its duration. -/
theorem Run.eq_of_mem_finishing {s : Script ε} {since : Nat} {e : Nat × Happening}
    (h : e ∈ Run.finishing s since) :
    ∃ d, s.stop.duration? = some d ∧ e.1 = since + d ∧ (e.2 = .finished ∨ e.2 = .broken) := by
  unfold Run.finishing at h
  split at h
  · next d hstop =>
    obtain rfl := List.mem_singleton.mp h
    exact ⟨d, by rw [hstop]; rfl, rfl, .inl rfl⟩
  · exact absurd h List.not_mem_nil
  · next d hstop =>
    obtain rfl := List.mem_singleton.mp h
    exact ⟨d, by rw [hstop]; rfl, rfl, .inr rfl⟩

namespace Script

/-- When the service runs, if it can be built and starts. -/
def servesAt (s : Script ε) : Nat := s.build.duration + s.start.duration

/-- Whether the service can be built and starts. -/
def Serves (s : Script ε) : Prop := s.build.error = none ∧ s.start.error = none

/-- What may end the service, with the times. -/
def triggers (s : Script ε) : Agenda :=
  match s.wait with
  | .none _ => []
  | .forEither signal notice => Run.triggers s.servesAt signal notice

/-- A trigger that comes at some time, and none comes before. -/
def Wins (s : Script ε) (t : Trigger) (since : Nat) : Prop :=
  (since, t.happening) ∈ s.triggers ∧ ∀ e ∈ s.triggers, since ≤ e.1

end Script

/-- When a service that missed the deadline was asked to stop: not yet, before the deadline passed,
or after it. -/
inductive Call where
  | pending
  | inTime
  | late
  deriving DecidableEq, Repr

/-- Where a run stands, with what led there. -/
inductive Position (ε : Type) where
  | building
  | unbuilt (error : ε)
  | launching
  | unstarted (error : ε)
  | serving
  | stopping (t : Trigger) (since : Nat) (isCalled : Bool)
  | stopped (t : Trigger) (since duration : Nat)
  | aborted (t : Trigger) (since : Nat) (call : Call)

/-- Whether something changes nothing behind the end of a run. -/
def Happening.IsIdle (h : Happening) : Prop := h ≠ .built ∧ h ≠ .started ∧ h ≠ .called

namespace Position

/-- Whether the run has ended. -/
def IsFinal : Position ε → Prop
  | unbuilt _ | unstarted _ | stopped _ _ _ | aborted _ _ _ => True
  | building | launching | serving | stopping _ _ _ => False

/-- The calls up to the one of the signal. -/
def served (s : Script ε) : List (Event ε) :=
  [⟨.start, s.build.duration, .starting⟩, ⟨.waiting, s.servesAt, .running⟩]

/-- The calls from then on, if the deadline passes. -/
def missed (s : Script ε) (t : Trigger) (since : Nat) : Call → List (Event ε)
  | .pending => [⟨.finish, since + s.deadline, .aborted⟩]
  | .inTime =>
    [⟨.stop (t.failure s), since, .stopping⟩, ⟨.finish, since + s.deadline, .aborted⟩]
  | .late => [⟨.finish, since + s.deadline, .aborted⟩, ⟨.stop (t.failure s), since, .aborted⟩]

/-- What is seen of a run in a position. -/
def view (s : Script ε) : Position ε → View ε
  | building => ⟨.starting, [.created, .starting], none, none, [], []⟩
  | unbuilt e =>
    ⟨.starting, [.created, .starting], none, some (.construction e),
      [⟨.finish, s.build.duration, .starting⟩], []⟩
  | launching =>
    ⟨.starting, [.created, .starting], none, none, [⟨.start, s.build.duration, .starting⟩], []⟩
  | unstarted e =>
    ⟨.starting, [.created, .starting], none, some (.start e),
      [⟨.start, s.build.duration, .starting⟩, ⟨.finish, s.servesAt, .starting⟩], []⟩
  | serving => ⟨.running, [.created, .starting, .running], none, none, served s, []⟩
  | stopping t since isCalled =>
    ⟨.stopping, [.created, .starting, .running, .stopping], t.failure s, none,
      served s ++ if isCalled then [⟨.stop (t.failure s), since, .stopping⟩] else [],
      [⟨t.what, since, .running⟩]⟩
  | stopped t since duration =>
    ⟨.stopped, [.created, .starting, .running, .stopping, .stopped], t.failure s,
      some (Run.outcomeOf (t.failure s)),
      served s ++ [⟨.stop (t.failure s), since, .stopping⟩,
        ⟨.finish, since + duration, .stopped⟩],
      [⟨t.what, since, .running⟩]⟩
  | aborted t since call =>
    ⟨.aborted, [.created, .starting, .running, .stopping, .aborted], t.failure s,
      some (.timeout s.deadline), served s ++ missed s t since call,
      [⟨t.what, since, .running⟩]⟩

/-- What a script must be like for a run to get to a position. -/
def Holds (s : Script ε) : Position ε → Prop
  | building => True
  | unbuilt e => s.build.error = some e
  | launching => s.build.error = none
  | unstarted e => s.build.error = none ∧ s.start.error = some e
  | serving => s.Serves
  | stopping t since _ => s.Serves ∧ s.Wins t since
  | stopped t since duration =>
    s.Serves ∧ s.Wins t since ∧ s.stop.duration? = some duration ∧ duration ≤ s.deadline
  | aborted t since call =>
    s.Serves ∧ s.Wins t since ∧ (∀ d, s.stop.duration? = some d → s.deadline ≤ d) ∧
      (call ≠ .inTime → s.deadline = 0)

/-- The happenings that a run waits for in a position. -/
def core (s : Script ε) : Position ε → Agenda
  | building => [(s.build.duration, .built)]
  | launching => [(s.servesAt, .started)]
  | serving => s.triggers
  | stopping _ since false => [(since + s.deadline, .expired), (since, .called)]
  | stopping _ since true => (since + s.deadline, .expired) :: Run.finishing s since
  | aborted _ since .pending => [(since, .called)]
  | aborted _ _ .inTime | aborted _ _ .late | unbuilt _ | unstarted _ | stopped _ _ _ => []

/-- The happenings that change nothing in a position. -/
def Ignores : Position ε → Happening → Prop
  | building, _ | launching, _ | serving, _ => False
  | stopping _ _ _, h => h = .signalled ∨ h = .noticed
  | unbuilt _, h | unstarted _, h | stopped _ _ _, h | aborted _ _ _, h => h.IsIdle

/-- A stage at a position. -/
structure Fits (s : Script ε) (st : Stage ε) (p : Position ε) : Prop where
  view : st.run.view = p.view s
  holds : p.Holds s
  agenda : ∃ rest, st.agenda.Perm (p.core s ++ rest) ∧ ∀ e ∈ rest, p.Ignores e.2
  isOver : st.isOver = true → p.IsFinal

/-- A run begins by building the service. -/
theorem fits_first (s : Script ε) : Fits s (.first s) .building where
  view := rfl
  holds := trivial
  agenda := ⟨[], .rfl, fun _ he => absurd he List.not_mem_nil⟩
  isOver h := by cases h

end Position

end Gateway.Lifecycle
