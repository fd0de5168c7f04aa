import Gateway.Lifecycle.Script
import Gateway.Number.Duration

/-!
# Runs of services

A run builds and starts a service, waits until a signal or the service itself ends it, and stops
it within a deadline. It moves through phases, which others can watch: from `created` over
`starting`, `running` and `stopping` to `stopped` or, if the deadline passes first, to `aborted`.
A stop that misses the deadline is not broken off.

The run is a machine that reacts to happenings. Each happening is on the agenda with its time; the
earliest one is next, and of several the one that was put there first. A happening brings about
only such ones as are nearer to the end of a run, so that the agenda runs empty.
-/

namespace Gateway.Lifecycle

variable {ε : Type}

/-! ### Phases, events and outcomes -/

/-- Where a run stands. -/
inductive Phase where
  /-- The run was set up. -/
  | created
  /-- The service is being built or started. -/
  | starting
  /-- The service runs until something ends the wait. -/
  | running
  /-- The service is told to stop. -/
  | stopping
  /-- The stop finished. -/
  | stopped
  /-- The deadline passed before the stop finished. -/
  | aborted
  deriving DecidableEq, Repr

/-- The name of a phase. -/
def Phase.name : Phase → String
  | created => "created"
  | starting => "starting"
  | running => "running"
  | stopping => "stopping"
  | stopped => "stopped"
  | aborted => "aborted"

/-- What can be observed of a run. -/
inductive Observation (ε : Type) where
  /-- The run was set up. -/
  | created
  /-- The service is asked for. -/
  | build
  /-- The service is asked to start. -/
  | start
  /-- The run begins to wait for the signal. -/
  | waiting
  /-- The signal comes. -/
  | signal
  /-- The service ends by itself. -/
  | notice
  /-- The service is asked to stop, because of an error if there was one. -/
  | stop (cause : Option ε)
  /-- The stop of the service finishes. -/
  | stopped
  /-- The run ends. -/
  | finish
  /-- The service is no longer watched. -/
  | lingered

/-- An observation with its time and the phase at that moment. -/
structure Event (ε : Type) where
  /-- What was observed. -/
  what : Observation ε
  /-- When it was observed. -/
  time : Nat
  /-- Where the run stood. -/
  phase : Phase

/-- How a run ends. -/
inductive Outcome (ε : Type) where
  /-- The service could not be built. -/
  | construction (error : ε)
  /-- The service did not start. -/
  | start (error : ε)
  /-- The service stopped after it had failed. -/
  | runtime (error : ε)
  /-- The service did not stop in time. -/
  | timeout (deadline : Nat)
  /-- The service stopped. -/
  | clean

/-- The wording of an outcome that is a failure. -/
def Outcome.message (describe : ε → String) : Outcome ε → String
  | construction e => "Failed to initialize server: " ++ describe e
  | start e => "Failed to start server: " ++ describe e
  | runtime e => "Server stopped with an error: " ++ describe e
  | timeout deadline => "Shutdown timed out after " ++ Duration.toString deadline
  | clean => ""

/-! ### Happenings -/

/-- What can happen in a run. -/
inductive Happening where
  /-- Building ends. -/
  | built
  /-- Starting ends. -/
  | started
  /-- The signal comes. -/
  | signalled
  /-- The service ends by itself. -/
  | noticed
  /-- The deadline of the stop passes. -/
  | expired
  /-- The service begins to stop. -/
  | called
  /-- The stop finishes. -/
  | finished
  /-- The stop breaks off. -/
  | broken
  /-- The service is no longer watched. -/
  | left
  deriving DecidableEq, Repr

/-- How far a happening is from the end of a run: farther than all that it brings about. -/
def Happening.weight : Happening → Nat
  | built => 30
  | started => 28
  | signalled => 12
  | noticed => 12
  | expired => 2
  | called => 4
  | finished => 2
  | broken => 2
  | left => 1

/-- The happenings to come with their times, the next one first. -/
abbrev Agenda := List (Nat × Happening)

namespace Agenda

/-- How far an agenda is from the end of a run. -/
def weight : Agenda → Nat
  | [] => 0
  | e :: rest => e.2.weight + weight rest

/-- Puts a happening on an agenda, behind those of the same time. -/
def add (time : Nat) (h : Happening) : Agenda → Agenda
  | [] => [(time, h)]
  | (t, g) :: rest => if t ≤ time then (t, g) :: add time h rest else (time, h) :: (t, g) :: rest

/-- Puts several happenings on an agenda. -/
def addAll (a : Agenda) (es : List (Nat × Happening)) : Agenda :=
  es.foldl (fun a e => Agenda.add e.1 e.2 a) a

/-- A happening adds its own weight to an agenda, wherever it is put. -/
theorem weight_add (a : Agenda) (time : Nat) (h : Happening) :
    (add time h a).weight = a.weight + h.weight := by
  induction a with
  | nil => simp [add, weight]
  | cons e rest ih =>
    obtain ⟨t, g⟩ := e
    unfold add
    split
    · simp only [weight] at ih ⊢
      omega
    · simp only [weight]
      omega

theorem weight_addAll (a : Agenda) (es : List (Nat × Happening)) :
    (a.addAll es).weight = a.weight + Agenda.weight es := by
  induction es generalizing a with
  | nil => simp [addAll, weight]
  | cons e es ih =>
    have hrest := ih (add e.1 e.2 a)
    simp only [addAll, List.foldl_cons, weight] at hrest ⊢
    rw [hrest, weight_add]
    omega

end Agenda

/-! ### Reactions -/

/-- A run between two happenings. -/
structure Run (ε : Type) where
  /-- Where it stands. -/
  phase : Phase
  /-- The phases that others could watch so far, the present one last. -/
  published : List Phase
  /-- The error that made it stop, if there was one. -/
  failure : Option ε
  /-- How it ended, if it has. -/
  outcome : Option (Outcome ε)
  /-- What has been observed so far, in its order. -/
  events : List (Event ε)

/-- What a happening makes of a run. -/
structure Reaction (ε : Type) where
  /-- The run behind the happening. -/
  run : Run ε
  /-- What the happening brings about. -/
  next : List (Nat × Happening)
  /-- Whether nothing more is watched. -/
  isOver : Bool

namespace Run

/-- The run with one more observation. -/
def observe (r : Run ε) (now : Nat) (what : Observation ε) : Run ε :=
  { r with events := r.events ++ [⟨what, now, r.phase⟩] }

/-- The run in another phase. -/
def enter (r : Run ε) (phase : Phase) : Run ε :=
  { r with phase := phase, published := r.published ++ [phase] }

/-- Nothing follows at once. -/
def continues (r : Run ε) (next : List (Nat × Happening)) : Reaction ε := ⟨r, next, false⟩

/-- The run ends; it may still be watched for some time. -/
def ends (s : Script ε) (r : Run ε) (now : Nat) (outcome : Outcome ε) : Reaction ε :=
  let r := { r with outcome := some outcome }.observe now .finish
  match s.linger with
  | none => ⟨r, [], true⟩
  | some 0 => ⟨r.observe now .lingered, [], true⟩
  | some time => ⟨r, [(now + time, .left)], false⟩

/-- The run begins to stop the service, because of an error if there was one. -/
def stops (s : Script ε) (r : Run ε) (now : Nat) (failure : Option ε) : Reaction ε :=
  { r.enter .stopping with failure := failure }.continues
    [(now + s.deadline, .expired), (now, .called)]

/-- How a run ends whose service has stopped. -/
def outcomeOf (failure : Option ε) : Outcome ε :=
  match failure with
  | none => .clean
  | some e => .runtime e

/-- The run after its service has stopped, unless it has ended already. -/
def settles (s : Script ε) (r : Run ε) (now : Nat) : Reaction ε :=
  if r.phase = .stopping then (r.enter .stopped).ends s now (outcomeOf r.failure)
  else r.continues []

/-- What may end a service that began to run at some time. -/
def triggers (since : Nat) (signal : Option Nat) (notice : Option (Notice ε)) :
    List (Nat × Happening) :=
  (signal.map fun t => (since + t, .signalled)).toList ++
    (notice.map fun n => (since + n.after, .noticed)).toList

/-- The run after its service has started. -/
def serves (s : Script ε) (r : Run ε) (now : Nat) : Reaction ε :=
  match s.wait with
  | .none cause => (r.enter .running).stops s now cause
  | .forEither signal notice =>
    ((r.enter .running).observe now .waiting).continues (triggers now signal notice)

/-- The error that a service gives notice of. -/
def noticeError (s : Script ε) : Option ε :=
  match s.wait with
  | .none _ => none
  | .forEither _ notice => notice.bind fun n => n.ending.error?

/-- How a stop that began at some time comes to its end, if it does. -/
def finishing (s : Script ε) (since : Nat) : List (Nat × Happening) :=
  match s.stop with
  | .takes duration => [(since + duration, .finished)]
  | .never => []
  | .breaksAfter duration => [(since + duration, .broken)]

/-- What a happening makes of a run. -/
def react (s : Script ε) (r : Run ε) (now : Nat) : Happening → Reaction ε
  | .built =>
    match s.build.error with
    | some e => r.ends s now (.construction e)
    | none => (r.observe now .start).continues [(now + s.start.duration, .started)]
  | .started =>
    match s.start.error with
    | some e => r.ends s now (.start e)
    | none => r.serves s now
  | .signalled =>
    if r.phase = .running then (r.observe now .signal).stops s now none else r.continues []
  | .noticed =>
    if r.phase = .running then (r.observe now .notice).stops s now (noticeError s)
    else (r.observe now .notice).continues []
  | .expired =>
    if r.phase = .stopping then (r.enter .aborted).ends s now (.timeout s.deadline)
    else r.continues []
  | .called =>
    (r.observe now (.stop r.failure)).continues (finishing s now)
  | .finished => (r.observe now .stopped).settles s now
  | .broken => r.settles s now
  | .left => ⟨r.observe now .lingered, [], true⟩

/-- A happening brings about only what is nearer to the end. -/
theorem weight_react (s : Script ε) (r : Run ε) (now : Nat) (h : Happening) :
    Agenda.weight (react s r now h).next < h.weight := by
  have ends (r : Run ε) (o : Outcome ε) :
      Agenda.weight (r.ends s now o).next ≤ 1 := by
    unfold Run.ends
    split <;> simp [Agenda.weight, Happening.weight]
  have stops (r : Run ε) (f : Option ε) :
      Agenda.weight (r.stops s now f).next = 6 := by
    simp [Run.stops, continues, Agenda.weight, Happening.weight]
  have settles (r : Run ε) : Agenda.weight (r.settles s now).next ≤ 1 := by
    unfold Run.settles
    split
    · exact ends _ _
    · simp [continues, Agenda.weight]
  have serves (r : Run ε) : Agenda.weight (r.serves s now).next ≤ 24 := by
    cases hw : s.wait with
    | none cause => simp [Run.serves, hw, stops]
    | forEither signal notice =>
      cases signal <;> cases notice <;>
        simp [Run.serves, hw, continues, triggers, Agenda.weight, Happening.weight]
  cases h with
  | built =>
    simp only [react]
    split
    · exact Nat.lt_of_le_of_lt (ends _ _) (by decide)
    · simp [continues, Agenda.weight, Happening.weight]
  | started =>
    simp only [react]
    split
    · exact Nat.lt_of_le_of_lt (ends _ _) (by decide)
    · exact Nat.lt_of_le_of_lt (serves _) (by decide)
  | signalled =>
    simp only [react]
    split
    · rw [stops]
      decide
    · simp [continues, Agenda.weight, Happening.weight]
  | noticed =>
    simp only [react]
    split
    · rw [stops]
      decide
    · simp [continues, Agenda.weight, Happening.weight]
  | expired =>
    simp only [react]
    split
    · exact Nat.lt_of_le_of_lt (ends _ _) (by decide)
    · simp [continues, Agenda.weight, Happening.weight]
  | called =>
    simp only [react, continues, finishing]
    split <;> simp [Agenda.weight, Happening.weight]
  | finished => exact Nat.lt_of_le_of_lt (settles _) (by decide)
  | broken => exact Nat.lt_of_le_of_lt (settles _) (by decide)
  | left => simp [react, Agenda.weight, Happening.weight]

/-- Reacts to the happenings on an agenda until it is empty or nothing more is watched. -/
def goOn (s : Script ε) (r : Run ε) (agenda : Agenda) : Run ε :=
  match agenda with
  | [] => r
  | (now, h) :: rest =>
    let reaction := react s r now h
    if reaction.isOver then reaction.run
    else goOn s reaction.run (Agenda.addAll rest reaction.next)
termination_by Agenda.weight agenda
decreasing_by
  have less := weight_react s r now h
  rw [Agenda.weight_addAll]
  simp only [Agenda.weight]
  omega

/-- A run that is set up. -/
def start : Run ε := ⟨.created, [.created], none, none, []⟩

/-- A run that has begun: the service is being built. -/
def begun : Run ε := ((start.observe 0 .created).enter .starting).observe 0 .build

end Run

/-- The run of a service, from its building to the end of all that is watched. -/
def run (s : Script ε) : Run ε := Run.begun.goOn s [(s.build.duration, .built)]

end Gateway.Lifecycle
