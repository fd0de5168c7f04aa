/-!
# Scripts of services

A service is built, started and stopped; while it runs, it may end by itself, and a signal may ask
it to end. A script says when each of these happens and how: it is the behaviour of a service and
of its surroundings, as far as the one who runs the service can tell. Times are in milliseconds.
-/

namespace Gateway.Lifecycle

variable {ε : Type}

/-- A step that takes some time and then fails or succeeds. -/
structure Step (ε : Type) where
  /-- How long the step takes. -/
  duration : Nat
  /-- The error that it fails with, if it fails. -/
  error : Option ε

/-- How a running service ends by itself. -/
inductive Ending (ε : Type) where
  /-- An error brings it down. -/
  | failed (error : ε)
  /-- It ends without an error. -/
  | clean
  /-- It drops the sender of the notice and says nothing. -/
  | dropped

/-- The error that brought a service down, if it gave one. -/
def Ending.error? : Ending ε → Option ε
  | failed e => some e
  | clean | dropped => none

instance : Coe (Option ε) (Ending ε) := ⟨fun error => error.elim .clean .failed⟩

/-- A notice of a running service that it has ended by itself. -/
structure Notice (ε : Type) where
  /-- How long after the start it comes. -/
  after : Nat
  /-- How the service ended. -/
  ending : Ending ε

/-- How a service stops. -/
inductive Stop where
  /-- It takes some time. -/
  | takes (duration : Nat)
  /-- It never finishes. -/
  | never
  /-- It breaks off after some time. -/
  | breaksAfter (duration : Nat)
  deriving DecidableEq, Repr

/-- A stop that breaks off at once. -/
abbrev Stop.breaks : Stop := .breaksAfter 0

/-- What ends a running service. -/
inductive Wait (ε : Type) where
  /-- Whichever comes first of a signal, some time after the start, and a notice of the service;
  either may never come. -/
  | forEither (signal : Option Nat) (notice : Option (Notice ε))
  /-- It is stopped as soon as it runs, for a given cause. -/
  | none (cause : Option ε)

/-- The behaviour of a service and its surroundings. -/
structure Script (ε : Type) where
  /-- How it is built. -/
  build : Step ε
  /-- How it starts. -/
  start : Step ε
  /-- What ends it. -/
  wait : Wait ε
  /-- How it stops. -/
  stop : Stop
  /-- How long a stop may take. -/
  deadline : Nat
  /-- How long it is watched after the end of the run, if it is. -/
  linger : Option Nat

/-- How long a stop may take unless a script says otherwise. -/
def defaultDeadline : Nat := 10000

end Gateway.Lifecycle
