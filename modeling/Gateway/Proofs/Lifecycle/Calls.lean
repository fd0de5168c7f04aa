import Mathlib.Logic.Basic
import Gateway.Proofs.Lifecycle.Phases

/-!
# The calls of a run

A run makes three calls: it asks the service to start, it begins to wait for the signal, and it asks
the service to stop. With a deadline above zero they are made in this order, each at most once and
in its phase, and the stop is asked for just if the service ran and something ended it
(`calls_of_run`). What a stop is told is decided by the race between the signal and the notice
(`Won`).
-/

namespace Gateway.Lifecycle

variable {ε : Type} {s : Script ε}

/-- Whether something is a call. -/
def Observation.isCall : Observation ε → Bool
  | .start | .waiting | .stop _ => true
  | .created | .build | .signal | .notice | .stopped | .finish | .lingered => false

/-- The calls of a run, in their order. -/
def Run.calls (r : Run ε) : List (Event ε) := r.events.filter fun e => e.what.isCall

/-- The signals and notices that found the service running. -/
def Run.wins (r : Run ε) : List (Event ε) :=
  r.events.filter fun e => e.what.isTrigger && decide (e.phase = .running)

/-- All calls of a run that stops its service at some time, for some cause. -/
def Script.calls (s : Script ε) (cause : Option ε) (since : Nat) : List (Event ε) :=
  [⟨.start, s.build.duration, .starting⟩, ⟨.waiting, s.servesAt, .running⟩,
    ⟨.stop cause, since, .stopping⟩]

/-- How the race between a signal and a notice may end for a service that runs since some time, with
the cause that the stop is told. The winner does not come after the other one. -/
inductive Won (signal : Option Nat) (notice : Option (Notice ε)) (since : Nat) :
    Event ε → Option ε → Prop
  /-- The signal comes. -/
  | signal {t : Nat} (hsignal : signal = some t) (hfirst : ∀ n, notice = some n → t ≤ n.after) :
    Won signal notice since ⟨.signal, since + t, .running⟩ none
  /-- The service ends by itself, with an error. -/
  | failed {n : Notice ε} {e : ε} (hnotice : notice = some n) (hending : n.ending = .failed e)
    (hfirst : ∀ t, signal = some t → n.after ≤ t) :
    Won signal notice since ⟨.notice, since + n.after, .running⟩ (some e)
  /-- The service ends by itself, without an error. -/
  | clean {n : Notice ε} (hnotice : notice = some n) (hending : n.ending = .clean)
    (hfirst : ∀ t, signal = some t → n.after ≤ t) :
    Won signal notice since ⟨.notice, since + n.after, .running⟩ none
  /-- The service is gone without a word. -/
  | dropped {n : Notice ε} (hnotice : notice = some n) (hending : n.ending = .dropped)
    (hfirst : ∀ t, signal = some t → n.after ≤ t) :
    Won signal notice since ⟨.notice, since + n.after, .running⟩ none

/-- The trigger that comes first wins the race. -/
theorem won_of_wins {signal : Option Nat} {notice : Option (Notice ε)}
    (hwait : s.wait = .forEither signal notice) {t : Trigger} {since : Nat} (h : s.Wins t since) :
    Won signal notice s.servesAt ⟨t.what, since, .running⟩ (t.failure s) := by
  obtain ⟨hmem, hfirst⟩ := h
  have htriggers : s.triggers = Run.triggers s.servesAt signal notice := by
    simp only [Script.triggers, hwait]
  have hfailure : Run.noticeError s = notice.bind fun n => n.ending.error? := by
    simp only [Run.noticeError, hwait]
  have hsignal {t : Nat} (ht : signal = some t) : since ≤ s.servesAt + t := by
    refine hfirst (s.servesAt + t, .signalled) ?_
    rw [htriggers, ht]
    exact List.mem_append_left _ (List.mem_singleton_self _)
  have hnotice {n : Notice ε} (hn : notice = some n) : since ≤ s.servesAt + n.after := by
    refine hfirst (s.servesAt + n.after, .noticed) ?_
    rw [htriggers, hn]
    exact List.mem_append_right _ (List.mem_singleton_self _)
  -- the winner is the signal or the notice, and not after the other
  rw [htriggers] at hmem
  rcases List.mem_append.mp hmem with hmem | hmem
  · obtain ⟨u, hu, heq⟩ := Option.map_eq_some_iff.mp (Option.mem_toList.mp hmem)
    obtain ⟨rfl, hkind⟩ := Prod.mk.inj heq
    cases t with
    | notice => cases hkind
    | signal => exact .signal hu fun n hn => Nat.le_of_add_le_add_left (hnotice hn)
  · obtain ⟨n, hn, heq⟩ := Option.map_eq_some_iff.mp (Option.mem_toList.mp hmem)
    obtain ⟨rfl, hkind⟩ := Prod.mk.inj heq
    have hle : ∀ t, signal = some t → n.after ≤ t := fun t ht =>
      Nat.le_of_add_le_add_left (hsignal ht)
    cases t with
    | signal => cases hkind
    | notice =>
      have hcause : Trigger.notice.failure s = n.ending.error? := by
        rw [Trigger.failure, hfailure, hn]
        rfl
      rw [hcause]
      cases hending : n.ending with
      | failed e => exact .failed hn hending hle
      | clean => exact .clean hn hending hle
      | dropped => exact .dropped hn hending hle

namespace Position

/-- How many calls were made in a position, if a deadline above zero leaves time for them. -/
def callCount : Position ε → Nat
  | building | unbuilt _ => 0
  | launching | unstarted _ => 1
  | serving | stopping _ _ false => 2
  | stopping _ _ true | stopped _ _ _ | aborted _ _ _ => 3

/-- The cause of the stop and its time; before there is a trigger, any will do. -/
def stopCall (s : Script ε) : Position ε → Option ε × Nat
  | building | unbuilt _ | launching | unstarted _ | serving => (none, 0)
  | stopping t since _ | stopped t since _ | aborted t since _ => (t.failure s, since)

/-- The calls of a position are the first of all calls. -/
private theorem filter_marks {p : Position ε} (hp : p.Holds s) (hdeadline : 0 < s.deadline) :
    (p.view s).marks.filter (fun e => e.what.isCall) =
      (s.calls (p.stopCall s).1 (p.stopCall s).2).take p.callCount := by
  cases p with
  | building | unbuilt | launching | unstarted | serving | stopped => rfl
  | stopping t since isCalled => cases isCalled <;> rfl
  | aborted t since call =>
    cases call with
    | inTime => rfl
    -- the deadline would have passed before the call
    | pending | late => exact absurd (hp.2.2.2 nofun) (Nat.ne_of_gt hdeadline)

private theorem build_of_callCount {p : Position ε} (hp : p.Holds s) (h : 1 ≤ p.callCount) :
    s.build.error = none := by
  cases p with
  | building | unbuilt e => cases h
  | launching => exact hp
  | unstarted e => exact hp.1
  | serving => exact hp.1
  | stopping | stopped | aborted => exact hp.1.1

private theorem start_of_callCount {p : Position ε} (hp : p.Holds s) (h : 2 ≤ p.callCount) :
    s.start.error = none := by
  cases p with
  | building | unbuilt e => cases h
  | launching | unstarted e => exact absurd h (by simp [callCount])
  | serving => exact hp.2
  | stopping | stopped | aborted => exact hp.1.2

/-- A service that is asked to stop was found running by the trigger that won. -/
private theorem wins_of_callCount {p : Position ε} (hp : p.Holds s) (h : p.callCount = 3) :
    ∃ t : Trigger, s.Wins t (p.stopCall s).2 ∧ (p.stopCall s).1 = t.failure s ∧
      (p.view s).wins = [⟨t.what, (p.stopCall s).2, .running⟩] := by
  cases p with
  | building | unbuilt e | launching | unstarted e | serving => cases h
  | stopping t since isCalled => exact ⟨t, hp.2, rfl, rfl⟩
  | stopped t since duration => exact ⟨t, hp.2.1, rfl, rfl⟩
  | aborted t since call => exact ⟨t, hp.2.1, rfl, rfl⟩

/-- At the end of a run, the stop was asked for just if the service ran and something ended it. -/
private theorem callCount_of_isFinal {p : Position ε} (hp : p.Holds s) (hfinal : p.IsFinal) :
    p.callCount = 3 ↔ s.Serves ∧ s.triggers ≠ [] := by
  have hcame {t : Trigger} {since : Nat} (hwins : s.Wins t since) : s.triggers ≠ [] :=
    List.ne_nil_of_mem hwins.1
  cases p with
  | building | launching | serving | stopping => exact hfinal.elim
  | unbuilt e =>
    refine iff_of_false nofun fun h => ?_
    cases h.1.1.symm.trans hp
  | unstarted e =>
    refine iff_of_false nofun fun h => ?_
    cases h.1.2.symm.trans hp.2
  | stopped t since duration => exact iff_of_true rfl ⟨hp.1, hcame hp.2.1⟩
  | aborted t since call => exact iff_of_true rfl ⟨hp.1, hcame hp.2.1⟩

end Position

/-- The calls are among the events that are followed. -/
theorem calls_eq_filter_marks (r : Run ε) :
    r.calls = r.view.marks.filter fun e => e.what.isCall := by
  have hsub (o : Observation ε) : (o.isCall && o.isMark) = o.isCall := by cases o <;> rfl
  simp only [Run.calls, Run.view, List.filter_filter, hsub]

/-- **The calls of a run.** Whatever a service and its surroundings do, and in every order of what
comes at the same time, the calls up to any moment are the first ones of: a start of the service, in
phase `starting` when it was built; the wait for the signal, in phase `running` when it was started;
one stop, in phase `stopping`. The service was built if it was asked to start, and it did start if
the signal was waited for. If it was asked to stop, one signal or notice had found it running; this
one won the race, and the cause is the error of the service if its notice gave one, and none if the
signal won, the service ended without an error or the sender was dropped. Once the run has ended, or
nothing is left to come, the stop was asked for just if the service ran and a signal or a notice
came. -/
theorem calls_of_run {signal : Option Nat} {notice : Option (Notice ε)}
    (hwait : s.wait = .forEither signal notice) (hdeadline : 0 < s.deadline) {st : Stage ε}
    (hst : Reaches s st) :
    ∃ cause since,
      st.run.calls <+: s.calls cause since ∧
      (1 ≤ st.run.calls.length → s.build.error = none) ∧
      (2 ≤ st.run.calls.length → s.start.error = none) ∧
      (st.run.calls.length = 3 →
        ∃ w, st.run.wins = [w] ∧ w.time = since ∧ Won signal notice s.servesAt w cause) ∧
      (st.IsDone ∨ st.run.outcome ≠ none →
        (st.run.calls.length = 3 ↔ s.Serves ∧ (signal ≠ none ∨ notice ≠ none))) := by
  obtain ⟨p, hp⟩ := hst.fits hwait
  have hcalls : st.run.calls = (s.calls (p.stopCall s).1 (p.stopCall s).2).take p.callCount := by
    rw [calls_eq_filter_marks, hp.view, p.filter_marks hp.holds hdeadline]
  have hwins : st.run.wins = (p.view s).wins := congrArg View.wins hp.view
  have houtcome : st.run.outcome = (p.view s).outcome := congrArg View.outcome hp.view
  have hlength : st.run.calls.length = p.callCount := by
    rw [hcalls, List.length_take]
    cases p with
    | stopping t since isCalled => cases isCalled <;> rfl
    | _ => rfl
  have htriggers : s.triggers ≠ [] ↔ signal ≠ none ∨ notice ≠ none := by
    rw [ne_eq, triggers_eq_nil_iff hwait]
    exact not_and_or
  rw [hlength]
  refine ⟨(p.stopCall s).1, (p.stopCall s).2, hcalls ▸ List.take_prefix _ _,
    Position.build_of_callCount hp.holds, Position.start_of_callCount hp.holds, fun h => ?_,
    fun h => ?_⟩
  · obtain ⟨t, hwon, hcause, hw⟩ := Position.wins_of_callCount hp.holds h
    rw [hwins, hw, hcause]
    exact ⟨_, rfl, rfl, won_of_wins hwait hwon⟩
  · rw [← htriggers]
    -- a run that is done without an end is left serving
    have hfinal : p.IsFinal ∨ p = .serving ∧ s.triggers = [] := by
      rcases h with hdone | hended
      · exact hp.isFinal_or hdone
      · rw [houtcome, ne_eq, p.outcome_eq_none_iff s] at hended
        exact .inl (not_not.mp hended)
    rcases hfinal with hfinal | ⟨rfl, hnil⟩
    · exact Position.callCount_of_isFinal hp.holds hfinal
    · exact iff_of_false nofun fun h => h.2 hnil

/-- A failure comes before the signal and is the cause of the stop, which breaks off. -/
theorem calls_of_run_broken :
    let s : Script String :=
      ⟨⟨1, none⟩, ⟨2, none⟩, .forEither (some 5) (some ⟨4, .failed "lost"⟩), .breaks, 10, none⟩
    s.wait = .forEither (some 5) (some ⟨4, .failed "lost"⟩) ∧ 0 < s.deadline ∧
    ∃ st, Reaches s st ∧ st.IsDone ∧ st.run.calls.length = 3 ∧
      st.run.calls = s.calls (some "lost") 7 := by
  intro s
  have hwait : s.wait = .forEither (some 5) (some ⟨4, .failed "lost"⟩) := rfl
  have hdeadline : 0 < s.deadline := by decide
  obtain ⟨st, hst, hdone, -⟩ := reaches_run s
  obtain ⟨cause, since, hprefix, -, -, hcause, hcount⟩ := calls_of_run hwait hdeadline hst
  have hlength : st.run.calls.length = 3 :=
    (hcount (.inl hdone)).mpr ⟨⟨rfl, rfl⟩, .inl nofun⟩
  have hall : st.run.calls = s.calls cause since := hprefix.eq_of_length hlength
  obtain ⟨w, -, hsince, hwon⟩ := hcause hlength
  refine ⟨hwait, hdeadline, st, hst, hdone, hlength, ?_⟩
  rw [hall]
  cases hwon with
  | signal hsignal hfirst =>
    obtain rfl := Option.some.inj hsignal
    exact absurd (hfirst _ rfl) (by decide)
  | failed hnotice hending _ =>
    obtain rfl := Option.some.inj hnotice
    obtain rfl := Ending.failed.inj hending
    rw [← hsince]
    rfl
  | clean hnotice hending _ | dropped hnotice hending _ =>
    obtain rfl := Option.some.inj hnotice
    cases hending

end Gateway.Lifecycle
