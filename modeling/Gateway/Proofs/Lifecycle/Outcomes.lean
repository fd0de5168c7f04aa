import Gateway.Proofs.Lifecycle.Calls

/-!
# How and when a run ends

Of a signal and a notice the one that comes first begins the stop (`Won`), and the stop and its
deadline race in turn. `Position.ending?` says for each position how a run ended there and when,
and `ends_of_run` collects what this makes of a script: the outcome with its time, counted from the
moment at which the run began to stop.

When a run enters a phase is not noted among its events. It is said of the way on which a stage was
reached (`Entered`): a turn was taken at that time, and the run stood in the phase behind it and not
before. The stop begins with the one signal or notice that finds the service running
(`entered_stopping_iff`).
-/

namespace Gateway.Lifecycle

variable {ε : Type} {s : Script ε}

/-! ### Entering a phase -/

/-- On a way to a stage, the run entered a phase at some time. -/
inductive Entered (s : Script ε) (phase : Phase) (time : Nat) : Stage ε → Prop
  /-- The phase is entered at the last happening. -/
  | now {r : Run ε} {front back : Agenda} {h : Happening}
    (reached : Reaches s ⟨r, front ++ (time, h) :: back, false⟩)
    (earliest : ∀ e ∈ front ++ back, time ≤ e.1) (before : r.phase ≠ phase)
    (after : (r.react s time h).run.phase = phase) :
    Entered s phase time (.behind (front ++ back) (r.react s time h))
  /-- The phase was entered before. -/
  | later {a b : Stage ε} (entered : Entered s phase time a) (turn : Turn s a b) :
    Entered s phase time b

/-- A phase is entered at a stage that the run reaches. -/
theorem Entered.reaches {phase : Phase} {time : Nat} {st : Stage ε} (h : Entered s phase time st) :
    Reaches s st := by
  induction h with
  | now reached earliest => exact reached.tail (.react _ _ _ _ _ earliest)
  | later _ turn ih => exact ih.tail turn

namespace Run

/-- The signals and notices that found the service running stay as they are, and the run does not
begin to stop. -/
def Goes (r r' : Run ε) : Prop :=
  r'.wins = r.wins ∧ (r'.phase = .stopping → r.phase = .stopping)

/-- A signal or a notice finds the service running, and the run begins to stop. -/
def Turns (r : Run ε) (now : Nat) (r' : Run ε) : Prop :=
  r.phase = .running ∧ r'.phase = .stopping ∧
    ∃ what, r'.wins = r.wins ++ [⟨what, now, .running⟩]

private theorem goes_observe (r : Run ε) (now : Nat) {what : Observation ε}
    (h : what.isTrigger = false ∨ r.phase ≠ .running) : r.Goes (r.observe now what) := by
  refine ⟨?_, fun hphase => hphase⟩
  have hwin : (what.isTrigger && decide (r.phase = .running)) = false := by
    rcases h with h | h
    · rw [h, Bool.false_and]
    · rw [decide_eq_false h, Bool.and_false]
  simp [wins, observe, hwin]

private theorem goes_ends (r : Run ε) (now : Nat) (o : Outcome ε) :
    r.Goes (r.ends s now o).run := by
  have hview := view_ends s r now o
  have hwins : (r.ends s now o).run.wins = r.wins := congrArg View.wins hview
  have hphase : (r.ends s now o).run.phase = r.phase := congrArg View.phase hview
  exact ⟨hwins, fun h => hphase.symm.trans h⟩

private theorem goes_settles (r : Run ε) (now : Nat) : r.Goes (r.settles s now).run := by
  unfold settles
  split
  · next hphase => exact ⟨(goes_ends (r.enter .stopped) now _).1, fun _ => hphase⟩
  · exact ⟨rfl, fun h => h⟩

private theorem turns_stops {r : Run ε} (hphase : r.phase = .running) (now : Nat)
    {what : Observation ε} (h : what.isTrigger = true) (failure : Option ε) :
    r.Turns now ((r.observe now what).stops s now failure).run := by
  have hview := r.view_observe_trigger now h hphase
  have hwins : (r.observe now what).wins = r.wins ++ [⟨what, now, .running⟩] :=
    congrArg View.wins hview
  exact ⟨hphase, rfl, what, hwins⟩

/-- **Reactions and the stop.** The run begins to stop just where a signal or a notice finds the
service running. -/
theorem goes_or_turns_react {signal : Option Nat} {notice : Option (Notice ε)}
    (hwait : s.wait = .forEither signal notice) (r : Run ε) (now : Nat) (h : Happening) :
    r.Goes (r.react s now h).run ∨ r.Turns now (r.react s now h).run := by
  cases h with
  | built =>
    left
    rw [react]
    split
    · exact goes_ends r now _
    · exact r.goes_observe now (.inl rfl)
  | started =>
    left
    rw [react]
    split
    · exact goes_ends r now _
    · rw [serves, hwait]
      exact ⟨((r.enter .running).goes_observe now (.inl rfl)).1, fun h => by cases h⟩
  | signalled =>
    rw [react]
    split
    · next hphase => exact .inr (turns_stops hphase now rfl _)
    · exact .inl ⟨rfl, fun h => h⟩
  | noticed =>
    rw [react]
    split
    · next hphase => exact .inr (turns_stops hphase now rfl _)
    · next hphase => exact .inl (r.goes_observe now (.inr hphase))
  | expired =>
    left
    rw [react]
    split
    · next hphase => exact ⟨(goes_ends (r.enter .aborted) now _).1, fun _ => hphase⟩
    · exact ⟨rfl, fun h => h⟩
  | called => exact .inl (r.goes_observe now (.inl rfl))
  | finished =>
    obtain ⟨hwins, hphase⟩ : r.Goes (r.observe now .stopped) := r.goes_observe now (.inl rfl)
    obtain ⟨hwins', hphase'⟩ := (r.observe now .stopped).goes_settles (s := s) now
    exact .inl ⟨hwins'.trans hwins, fun h => hphase (hphase' h)⟩
  | broken => exact .inl (r.goes_settles now)
  | left => exact .inl (r.goes_observe now (.inl rfl))

end Run

/-- At most one signal or notice finds the service running. -/
private theorem length_wins_le {signal : Option Nat} {notice : Option (Notice ε)}
    (hwait : s.wait = .forEither signal notice) {st : Stage ε} (h : Reaches s st) :
    st.run.wins.length ≤ 1 := by
  obtain ⟨p, hp⟩ := h.fits hwait
  have hwins : st.run.wins = (p.view s).wins := congrArg View.wins hp.view
  rw [hwins]
  cases p with
  | building | unbuilt | launching | unstarted | serving => exact Nat.zero_le 1
  | stopping | stopped | aborted => exact Nat.le_refl 1

/-- **The stop begins with the trigger.** The run entered phase `stopping` at the time of the signal
or notice that found the service running, and at no other. -/
theorem entered_stopping_iff {signal : Option Nat} {notice : Option (Notice ε)}
    (hwait : s.wait = .forEither signal notice) {st : Stage ε} (hst : Reaches s st) {time : Nat} :
    Entered s .stopping time st ↔ ∃ what, st.run.wins = [⟨what, time, .running⟩] := by
  constructor
  · intro h
    induction h with
    | @now r front back h reached earliest before after =>
      rcases Run.goes_or_turns_react hwait r time h with ⟨-, hphase⟩ | ⟨-, -, what, hwins⟩
      · exact absurd (hphase after) before
      · -- a second trigger would not have found the service running
        have hlength := length_wins_le hwait hst
        change (r.react s time h).run.wins.length ≤ 1 at hlength
        rw [hwins, List.length_append, List.length_singleton] at hlength
        have hnil : r.wins = [] := List.length_eq_zero_iff.mp (by omega)
        refine ⟨what, hwins.trans ?_⟩
        rw [hnil]
        rfl
    | later entered turn ih =>
      obtain ⟨what, hwins⟩ := ih entered.reaches
      cases turn with
      | react r front back now h earliest =>
        change r.wins = _ at hwins
        rcases Run.goes_or_turns_react hwait r now h with ⟨hsame, -⟩ | ⟨-, -, what', hmore⟩
        · exact ⟨what, hsame.trans hwins⟩
        · have hlength := length_wins_le hwait hst
          change (r.react s now h).run.wins.length ≤ 1 at hlength
          rw [hmore, hwins] at hlength
          exact absurd hlength (Nat.not_succ_le_self 1)
  · -- the turn that brought the trigger is the last one, or it lies further back
    rintro ⟨what, hwins⟩
    induction hst with
    | refl => cases hwins
    | tail hreached hturn ih =>
      cases hturn with
      | react r front back now h earliest =>
        change (r.react s now h).run.wins = _ at hwins
        rcases Run.goes_or_turns_react hwait r now h with ⟨hsame, -⟩ | ⟨hrun, hstop, what', hmore⟩
        · exact .later (ih (hsame.symm.trans hwins)) (.react r front back now h earliest)
        · have hlast : r.wins ++ [⟨what', now, .running⟩] = [] ++ [⟨what, time, .running⟩] :=
            hmore.symm.trans hwins
          obtain ⟨-, heq⟩ := List.append_inj' hlast rfl
          obtain rfl : now = time := congrArg Event.time (List.singleton_inj.mp heq)
          exact .now hreached earliest (by rw [hrun]; exact nofun) hstop

/-! ### The end of a run -/

/-- Whether something is the end of a run. -/
def Observation.isFinish : Observation ε → Bool
  | .finish => true
  | .created | .build | .start | .waiting | .signal | .notice | .stop _ | .stopped | .lingered =>
    false

/-- The run ended once, at some time and in some way. -/
def Run.EndsAt (r : Run ε) (o : Outcome ε) (time : Nat) : Prop :=
  r.outcome = some o ∧ (r.events.filter fun e => e.what.isFinish).map Event.time = [time]

namespace Position

/-- How a run ended in a position, and when. -/
def ending? (s : Script ε) : Position ε → Option (Outcome ε × Nat)
  | building | launching | serving | stopping _ _ _ => none
  | unbuilt e => some (.construction e, s.build.duration)
  | unstarted e => some (.start e, s.servesAt)
  | stopped t since duration => some (Run.outcomeOf (t.failure s), since + duration)
  | aborted _ since _ => some (.timeout s.deadline, since + s.deadline)

/-- A stage at a position ended the way the position says. -/
theorem Fits.endsAt {st : Stage ε} {p : Position ε} (h : Fits s st p) {o : Outcome ε} {time : Nat}
    (hp : p.ending? s = some (o, time)) : st.run.EndsAt o time := by
  have houtcome : st.run.outcome = (p.view s).outcome := congrArg View.outcome h.view
  have hsub (w : Observation ε) : (w.isFinish && w.isMark) = w.isFinish := by cases w <;> rfl
  have hfinish : (st.run.events.filter fun e => e.what.isFinish) =
      (p.view s).marks.filter fun e => e.what.isFinish := by
    rw [← h.view]
    simp only [Run.view, List.filter_filter, hsub]
  unfold Run.EndsAt
  rw [houtcome, hfinish]
  cases p with
  | building | launching | serving | stopping => cases hp
  | unbuilt e | unstarted e =>
    cases hp
    exact ⟨rfl, rfl⟩
  | stopped t since duration =>
    cases hp
    exact ⟨rfl, rfl⟩
  | aborted t since call =>
    cases hp
    cases call <;> exact ⟨rfl, rfl⟩

/-- A run whose service could not be built ended with the building. -/
theorem ending?_of_build {p : Position ε} (hp : p.Holds s) (hfinal : p.IsFinal) {e : ε}
    (he : s.build.error = some e) : p.ending? s = some (.construction e, s.build.duration) := by
  cases p with
  | building | launching | serving | stopping => exact hfinal.elim
  | unbuilt e' =>
    obtain rfl := Option.some.inj (he.symm.trans hp)
    rfl
  | unstarted e' => cases he.symm.trans hp.1
  | stopped t since duration => cases he.symm.trans hp.1.1
  | aborted t since call => cases he.symm.trans hp.1.1

/-- A run whose service did not start ended with the start. -/
theorem ending?_of_start {p : Position ε} (hp : p.Holds s) (hfinal : p.IsFinal)
    (hbuild : s.build.error = none) {e : ε} (he : s.start.error = some e) :
    p.ending? s = some (.start e, s.servesAt) := by
  cases p with
  | building | launching | serving | stopping => exact hfinal.elim
  | unbuilt e' => cases hbuild.symm.trans hp
  | unstarted e' =>
    obtain rfl := Option.some.inj (he.symm.trans hp.2)
    rfl
  | stopped t since duration => cases he.symm.trans hp.1.2
  | aborted t since call => cases he.symm.trans hp.1.2

/-- A run whose service ran ended with the stop or with its deadline, whichever is not after the
other, counted from the trigger that came first. -/
theorem ending?_of_serves {p : Position ε} (hp : p.Holds s) (hfinal : p.IsFinal)
    (hserves : s.Serves) :
    ∃ t since, s.Wins t since ∧ (p.view s).wins = [⟨t.what, since, .running⟩] ∧
      ((∃ d, s.stop.duration? = some d ∧ d ≤ s.deadline ∧
          p.ending? s = some (Run.outcomeOf (t.failure s), since + d)) ∨
        (∀ d, s.stop.duration? = some d → s.deadline ≤ d) ∧
          p.ending? s = some (.timeout s.deadline, since + s.deadline)) := by
  cases p with
  | building | launching | serving | stopping => exact hfinal.elim
  | unbuilt e => cases hserves.1.symm.trans hp
  | unstarted e => cases hserves.2.symm.trans hp.2
  | stopped t since duration =>
    obtain ⟨-, hwins, hduration, hle⟩ := hp
    exact ⟨t, since, hwins, rfl, .inl ⟨duration, hduration, hle, rfl⟩⟩
  | aborted t since call =>
    obtain ⟨-, hwins, hlate, -⟩ := hp
    exact ⟨t, since, hwins, rfl, .inr ⟨hlate, rfl⟩⟩

end Position

/-- **How and when a run ends.** Turns come to an end in every order, and not before nothing is
left; `Lifecycle.run` takes one of the orders. Whatever a service and its surroundings do, and in
every order of what comes at the same time, a run that is done ended with the error of the building
at the end of the building, or else with the error of the start at the end of the start. If the
service ran and a signal or a notice came, the one that won the race began the stop, at its own
time. A stop that is shorter than the deadline ended the run as long after that as it took, with the
error of the service if its notice won and gave one, and without an error otherwise. A stop that is
longer, or has no end, ended the run when the deadline passed, whoever won. In no case did the run
go on for longer than the deadline. -/
theorem ends_of_run {signal : Option Nat} {notice : Option (Notice ε)}
    (hwait : s.wait = .forEither signal notice) :
    WellFounded (fun b a : Stage ε => Turn s a b) ∧
    (∀ st, Reaches s st → st.IsDone ∨ ∃ st', Turn s st st') ∧
    (∃ st, Reaches s st ∧ st.IsDone ∧ st.run = run s) ∧
    ∀ st, Reaches s st → st.IsDone →
      (∀ e, s.build.error = some e → st.run.EndsAt (.construction e) s.build.duration) ∧
      (∀ e, s.build.error = none → s.start.error = some e →
        st.run.EndsAt (.start e) s.servesAt) ∧
      (s.Serves → signal ≠ none ∨ notice ≠ none →
        ∃ w cause, Won signal notice s.servesAt w cause ∧
          (∀ time, Entered s .stopping time st ↔ time = w.time) ∧
          (∀ d, s.stop.duration? = some d → d < s.deadline →
            st.run.EndsAt (Run.outcomeOf cause) (w.time + d)) ∧
          ((∀ d, s.stop.duration? = some d → s.deadline < d) →
            st.run.EndsAt (.timeout s.deadline) (w.time + s.deadline)) ∧
          ∃ o time, st.run.EndsAt o time ∧ time ≤ w.time + s.deadline) := by
  refine ⟨wellFounded_turn s, fun st _ => or_iff_not_imp_left.mpr (exists_turn s), reaches_run s,
    fun st hst hdone => ?_⟩
  -- behind the end of a run stands a position that says how it ended
  obtain ⟨p, hp⟩ := hst.fits hwait
  have hfinal (h : ¬ (s.Serves ∧ s.triggers = [])) : p.IsFinal := by
    refine (hp.isFinal_or hdone).resolve_right ?_
    rintro ⟨rfl, hnil⟩
    exact h ⟨hp.holds, hnil⟩
  refine ⟨fun e he => ?_, fun e hbuild he => ?_, fun hserves hcame => ?_⟩
  · have hend : p.IsFinal := hfinal fun h => by cases he.symm.trans h.1.1
    exact hp.endsAt (p.ending?_of_build hp.holds hend he)
  · have hend : p.IsFinal := hfinal fun h => by cases he.symm.trans h.1.2
    exact hp.endsAt (p.ending?_of_start hp.holds hend hbuild he)
  have hend : p.IsFinal := hfinal fun h => by
    obtain ⟨hsignal, hnotice⟩ := (triggers_eq_nil_iff hwait).mp h.2
    exact hcame.elim (· hsignal) (· hnotice)
  obtain ⟨t, since, hwins, hview, hrace⟩ := p.ending?_of_serves hp.holds hend hserves
  refine ⟨_, _, won_of_wins hwait hwins, fun time => ?_, fun d hd hlt => ?_, fun hlate => ?_, ?_⟩
  · have hwon : st.run.wins = [⟨t.what, since, .running⟩] :=
      (congrArg View.wins hp.view).trans hview
    rw [entered_stopping_iff hwait hst, hwon]
    constructor
    · rintro ⟨what, heq⟩
      exact (congrArg Event.time (List.singleton_inj.mp heq)).symm
    · rintro rfl
      exact ⟨t.what, rfl⟩
  · rcases hrace with ⟨d', hd', -, hending⟩ | ⟨hlate, -⟩
    · obtain rfl := Option.some.inj (hd.symm.trans hd')
      exact hp.endsAt hending
    · exact absurd (hlate d hd) (Nat.not_le.mpr hlt)
  · rcases hrace with ⟨d, hd, hle, -⟩ | ⟨-, hending⟩
    · exact absurd (hlate d hd) (Nat.not_lt.mpr hle)
    · exact hp.endsAt hending
  · rcases hrace with ⟨d, -, hle, hending⟩ | ⟨-, hending⟩
    · exact ⟨_, _, hp.endsAt hending, Nat.add_le_add_left hle since⟩
    · exact ⟨_, _, hp.endsAt hending, Nat.le_refl _⟩

/-- A failure comes before the signal, and the stop breaks off just before the deadline. -/
theorem ends_of_run_broken :
    let s : Script String :=
      ⟨⟨1, none⟩, ⟨2, none⟩, .forEither (some 5) (some ⟨4, .failed "lost"⟩), .breaksAfter 9, 10,
        none⟩
    s.wait = .forEither (some 5) (some ⟨4, .failed "lost"⟩) ∧
    ∃ st, Reaches s st ∧ st.IsDone ∧ st.run = run s ∧
      (∀ time, Entered s .stopping time st ↔ time = 7) ∧
      st.run.EndsAt (.runtime "lost") 16 := by
  intro s
  have hwait : s.wait = .forEither (some 5) (some ⟨4, .failed "lost"⟩) := rfl
  obtain ⟨-, -, ⟨st, hst, hdone, hrun⟩, hall⟩ := ends_of_run hwait
  obtain ⟨-, -, hstop⟩ := hall st hst hdone
  obtain ⟨w, cause, hwon, hentered, hintime, -, -⟩ := hstop ⟨rfl, rfl⟩ (.inl nofun)
  have hends := hintime 9 rfl (by decide)
  refine ⟨hwait, st, hst, hdone, hrun, ?_⟩
  cases hwon with
  | signal hsignal hfirst =>
    obtain rfl := Option.some.inj hsignal
    exact absurd (hfirst _ rfl) (by decide)
  | failed hnotice hending _ =>
    obtain rfl := Option.some.inj hnotice
    obtain rfl := Ending.failed.inj hending
    exact ⟨hentered, hends⟩
  | clean hnotice hending _ | dropped hnotice hending _ =>
    obtain rfl := Option.some.inj hnotice
    cases hending

end Gateway.Lifecycle
