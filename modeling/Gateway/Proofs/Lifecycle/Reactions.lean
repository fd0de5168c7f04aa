import Gateway.Proofs.Lifecycle.Positions

/-!
# What a reaction can do

A reaction notes what happened and then does one of few things: it ends the run, it begins to stop
the service, or it puts on the agenda what comes next (`Run.Reacts`, `Run.reacts`). It never takes
back an observation (`Run.events_react`). The calls of the stop are noted where the agenda has them,
and so are the ends of a stop (`Run.Notes`).
-/

namespace Gateway.Lifecycle

variable {ε : Type} {s : Script ε}

/-- Whether something is a call of the stop. -/
def Observation.isStop : Observation ε → Bool
  | .stop _ => true
  | .created | .build | .start | .waiting | .signal | .notice | .stopped | .finish | .lingered =>
    false

/-- Whether something is the end of a stop. -/
def Observation.isStopped : Observation ε → Bool
  | .stopped => true
  | .created | .build | .start | .waiting | .signal | .notice | .stop _ | .finish | .lingered =>
    false

namespace Run

/-- When something of a kind was observed. -/
def times (r : Run ε) (kind : Observation ε → Bool) : List Nat :=
  (r.events.filter fun e => kind e.what).map Event.time

/-- An observation adds its time to those of its kind. -/
theorem times_observe (r : Run ε) (now : Nat) (what : Observation ε)
    (kind : Observation ε → Bool) :
    (r.observe now what).times kind = r.times kind ++ if kind what then [now] else [] := by
  unfold times observe
  rw [List.filter_append, List.map_append, List.filter_cons]
  split
  · rfl
  · rfl

/-! ### Notes -/

/-- What a happening has noted of the stop. -/
structure Notes (r r' : Run ε) (now : Nat) (h : Happening) : Prop where
  events : r.events <+: r'.events
  stop : r'.times Observation.isStop =
    r.times Observation.isStop ++ if h = .called then [now] else []
  stopped : r'.times Observation.isStopped =
    r.times Observation.isStopped ++ if h = .finished then [now] else []

variable {r r' : Run ε} {now : Nat} {h : Happening}

private theorem Notes.nothing (hevents : r'.events = r.events) (hcalled : h ≠ .called)
    (hfinished : h ≠ .finished) : Notes r r' now h where
  events := hevents ▸ List.prefix_rfl
  stop := by
    rw [if_neg hcalled, List.append_nil, times, hevents]
    rfl
  stopped := by
    rw [if_neg hfinished, List.append_nil, times, hevents]
    rfl

private theorem Notes.observe (hevents : r'.events = r.events) {what : Observation ε}
    (hstop : what.isStop = decide (h = .called))
    (hstopped : what.isStopped = decide (h = .finished)) : Notes r (r'.observe now what) now h where
  events := by
    rw [← hevents]
    exact List.prefix_append _ _
  stop := by
    rw [times_observe, hstop, times, times, hevents]
    simp only [decide_eq_true_eq]
  stopped := by
    rw [times_observe, hstopped, times, times, hevents]
    simp only [decide_eq_true_eq]

/-- Observations of another kind are noted besides. -/
private theorem Notes.aside (hnotes : Notes r r' now h) {what : Observation ε}
    (hstop : what.isStop = false) (hstopped : what.isStopped = false) :
    Notes r (r'.observe now what) now h where
  events := hnotes.events.trans (List.prefix_append _ _)
  stop := by
    rw [times_observe, if_neg (Bool.eq_false_iff.mp hstop), List.append_nil]
    exact hnotes.stop
  stopped := by
    rw [times_observe, if_neg (Bool.eq_false_iff.mp hstopped), List.append_nil]
    exact hnotes.stopped

/-- The end of a run is another matter than its stop. -/
private theorem Notes.ends (hnotes : Notes r r' now h) (o : Outcome ε) :
    Notes r (r'.ends s now o).run now h := by
  have hfinish : Notes r ({ r' with outcome := some o }.observe now .finish) now h :=
    have hended : Notes r { r' with outcome := some o } now h :=
      ⟨hnotes.events, hnotes.stop, hnotes.stopped⟩
    hended.aside rfl rfl
  unfold Run.ends
  split
  · exact hfinish
  · exact hfinish.aside rfl rfl
  · exact hfinish

/-! ### Reactions -/

/-- What a happening can make of a run. -/
inductive Reacts (s : Script ε) (r : Run ε) (now : Nat) : Happening → Reaction ε → Prop
  /-- The run ends. -/
  | ends {h : Happening} {r' : Run ε} (notes : Notes r r' now h) (uncalled : h ≠ .called)
    (o : Outcome ε) : Reacts s r now h (r'.ends s now o)
  /-- The service is to stop. -/
  | stops {h : Happening} {r' : Run ε} (notes : Notes r r' now h) (uncalled : h ≠ .called)
    (failure : Option ε) : Reacts s r now h (r'.stops s now failure)
  /-- The run goes on. -/
  | goesOn {h : Happening} {r' : Run ε} {next : Agenda} (notes : Notes r r' now h)
    (uncalled : h ≠ .called)
    (nothing : ∀ e ∈ next, e.2 ≠ .expired ∧ e.2 ≠ .finished ∧ e.2 ≠ .left) :
    Reacts s r now h (r'.continues next)
  /-- The service begins to stop. -/
  | called : Reacts s r now .called ((r.observe now (.stop r.failure)).continues (finishing s now))
  /-- What is left of a run that has ended is given up. -/
  | left : Reacts s r now .left ⟨r.observe now .lingered, [], true⟩

private theorem of_mem_triggers {since : Nat} {signal : Option Nat} {notice : Option (Notice ε)}
    {e : Nat × Happening} (he : e ∈ triggers since signal notice) :
    e.2 ≠ .expired ∧ e.2 ≠ .finished ∧ e.2 ≠ .left := by
  rcases List.mem_append.mp he with he | he
  · obtain ⟨t, -, rfl⟩ := Option.map_eq_some_iff.mp (Option.mem_toList.mp he)
    exact ⟨nofun, nofun, nofun⟩
  · obtain ⟨n, -, rfl⟩ := Option.map_eq_some_iff.mp (Option.mem_toList.mp he)
    exact ⟨nofun, nofun, nofun⟩

private theorem reacts_settles (hnotes : Notes r r' now h) (hcalled : h ≠ .called) :
    Reacts s r now h (r'.settles s now) := by
  have hentered : Notes r (r'.enter .stopped) now h :=
    ⟨hnotes.events, hnotes.stop, hnotes.stopped⟩
  unfold settles
  split
  · exact .ends hentered hcalled _
  · exact .goesOn hnotes hcalled fun e he => absurd he List.not_mem_nil

/-- **Every reaction is one of these.** -/
theorem reacts (s : Script ε) (r : Run ε) (now : Nat) (h : Happening) :
    Reacts s r now h (r.react s now h) := by
  have hnone : ∀ e ∈ ([] : Agenda), e.2 ≠ .expired ∧ e.2 ≠ .finished ∧ e.2 ≠ .left :=
    fun e he => absurd he List.not_mem_nil
  cases h with
  | built =>
    rw [react]
    split
    · exact .ends (.nothing rfl (by decide) (by decide)) (by decide) _
    · refine .goesOn (.observe rfl rfl rfl) (by decide) fun e he => ?_
      rw [List.mem_singleton.mp he]
      change Happening.started ≠ .expired ∧ Happening.started ≠ .finished ∧
        Happening.started ≠ .left
      decide
  | started =>
    rw [react]
    split
    · exact .ends (.nothing rfl (by decide) (by decide)) (by decide) _
    · have hentered : Notes r (r.enter .running) now .started :=
      .nothing rfl (by decide) (by decide)
      unfold serves
      split
      · exact .stops hentered (by decide) _
      · exact .goesOn (hentered.aside rfl rfl) (by decide) fun e he => of_mem_triggers he
  | signalled =>
    rw [react]
    split
    · exact .stops (.observe rfl rfl rfl) (by decide) _
    · exact .goesOn (.nothing rfl (by decide) (by decide)) (by decide) hnone
  | noticed =>
    rw [react]
    split
    · exact .stops (.observe rfl rfl rfl) (by decide) _
    · exact .goesOn (.observe rfl rfl rfl) (by decide) hnone
  | expired =>
    have hentered : Notes r (r.enter .aborted) now .expired :=
      .nothing rfl (by decide) (by decide)
    rw [react]
    split
    · exact .ends hentered (by decide) _
    · exact .goesOn (.nothing rfl (by decide) (by decide)) (by decide) hnone
  | called => exact .called
  | finished => exact reacts_settles (.observe rfl rfl rfl) (by decide)
  | broken => exact reacts_settles (.nothing rfl (by decide) (by decide)) (by decide)
  | left => exact .left

/-- The notes of a reaction, with the end of the run if it comes. -/
theorem notes_react (s : Script ε) (r : Run ε) (now : Nat) (h : Happening) :
    Notes r (r.react s now h).run now h := by
  have hreacts := reacts s r now h
  generalize r.react s now h = reaction at hreacts
  cases hreacts with
  | ends notes uncalled o => exact notes.ends o
  | stops notes uncalled failure => exact ⟨notes.events, notes.stop, notes.stopped⟩
  | goesOn notes uncalled nothing => exact notes
  | called => exact .observe rfl rfl rfl
  | left => exact .observe rfl rfl rfl

/-- A reaction takes back nothing that was observed. -/
theorem events_react (s : Script ε) (r : Run ε) (now : Nat) (h : Happening) :
    r.events <+: (r.react s now h).run.events := (notes_react s r now h).events

end Run

/-- Later in a run, what was observed before is still there. -/
theorem prefix_events_of_turns {a b : Stage ε} (h : Relation.ReflTransGen (Turn s) a b) :
    a.run.events <+: b.run.events := by
  induction h with
  | refl => exact List.prefix_rfl
  | tail _ hturn ih =>
    cases hturn with
    | react r front back now g _ => exact ih.trans (Run.events_react s r now g)

end Gateway.Lifecycle
