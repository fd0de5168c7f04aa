import Gateway.Proofs.Lifecycle.Reachability

/-!
# The phases of a run

What a run publishes is one way through its phases, from `created` to `stopped` or to `aborted`, as
far as it has come: `phases_of_run`. How the run ended and where it stands go together, and a run
without an end is one that nothing ever asks to stop. Phases are only ever added
(`published_prefix`).
-/

namespace Gateway.Lifecycle

variable {ε : Type} {s : Script ε}

namespace Run

private theorem published_enter (r : Run ε) (phase : Phase) :
    r.published <+: (r.enter phase).published := List.prefix_append _ _

private theorem published_ends (r : Run ε) (now : Nat) (o : Outcome ε) :
    r.published <+: (r.ends s now o).run.published := by
  have hsame : (r.ends s now o).run.published = r.published :=
    congrArg View.published (view_ends s r now o)
  exact ⟨[], (List.append_nil _).trans hsame.symm⟩

private theorem published_settles (r : Run ε) (now : Nat) :
    r.published <+: (r.settles s now).run.published := by
  unfold settles
  split
  · exact (r.published_enter _).trans (published_ends _ _ _)
  · exact List.prefix_rfl

/-- A reaction takes back no phase. -/
private theorem published_react (r : Run ε) (now : Nat) (h : Happening) :
    r.published <+: (r.react s now h).run.published := by
  cases h with
  | built =>
    rw [react]
    split
    · exact published_ends _ _ _
    · exact List.prefix_rfl
  | started =>
    rw [react]
    split
    · exact published_ends _ _ _
    · unfold serves
      split
      · exact (r.published_enter _).trans (published_enter _ _)
      · exact r.published_enter _
  | signalled =>
    rw [react]
    split
    · exact r.published_enter _
    · exact List.prefix_rfl
  | noticed =>
    rw [react]
    split
    · exact r.published_enter _
    · exact List.prefix_rfl
  | expired =>
    rw [react]
    split
    · exact (r.published_enter _).trans (published_ends _ _ _)
    · exact List.prefix_rfl
  | called => exact List.prefix_rfl
  | finished => exact published_settles (r.observe now .stopped) now
  | broken => exact published_settles r now
  | left => exact List.prefix_rfl

end Run

/-- **Phases are only added.** Later in a run, what was published before is still there. -/
theorem published_prefix {a b : Stage ε} (h : Relation.ReflTransGen (Turn s) a b) :
    a.run.published <+: b.run.published := by
  induction h with
  | refl => exact List.prefix_rfl
  | tail _ hturn ih =>
    cases hturn with
    | react r front back now g _ => exact ih.trans (r.published_react now g)

namespace Position

/-- The way through the phases that a position is on. -/
private theorem published_prefix (s : Script ε) (p : Position ε) :
    ∃ last, (last = .stopped ∨ last = .aborted) ∧
      (p.view s).published <+: [.created, .starting, .running, .stopping, last] := by
  cases p with
  | aborted t since call => exact ⟨.aborted, .inr rfl, List.prefix_rfl⟩
  | stopped t since duration => exact ⟨.stopped, .inl rfl, List.prefix_rfl⟩
  | stopping t since isCalled => exact ⟨.stopped, .inl rfl, ⟨[.stopped], rfl⟩⟩
  | serving => exact ⟨.stopped, .inl rfl, ⟨[.stopping, .stopped], rfl⟩⟩
  | building | unbuilt e | launching | unstarted e =>
    exact ⟨.stopped, .inl rfl, ⟨[.running, .stopping, .stopped], rfl⟩⟩

/-- The phase that was published last is the phase of the run. -/
theorem getLast?_published (s : Script ε) (p : Position ε) :
    (p.view s).published.getLast? = some (p.view s).phase := by
  cases p <;> rfl

/-- A run has no outcome until it has ended. -/
theorem outcome_eq_none_iff (s : Script ε) (p : Position ε) :
    (p.view s).outcome = none ↔ ¬ p.IsFinal := by
  cases p <;> simp [view, IsFinal]

/-- A stage that is done is one that has ended, or nothing ever comes for it. -/
theorem Fits.isFinal_or {st : Stage ε} {p : Position ε} (h : Fits s st p) (hdone : st.IsDone) :
    p.IsFinal ∨ p = serving ∧ s.triggers = [] := by
  rcases hdone with hover | hempty
  · exact .inl (h.isOver hover)
  · -- on an empty agenda the position waits for nothing
    obtain ⟨rest, hperm, -⟩ := h.agenda
    rw [hempty] at hperm
    have hcore : p.core s = [] := (List.append_eq_nil_iff.mp hperm.symm.eq_nil).1
    cases p with
    | building | launching => cases hcore
    | serving => exact .inr ⟨rfl, hcore⟩
    | stopping t since isCalled => cases isCalled <;> cases hcore
    | unbuilt | unstarted | stopped | aborted => exact .inl trivial

/-- How the run ended and where it stands. -/
private theorem outcome_phase {p : Position ε} {o : Outcome ε} (h : (p.view s).outcome = some o) :
    ((p.view s).phase = .starting ↔ (∃ e, o = .construction e) ∨ ∃ e, o = .start e) ∧
    ((p.view s).phase = .aborted ↔ ∃ d, o = .timeout d) ∧
    ((p.view s).phase = .stopped ↔ o = .clean ∨ ∃ e, o = .runtime e) := by
  cases p with
  | building | launching | serving | stopping => cases h
  | unbuilt e | unstarted e | aborted t since call =>
    obtain rfl := Option.some.inj h
    simp [view]
  | stopped t since duration =>
    obtain rfl := Option.some.inj h
    cases hf : t.failure s <;> simp [view, hf, Run.outcomeOf]

end Position

/-- Where nothing fails and nothing comes, a run gets no farther than to serve. -/
theorem Position.not_isFinal {p : Position ε} (hp : p.Holds s) (hserves : s.Serves)
    (htriggers : s.triggers = []) :
    ¬ p.IsFinal ∧ (p.view s).published <+: [.created, .starting, .running] := by
  have hnever (t : Trigger) (since : Nat) : ¬ s.Wins t since := by
    intro hwins
    have hmem := hwins.1
    rw [htriggers] at hmem
    exact absurd hmem List.not_mem_nil
  cases p with
  | building => exact ⟨nofun, [.running], rfl⟩
  | launching => exact ⟨nofun, [.running], rfl⟩
  | serving => exact ⟨nofun, [], rfl⟩
  | unbuilt e => cases hserves.1.symm.trans hp
  | unstarted e => cases hserves.2.symm.trans hp.2
  | stopping t since isCalled => exact absurd hp.2 (hnever t since)
  | stopped t since duration => exact absurd hp.2.1 (hnever t since)
  | aborted t since call => exact absurd hp.2.1 (hnever t since)

/-- Neither a signal nor a notice ever comes. -/
theorem triggers_eq_nil_iff {signal : Option Nat} {notice : Option (Notice ε)}
    (hwait : s.wait = .forEither signal notice) :
    s.triggers = [] ↔ signal = none ∧ notice = none := by
  cases signal <;> cases notice <;> simp [Script.triggers, hwait, Run.triggers]

/-- **The phases of a run.** Whatever a service and its surroundings do, and in every order of what
comes at the same time, the phases that were published are at all times the beginning of the one way
to `stopped` or the one to `aborted`, and the last of them is where the run stands. When the run has
ended, this is `starting` just if the service could not be built or did not start, `aborted` just if
the deadline passed, and `stopped` just if the service has stopped, after a failure or without one.
A service that starts, and that neither a signal nor a notice ever ends, is left running and the run
does not end; every other run ends. `Lifecycle.run` is among these runs. -/
theorem phases_of_run {signal : Option Nat} {notice : Option (Notice ε)}
    (hwait : s.wait = .forEither signal notice) :
    (∃ st, Reaches s st ∧ st.IsDone ∧ st.run = run s) ∧
    ∀ st, Reaches s st →
      (∃ last, (last = .stopped ∨ last = .aborted) ∧
        st.run.published <+: [.created, .starting, .running, .stopping, last]) ∧
      st.run.published.getLast? = some st.run.phase ∧
      (∀ before, Relation.ReflTransGen (Turn s) before st →
        before.run.published <+: st.run.published) ∧
      (∀ o, st.run.outcome = some o →
        (st.run.phase = .starting ↔ (∃ e, o = .construction e) ∨ ∃ e, o = .start e) ∧
        (st.run.phase = .aborted ↔ ∃ d, o = .timeout d) ∧
        (st.run.phase = .stopped ↔ o = .clean ∨ ∃ e, o = .runtime e)) ∧
      (s.Serves → signal = none → notice = none →
        st.run.outcome = none ∧ st.run.published <+: [.created, .starting, .running] ∧
          (st.IsDone → st.run.phase = .running)) ∧
      (st.IsDone → (st.run.outcome = none ↔ s.Serves ∧ signal = none ∧ notice = none)) := by
  refine ⟨reaches_run s, fun st hst => ?_⟩
  -- everything is read off the position that the stage fits
  obtain ⟨p, hp⟩ := hst.fits hwait
  have hphase : st.run.phase = (p.view s).phase := congrArg View.phase hp.view
  have hpublished : st.run.published = (p.view s).published := congrArg View.published hp.view
  have houtcome : st.run.outcome = (p.view s).outcome := congrArg View.outcome hp.view
  have htriggers := triggers_eq_nil_iff hwait
  rw [hphase, hpublished, houtcome]
  refine ⟨p.published_prefix s, p.getLast?_published s, fun before hbefore => ?_,
    fun o ho => p.outcome_phase ho, fun hserves hsignal hnotice => ?_, fun hdone => ?_⟩
  · rw [← hpublished]
    exact published_prefix hbefore
  · obtain ⟨hfinal, hprefix⟩ := p.not_isFinal hp.holds hserves (htriggers.mpr ⟨hsignal, hnotice⟩)
    refine ⟨(p.outcome_eq_none_iff s).mpr hfinal, hprefix, fun hdone => ?_⟩
    obtain ⟨rfl, -⟩ := (hp.isFinal_or hdone).resolve_left hfinal
    rfl
  · rw [p.outcome_eq_none_iff s]
    constructor
    · intro hfinal
      obtain ⟨rfl, hnil⟩ := (hp.isFinal_or hdone).resolve_left hfinal
      exact ⟨hp.holds, htriggers.mp hnil⟩
    · rintro ⟨hserves, hnone⟩
      exact (p.not_isFinal hp.holds hserves (htriggers.mpr hnone)).1

/-- A signal and a failure come at the same time, and the service never finishes its stop. -/
theorem phases_of_run_hung :
    let s : Script String :=
      ⟨⟨1, none⟩, ⟨2, none⟩, .forEither (some 5) (some ⟨5, .failed "lost"⟩), .never, 10, none⟩
    s.wait = .forEither (some 5) (some ⟨5, .failed "lost"⟩) ∧
    ∃ st, Reaches s st ∧ st.IsDone ∧ st.run = run s ∧ st.run.outcome ≠ none ∧
      st.run.published = [.created, .starting, .running, .stopping, .aborted] ∧
      st.run.published.getLast? = some st.run.phase := by
  intro s
  have hwait : s.wait = .forEither (some 5) (some ⟨5, .failed "lost"⟩) := rfl
  obtain ⟨st, hst, hdone, hrun⟩ := (phases_of_run hwait).1
  obtain ⟨-, hlast, -, -, -, hends⟩ := (phases_of_run hwait).2 st hst
  have hpublished : (run s).published = [.created, .starting, .running, .stopping, .aborted] := by
    decide +kernel
  refine ⟨hwait, st, hst, hdone, hrun, fun hnone => ?_, hrun ▸ hpublished, hlast⟩
  cases ((hends hdone).mp hnone).2.1

end Gateway.Lifecycle
