import Gateway.Proofs.Lifecycle.Comparison
import Gateway.Proofs.Lifecycle.Outcomes

/-!
# The stop and its deadline

The deadline bounds how long a run waits for the stop of its service, and nothing else. The stop is
asked for once, at the time of the signal or notice, whatever the deadline. From then on its end is
on the agenda or has come (`Reaches.pending`), also when the run has ended without it, so that it
is seen at its time if the service is still watched (`Reaches.lingers`).

`stop_undisturbed` says this for all deadlines of a script at once, with the comparison of any two
of them.
-/

namespace Gateway.Lifecycle

variable {ε : Type} {s : Script ε}

/-! ### The end of the stop -/

namespace Agenda

/-- The times of a happening on an agenda. -/
def timesOf (a : Agenda) (h : Happening) : List Nat :=
  (a.filter fun e => decide (e.2 = h)).map Prod.fst

theorem timesOf_perm {a b : Agenda} (h : a.Perm b) (g : Happening) :
    (a.timesOf g).Perm (b.timesOf g) := (h.filter _).map _

theorem timesOf_append (a b : Agenda) (g : Happening) :
    timesOf (a ++ b) g = a.timesOf g ++ b.timesOf g := by
  unfold timesOf
  rw [List.filter_append, List.map_append]

theorem timesOf_cons (time : Nat) (h : Happening) (a : Agenda) (g : Happening) :
    timesOf ((time, h) :: a) g = (if h = g then [time] else []) ++ a.timesOf g := by
  unfold timesOf
  rw [List.filter_cons]
  by_cases hg : h = g
  · rw [if_pos (decide_eq_true hg), if_pos hg]
    rfl
  · rw [if_neg (by simpa using hg), if_neg hg]
    rfl

theorem timesOf_eq_nil {a : Agenda} {g : Happening} (h : ∀ e ∈ a, e.2 ≠ g) : a.timesOf g = [] := by
  unfold timesOf
  rw [List.map_eq_nil_iff, List.filter_eq_nil_iff]
  exact fun e he heq => h e he (of_decide_eq_true heq)

theorem mem_timesOf {a : Agenda} {time : Nat} {g : Happening} (h : time ∈ a.timesOf g) :
    (time, g) ∈ a := by
  obtain ⟨e, he, rfl⟩ := List.mem_map.mp h
  obtain ⟨hmem, hkind⟩ := List.mem_filter.mp he
  rwa [← of_decide_eq_true hkind]

end Agenda

/-- The end of a stop comes about with its call. -/
theorem Run.timesOf_finished_react {d : Nat} (hstop : s.stop = .takes d) (r : Run ε) (now : Nat)
    (h : Happening) :
    Agenda.timesOf (r.react s now h).next .finished = if h = .called then [now + d] else [] := by
  have hreacts := reacts s r now h
  generalize r.react s now h = reaction at hreacts
  cases hreacts with
  | @ends _ r' notes uncalled o =>
    rw [if_neg uncalled]
    refine Agenda.timesOf_eq_nil fun e he => ?_
    rw [eq_left_of_mem_ends s r' now o e he]
    exact nofun
  | stops notes uncalled failure =>
    rw [if_neg uncalled]
    rfl
  | goesOn notes uncalled nothing =>
    rw [if_neg uncalled]
    exact Agenda.timesOf_eq_nil fun e he => (nothing e he).2.1
  | called =>
    rw [if_pos rfl, continues, finishing, hstop]
    rfl
  | left => rfl

/-- **The stop is not broken off.** For every call of the stop, its end has come or is on the agenda
at its time, and there are no others. -/
theorem Reaches.pending {d : Nat} (hstop : s.stop = .takes d) {st : Stage ε} (h : Reaches s st) :
    (st.run.times Observation.isStopped ++ st.agenda.timesOf .finished).Perm
      ((st.run.times Observation.isStop).map (· + d)) := by
  induction h with
  | refl => exact .rfl
  | tail _ hturn ih =>
    cases hturn with
    | react r front back now g _ =>
      have hnotes := Run.notes_react s r now g
      -- what is taken from the agenda, and what is put on it
      have htaken : (Agenda.timesOf (front ++ (now, g) :: back) .finished).Perm
          ((if g = .finished then [now] else []) ++ Agenda.timesOf (front ++ back) .finished) := by
        rw [← Agenda.timesOf_cons]
        exact Agenda.timesOf_perm List.perm_middle .finished
      have hput : (Agenda.timesOf ((front ++ back).addAll (r.react s now g).next) .finished).Perm
          (Agenda.timesOf (front ++ back) .finished ++ if g = .called then [now + d] else []) := by
        rw [← r.timesOf_finished_react hstop now g, ← Agenda.timesOf_append]
        exact Agenda.timesOf_perm (Agenda.addAll_perm _ _) .finished
      have hcall : (if g = .called then [now] else []).map (· + d) =
          if g = .called then [now + d] else [] := by
        split <;> rfl
      change ((r.react s now g).run.times Observation.isStopped ++
        Agenda.timesOf ((front ++ back).addAll (r.react s now g).next) .finished).Perm
          (((r.react s now g).run.times Observation.isStop).map (· + d))
      rw [hnotes.stopped, hnotes.stop, List.map_append, hcall, List.append_assoc]
      refine ((hput.append_left _).append_left _).trans ?_
      rw [← List.append_assoc, ← List.append_assoc]
      refine List.Perm.append_right _ (.trans ?_ ih)
      rw [List.append_assoc]
      exact htaken.symm.append_left _

/-! ### The end of the watch -/

namespace Run

variable {n : Nat}

private theorem ends_of_linger (hlinger : s.linger = some n) (hn : 0 < n) (r : Run ε) (now : Nat)
    (o : Outcome ε) :
    r.ends s now o =
      ⟨{ r with outcome := some o }.observe now .finish, [(now + n, .left)], false⟩ := by
  unfold ends
  split
  · next hnone => cases hnone.symm.trans hlinger
  · next hzero =>
    obtain rfl := Option.some.inj (hzero.symm.trans hlinger)
    exact absurd hn (Nat.lt_irrefl 0)
  · next time _ htime =>
    obtain rfl := Option.some.inj (htime.symm.trans hlinger)
    rfl

/-- The watch ends some time after the run does. -/
private theorem exists_finish_of_left (hlinger : s.linger = some n) (hn : 0 < n) (r : Run ε)
    (now : Nat) (h : Happening) {e : Nat × Happening} (he : e ∈ (r.react s now h).next)
    (hleft : e.2 = .left) :
    ∃ u ∈ (r.react s now h).run.times Observation.isFinish, e.1 = u + n := by
  have hreacts := reacts s r now h
  generalize r.react s now h = reaction at hreacts he
  cases hreacts with
  | @ends _ r' notes uncalled o =>
    rw [ends_of_linger hlinger hn] at he ⊢
    rw [List.mem_singleton.mp he, times_observe]
    exact ⟨now, List.mem_append_right _ List.mem_cons_self, rfl⟩
  | stops notes uncalled failure =>
    rcases List.mem_cons.mp he with rfl | he
    · cases hleft
    · rw [List.mem_singleton.mp he] at hleft
      cases hleft
  | goesOn notes uncalled nothing => exact absurd hleft (nothing e he).2.2
  | called =>
    obtain ⟨d, -, -, hkind | hkind⟩ := eq_of_mem_finishing he <;> cases hkind.symm.trans hleft
  | left => exact absurd he List.not_mem_nil

/-- Nothing else ends the watch. -/
private theorem left_of_isOver (hlinger : s.linger = some n) (hn : 0 < n) (r : Run ε) (now : Nat)
    (h : Happening) (hover : (r.react s now h).isOver = true) :
    h = .left ∧ (r.react s now h).next = [] := by
  have hreacts := reacts s r now h
  generalize r.react s now h = reaction at hreacts hover
  cases hreacts with
  | ends notes uncalled o =>
    rw [ends_of_linger hlinger hn] at hover
    cases hover
  | stops | goesOn | called => cases hover
  | left => exact ⟨rfl, rfl⟩

private theorem mem_times_of_prefix {r r' : Run ε} (h : r.events <+: r'.events) {u : Nat}
    {kind : Observation ε → Bool} (hu : u ∈ r.times kind) : u ∈ r'.times kind :=
  ((h.filter _).map _).subset hu

end Run

/-- **The watch goes on behind the end of the run.** When it is over, what is left on the agenda is
due no earlier than the end of the watch. -/
theorem Reaches.lingers {n : Nat} (hlinger : s.linger = some n) (hn : 0 < n) {st : Stage ε}
    (h : Reaches s st) :
    (∀ e ∈ st.agenda, e.2 = .left → ∃ u ∈ st.run.times Observation.isFinish, e.1 = u + n) ∧
    (st.isOver = true →
      ∃ u ∈ st.run.times Observation.isFinish, ∀ e ∈ st.agenda, u + n ≤ e.1) := by
  induction h with
  | refl =>
    refine ⟨fun e he hleft => ?_, fun h => by cases h⟩
    rw [List.mem_singleton.mp he] at hleft
    cases hleft
  | tail _ hturn ih =>
    cases hturn with
    | react r front back now g hearliest =>
      obtain ⟨hleaves, -⟩ := ih
      have hmem (e : Nat × Happening) (he : e ∈ (front ++ back).addAll (r.react s now g).next) :
          e ∈ front ++ back ∨ e ∈ (r.react s now g).next :=
        List.mem_append.mp ((Agenda.addAll_perm _ _).mem_iff.mp he)
      have hsame {u : Nat} (hu : u ∈ r.times Observation.isFinish) :
          u ∈ (r.react s now g).run.times Observation.isFinish :=
        Run.mem_times_of_prefix (Run.events_react s r now g) hu
      refine ⟨fun e he hleft => ?_, fun hover => ?_⟩
      · rcases hmem e he with he | he
        · obtain ⟨u, hu, htime⟩ :=
            hleaves e (List.perm_middle.mem_iff.mpr (List.mem_cons_of_mem _ he)) hleft
          exact ⟨u, hsame hu, htime⟩
        · exact r.exists_finish_of_left hlinger hn now g he hleft
      · -- the watch ends with what was next, which nothing precedes
        obtain ⟨rfl, hnext⟩ := r.left_of_isOver hlinger hn now g hover
        obtain ⟨u, hu, htime⟩ :=
          hleaves (now, .left) (List.perm_middle.mem_iff.mpr List.mem_cons_self) rfl
        refine ⟨u, hsame hu, fun e he => ?_⟩
        rw [← htime]
        rcases hmem e he with he | he
        · exact hearliest e he
        · rw [hnext] at he
          exact absurd he List.not_mem_nil

/-! ### The call of the stop -/

namespace Position

/-- Above a deadline of zero, the stop is called once when the trigger came, or not yet. -/
private theorem filter_isStop {p : Position ε} (hp : p.Holds s) (hdeadline : 0 < s.deadline) :
    ((p.view s).marks.filter (fun e => e.what.isStop) = [] ∧ ¬ (p.IsFinal ∧ s.Serves)) ∨
    ∃ t since, s.Wins t since ∧ (p.view s).wins = [⟨t.what, since, .running⟩] ∧
      (p.view s).marks.filter (fun e => e.what.isStop) =
        [⟨.stop (t.failure s), since, .stopping⟩] := by
  cases p with
  | building | launching | serving => exact .inl ⟨rfl, fun h => h.1⟩
  | unbuilt e =>
    refine .inl ⟨rfl, fun h => ?_⟩
    cases h.2.1.symm.trans hp
  | unstarted e =>
    refine .inl ⟨rfl, fun h => ?_⟩
    cases h.2.2.symm.trans hp.2
  | stopping t since isCalled =>
    cases isCalled with
    | false => exact .inl ⟨rfl, fun h => h.1⟩
    | true => exact .inr ⟨t, since, hp.2, rfl, rfl⟩
  | stopped t since duration => exact .inr ⟨t, since, hp.2.1, rfl, rfl⟩
  | aborted t since call =>
    cases call with
    | inTime => exact .inr ⟨t, since, hp.2.1, rfl, rfl⟩
    -- the deadline would have passed before the call
    | pending | late => exact absurd (hp.2.2.2 nofun) (Nat.ne_of_gt hdeadline)

end Position

/-- The calls of the stop are among the events that are followed. -/
private theorem filter_isStop_eq (r : Run ε) :
    (r.events.filter fun e => e.what.isStop) = r.view.marks.filter fun e => e.what.isStop := by
  have hsub (o : Observation ε) : (o.isStop && o.isMark) = o.isStop := by cases o <;> rfl
  simp only [Run.view, List.filter_filter, hsub]

namespace Script

/-- Something that may end the service comes at some time, and nothing comes before. -/
def TriggeredAt (s : Script ε) (since : Nat) : Prop :=
  (∃ h, (since, h) ∈ s.triggers) ∧ ∀ e ∈ s.triggers, since ≤ e.1

/-- If anything can end the wait, something comes first. -/
theorem exists_triggeredAt (h : s.triggers ≠ []) : ∃ since, s.TriggeredAt since := by
  obtain ⟨front, ⟨since, happening⟩, back, hsplit, hfirst⟩ := Agenda.exists_earliest h
  unfold TriggeredAt
  rw [hsplit]
  refine ⟨since, ⟨happening, List.mem_append_right _ List.mem_cons_self⟩, fun e he => ?_⟩
  rcases List.mem_cons.mp (List.perm_middle.mem_iff.mp he) with rfl | he
  · exact Nat.le_refl _
  · exact hfirst e he

/-- No trigger but one of the earliest wins. -/
theorem TriggeredAt.eq_of_wins {since time : Nat} (h : s.TriggeredAt since) {t : Trigger}
    (hwins : s.Wins t time) : time = since := by
  obtain ⟨⟨happening, hmem⟩, hfirst⟩ := h
  exact Nat.le_antisymm (hwins.2 _ hmem) (hfirst _ hwins.1)

end Script

section Done

variable {signal : Option Nat} {notice : Option (Notice ε)} {since : Nat} {st : Stage ε}

private theorem times_isStop_prefix_of_reaches (hwait : s.wait = .forEither signal notice)
    (hdeadline : 0 < s.deadline) (hsince : s.TriggeredAt since) (hst : Reaches s st) :
    st.run.times Observation.isStop <+: [since] := by
  obtain ⟨p, hp⟩ := hst.fits hwait
  have hcalls := filter_isStop_eq st.run
  rw [hp.view] at hcalls
  unfold Run.times
  rw [hcalls]
  rcases p.filter_isStop hp.holds hdeadline with ⟨hnil, -⟩ | ⟨t, time, hwins, -, hcall⟩
  · rw [hnil]
    exact List.nil_prefix
  · rw [hcall, ← hsince.eq_of_wins hwins]
    exact List.prefix_rfl

/-- A run that is done has asked its service to stop at the time of the trigger. It ended when the
stop did, or when the deadline passed. -/
private theorem stop_of_done (hwait : s.wait = .forEither signal notice) (hserves : s.Serves)
    (hdeadline : 0 < s.deadline) (hsince : s.TriggeredAt since) (hst : Reaches s st)
    (hdone : st.IsDone) :
    (∃ cause, (st.run.events.filter fun e => e.what.isStop) =
        [⟨.stop cause, since, .stopping⟩]) ∧
      (∃ what, st.run.wins = [⟨what, since, .running⟩]) ∧
      ∀ u ∈ st.run.times Observation.isFinish,
        s.stop.duration? = some (u - since) ∧ since ≤ u ∨ u = since + s.deadline := by
  obtain ⟨p, hp⟩ := hst.fits hwait
  have hfinal : p.IsFinal := by
    refine (hp.isFinal_or hdone).resolve_right ?_
    rintro ⟨-, hnil⟩
    obtain ⟨⟨happening, hmem⟩, -⟩ := hsince
    rw [hnil] at hmem
    exact absurd hmem List.not_mem_nil
  have hcalls := filter_isStop_eq st.run
  rw [hp.view] at hcalls
  have hwon : st.run.wins = (p.view s).wins := congrArg View.wins hp.view
  obtain ⟨t, time, hwins, hview, hcall⟩ :=
    (p.filter_isStop hp.holds hdeadline).resolve_left fun h => h.2 ⟨hfinal, hserves⟩
  obtain rfl : time = since := hsince.eq_of_wins hwins
  refine ⟨⟨_, hcalls.trans hcall⟩, ⟨_, hwon.trans hview⟩, fun u hu => ?_⟩
  obtain ⟨t', time', hwins', -, hrace⟩ := p.ending?_of_serves hp.holds hfinal hserves
  rw [hsince.eq_of_wins hwins'] at hrace
  rcases hrace with ⟨d, hd, -, hending⟩ | ⟨-, hending⟩
  · have hends : st.run.times Observation.isFinish = [time + d] := (hp.endsAt hending).2
    rw [hends, List.mem_singleton] at hu
    rw [hu, Nat.add_sub_cancel_left]
    exact .inl ⟨hd, Nat.le_add_right time d⟩
  · have hends : st.run.times Observation.isFinish = [time + s.deadline] := (hp.endsAt hending).2
    rw [hends] at hu
    exact .inr (List.mem_singleton.mp hu)

/-- A run that is done has seen the stop finish, if it was watched for long enough. -/
private theorem stopped_of_done (hwait : s.wait = .forEither signal notice) (hserves : s.Serves)
    (hdeadline : 0 < s.deadline) (hsince : s.TriggeredAt since) (hst : Reaches s st)
    (hdone : st.IsDone) {d n : Nat} (hstop : s.stop = .takes d) (hlinger : s.linger = some n)
    (hn : 0 < n) (hlong : d < s.deadline + n) :
    st.run.times Observation.isStopped = [since + d] := by
  obtain ⟨⟨cause, hcall⟩, -, hfinish⟩ :=
    stop_of_done hwait hserves hdeadline hsince hst hdone
  have hpending := hst.pending hstop
  have htimes : st.run.times Observation.isStop = [since] := by
    unfold Run.times
    rw [hcall]
    rfl
  rw [htimes] at hpending
  have hnil : st.agenda.timesOf .finished = [] := by
    refine List.eq_nil_iff_forall_not_mem.mpr fun time htime => ?_
    have hagenda := Agenda.mem_timesOf htime
    obtain rfl : time = since + d :=
      List.mem_singleton.mp (hpending.mem_iff.mp (List.mem_append_right _ htime))
    rcases hdone with hover | hempty
    · -- the watch would have ended before the stop
      obtain ⟨u, hu, hlate⟩ := (hst.lingers hlinger hn).2 hover
      have hle : u + n ≤ since + d := hlate _ hagenda
      rcases hfinish u hu with ⟨hduration, hafter⟩ | rfl
      · rw [hstop] at hduration
        have hd : d = u - since := Option.some.inj hduration
        omega
      · omega
    · rw [hempty] at hagenda
      exact absurd hagenda List.not_mem_nil
  rw [hnil, List.append_nil] at hpending
  exact List.perm_singleton.mp hpending

end Done

/-- **Missing the deadline does not disturb the stop.** A service runs, and a signal or a notice
comes, some of them first. Under every deadline above zero, and in every order of what comes at the
same time, the service is asked to stop once, at that time, which is when phase `stopping` is
entered. For a stop that takes some time, the end is seen that long after the call, or is still to
come: always if the run is watched until then, whether or not the deadline passed before. Under any
two deadlines, the events up to the call and with it are the same. -/
theorem stop_undisturbed {signal : Option Nat} {notice : Option (Notice ε)}
    (hwait : s.wait = .forEither signal notice) (hserves : s.Serves)
    (hcame : signal ≠ none ∨ notice ≠ none) :
    ∃ since,
      (∀ deadline, 0 < deadline →
        (∃ st, Reaches (s.within deadline) st ∧ st.IsDone ∧ st.run = run (s.within deadline)) ∧
        ∀ st, Reaches (s.within deadline) st →
          st.run.times Observation.isStop <+: [since] ∧
          (∀ d, s.stop = .takes d →
            (st.run.times Observation.isStopped ++ st.agenda.timesOf .finished).Perm
              ((st.run.times Observation.isStop).map (· + d))) ∧
          (st.IsDone →
            st.run.times Observation.isStop = [since] ∧
            (∃ before cause, st.run.untilStop = before ++ [⟨.stop cause, since, .stopping⟩]) ∧
            (∀ time, Entered (s.within deadline) .stopping time st ↔ time = since) ∧
            ∀ d n, s.stop = .takes d → s.linger = some n → 0 < n → d < deadline + n →
              st.run.times Observation.isStopped = [since + d])) ∧
      ∀ deadline deadline', 0 < deadline → 0 < deadline' →
        (run (s.within deadline)).untilStop = (run (s.within deadline')).untilStop ∧
        ∀ a, Reaches (s.within deadline) a →
          ∃ b, Reaches (s.within deadline') b ∧ b.run.untilStop = a.run.untilStop ∧
            (a.IsDone → b.IsDone) := by
  have htriggers : s.triggers ≠ [] := by
    rw [ne_eq, triggers_eq_nil_iff hwait]
    exact fun h => hcame.elim (· h.1) (· h.2)
  obtain ⟨since, hsince⟩ := Script.exists_triggeredAt htriggers
  refine ⟨since, fun deadline hdeadline => ⟨reaches_run _, fun st hst => ?_⟩,
    fun deadline deadline' hdeadline hdeadline' => ⟨?_, fun a ha => ?_⟩⟩
  · have hwait' : (s.within deadline).wait = .forEither signal notice := hwait
    -- what triggers the stop does not depend on the deadline
    have hsince : (s.within deadline).TriggeredAt since := hsince
    refine ⟨times_isStop_prefix_of_reaches hwait' hdeadline hsince hst,
      fun d hstop => Reaches.pending (s := s.within deadline) hstop hst, fun hdone => ?_⟩
    obtain ⟨⟨cause, hcall⟩, ⟨what, hwon⟩, -⟩ :=
      stop_of_done hwait' hserves hdeadline hsince hst hdone
    refine ⟨?_, ?_, fun time => ?_, fun d n hstop hlinger hn hlong => ?_⟩
    · unfold Run.times
      rw [hcall]
      rfl
    · obtain ⟨before, hbefore⟩ := Run.untilStop_of_filter hcall
      exact ⟨before, cause, hbefore⟩
    · rw [entered_stopping_iff hwait' hst, hwon]
      constructor
      · rintro ⟨what', heq⟩
        exact (congrArg Event.time (List.singleton_inj.mp heq)).symm
      · rintro rfl
        exact ⟨what, rfl⟩
    · exact stopped_of_done hwait' hserves hdeadline hsince hst hdone hstop hlinger hn hlong
  · exact untilStop_run_within hdeadline hdeadline' s
  · exact exists_untilStop_eq hdeadline hdeadline' ha

/-- The one deadline passes before the stop finishes, the other one does not. -/
theorem stop_undisturbed_aborted :
    let s : Script String :=
      ⟨⟨1, none⟩, ⟨2, none⟩, .forEither (some 5) (some ⟨9, .failed "lost"⟩), .takes 15, 20, some 10⟩
    (run (s.within 10)).phase = .aborted ∧ (run (s.within 20)).phase = .stopped ∧
      (run (s.within 10)).untilStop = (run (s.within 20)).untilStop ∧
      (run (s.within 10)).times Observation.isStopped = [23] ∧
      (run (s.within 20)).times Observation.isStopped = [23] := by
  intro s
  have hwait : s.wait = .forEither (some 5) (some ⟨9, .failed "lost"⟩) := rfl
  obtain ⟨since, hall, htwo⟩ := stop_undisturbed hwait ⟨rfl, rfl⟩ (.inl nofun)
  obtain ⟨⟨st, hst, hdone, hrun⟩, hevery⟩ := hall 10 (by decide)
  obtain ⟨⟨st', hst', hdone', hrun'⟩, hevery'⟩ := hall 20 (by decide)
  obtain ⟨-, -, hstop⟩ := hevery st hst
  obtain ⟨-, -, hstop'⟩ := hevery' st' hst'
  obtain ⟨hcall, -, -, hstopped⟩ := hstop hdone
  obtain ⟨-, -, -, hstopped'⟩ := hstop' hdone'
  have hsince : [since] = [8] := by
    rw [← hcall, hrun]
    decide +kernel
  obtain rfl : since = 8 := List.singleton_inj.mp hsince
  refine ⟨by decide +kernel, by decide +kernel, (htwo 10 20 (by decide) (by decide)).1, ?_, ?_⟩
  · rw [← hrun]
    exact hstopped 15 10 rfl rfl (by decide) (by decide)
  · rw [← hrun']
    exact hstopped' 15 10 rfl rfl (by decide) (by decide)

end Gateway.Lifecycle
