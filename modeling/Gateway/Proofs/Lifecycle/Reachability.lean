import Gateway.Proofs.Lifecycle.Positions

/-!
# The positions that a run gets to

Every stage that is reached fits a position (`Reaches.fits`), by going from turn to turn. A turn is
either about something that the position ignores, and then the stage still fits it
(`react_ignored`), or about something that it waits for. For each position that waits there is a
lemma about the latter: `fits_building`, `fits_launching`, `fits_serving`, `fits_stopping_uncalled`
and `fits_stopping_called`, and `fits_aborted`, where a deadline of zero passed before the call.
-/

namespace Gateway.Lifecycle

variable {ε : Type} {s : Script ε}

namespace Position

/-! ### What is ignored -/

private theorem isIdle_of_trigger {h : Happening} (hh : h = .signalled ∨ h = .noticed) :
    h.IsIdle := by
  rcases hh with rfl | rfl <;> exact ⟨nofun, nofun, nofun⟩

private theorem isIdle_of_mem_ends {r : Run ε} {now : Nat} {o : Outcome ε} {e : Nat × Happening}
    (he : e ∈ (r.ends s now o).next) : e.2.IsIdle := by
  rw [r.eq_left_of_mem_ends s now o e he]
  exact ⟨nofun, nofun, nofun⟩

/-- A run that has ended ignores what is left on its agenda. -/
private theorem ignores_of_isFinal {p : Position ε} (hp : p.IsFinal) {h : Happening}
    (hh : h.IsIdle) : p.Ignores h := by
  cases p with
  | building | launching | serving | stopping => exact hp.elim
  | unbuilt | unstarted | stopped | aborted => exact hh

/-- Behind the end of a run, nothing is seen of what is left on the agenda. -/
private theorem react_ended {r : Run ε} (hrunning : r.phase ≠ .running)
    (hstopping : r.phase ≠ .stopping) (now : Nat) {h : Happening}
    (hh : h.IsIdle) :
    (r.react s now h).run.view = r.view ∧ (r.react s now h).next = [] := by
  obtain ⟨hbuilt, hstarted, hcalled⟩ := hh
  cases h with
  | built => exact absurd rfl hbuilt
  | started => exact absurd rfl hstarted
  | called => exact absurd rfl hcalled
  | signalled =>
    rw [Run.react, if_neg hrunning]
    exact ⟨rfl, rfl⟩
  | noticed =>
    rw [Run.react, if_neg hrunning]
    exact ⟨r.view_observe now rfl (.inr hrunning), rfl⟩
  | expired =>
    rw [Run.react, if_neg hstopping]
    exact ⟨rfl, rfl⟩
  | finished =>
    have hsettles : (r.observe now .stopped).settles s now =
        (r.observe now .stopped).continues [] := if_neg hstopping
    rw [Run.react, hsettles]
    exact ⟨r.view_observe now rfl (.inl rfl), rfl⟩
  | broken =>
    have hsettles : r.settles s now = r.continues [] := if_neg hstopping
    rw [Run.react, hsettles]
    exact ⟨rfl, rfl⟩
  | left => exact ⟨r.view_observe now rfl (.inl rfl), rfl⟩

/-- What a position ignores is not seen and brings about nothing. -/
private theorem react_ignored {p : Position ε} {r : Run ε} (hview : r.view = p.view s) (now : Nat)
    {h : Happening} (hh : p.Ignores h) :
    (r.react s now h).run.view = r.view ∧ (r.react s now h).next = [] ∧
      ((r.react s now h).isOver = true → p.IsFinal) := by
  have hphase : r.phase = (p.view s).phase := congrArg View.phase hview
  have hended (hp : p.IsFinal) (hrunning : (p.view s).phase ≠ .running)
      (hstopping : (p.view s).phase ≠ .stopping) (hh : h.IsIdle) :
      (r.react s now h).run.view = r.view ∧ (r.react s now h).next = [] ∧
        ((r.react s now h).isOver = true → p.IsFinal) := by
    have hreact := react_ended (s := s) (hphase ▸ hrunning) (hphase ▸ hstopping) now hh
    exact ⟨hreact.1, hreact.2, fun _ => hp⟩
  cases p with
  | building | launching | serving => exact hh.elim
  | unbuilt e => exact hended trivial nofun nofun hh
  | unstarted e => exact hended trivial nofun nofun hh
  | stopped t since duration => exact hended trivial nofun nofun hh
  | aborted t since call => exact hended trivial nofun nofun hh
  | stopping t since isCalled =>
    have hrunning : r.phase ≠ .running := by
      rw [hphase]
      exact nofun
    rcases hh with rfl | rfl
    · rw [Run.react, if_neg hrunning]
      exact ⟨rfl, rfl, fun h => (Bool.false_ne_true h).elim⟩
    · rw [Run.react, if_neg hrunning]
      exact ⟨r.view_observe now rfl (.inr hrunning), rfl, fun h => (Bool.false_ne_true h).elim⟩

/-- One of several happenings is taken: what is left is what was there less that one. -/
private theorem perm_of_cons_perm_append {e : Nat × Happening} {others core rest : Agenda}
    (h : (e :: others).Perm (core ++ rest)) :
    (e ∈ core ∧ others.Perm (core.erase e ++ rest)) ∨
      (e ∈ rest ∧ others.Perm (core ++ rest.erase e)) := by
  have hothers : others.Perm ((core ++ rest).erase e) := (List.cons_perm_iff_perm_erase.mp h).2
  by_cases hcore : e ∈ core
  · rw [List.erase_append_left rest hcore] at hothers
    exact .inl ⟨hcore, hothers⟩
  · have hmem : e ∈ core ++ rest := h.mem_iff.mp List.mem_cons_self
    rw [List.erase_append_right rest hcore] at hothers
    exact .inr ⟨(List.mem_append.mp hmem).resolve_left hcore, hothers⟩

/-! ### What is waited for -/

/-- A stage behind a reaction fits a position if it looks like it and the agenda holds what the
position waits for. -/
private theorem fits_behind {q : Position ε} {reaction : Reaction ε} {others : Agenda}
    (hview : reaction.run.view = q.view s) (hholds : q.Holds s)
    (hover : reaction.isOver = true → q.IsFinal) {rest : Agenda}
    (hperm : (others ++ reaction.next).Perm (q.core s ++ rest))
    (hrest : ∀ e ∈ rest, q.Ignores e.2) : Fits s (.behind others reaction) q where
  view := hview
  holds := hholds
  agenda := ⟨rest, (others.addAll_perm reaction.next).trans hperm, hrest⟩
  isOver := hover

/-- A stage behind a run that goes on. -/
private theorem fits_continues {q : Position ε} {r : Run ε} {next others : Agenda}
    (hview : r.view = q.view s) (hholds : q.Holds s) {rest : Agenda}
    (hperm : (others ++ next).Perm (q.core s ++ rest)) (hrest : ∀ e ∈ rest, q.Ignores e.2) :
    Fits s (.behind others (r.continues next)) q :=
  fits_behind hview hholds (fun h => (Bool.false_ne_true h).elim) hperm hrest

/-- A stage at the end of a run fits a final position that looks like it. -/
private theorem fits_ends (q : Position ε) (hfinal : q.IsFinal) (hholds : q.Holds s) {r : Run ε}
    {now : Nat} {o : Outcome ε}
    (hview : { r.view.mark now .finish with outcome := some o } = q.view s)
    {others rest : Agenda} (hothers : others.Perm (q.core s ++ rest))
    (hrest : ∀ e ∈ rest, e.2.IsIdle) : Fits s (.behind others (r.ends s now o)) q := by
  have hperm : (others ++ (r.ends s now o).next).Perm
      (q.core s ++ (rest ++ (r.ends s now o).next)) := by
    rw [← List.append_assoc]
    exact hothers.append_right _
  refine fits_behind ((r.view_ends s now o).trans hview) hholds (fun _ => hfinal) hperm
    fun e he => ?_
  rcases List.mem_append.mp he with he | he
  · exact ignores_of_isFinal hfinal (hrest e he)
  · exact ignores_of_isFinal hfinal (isIdle_of_mem_ends he)

/-- Building ends. -/
private theorem fits_building {r : Run ε} (hview : r.view = building.view s) :
    ∃ q, Fits s (.behind [] (r.react s s.build.duration .built)) q := by
  cases he : s.build.error with
  | some e =>
    have hreact : r.react s s.build.duration .built =
        r.ends s s.build.duration (.construction e) := by
      rw [Run.react]
      simp only [he]
    rw [hreact]
    refine ⟨unbuilt e,
      fits_ends (unbuilt e) trivial he ?_ .rfl fun f hf => absurd hf List.not_mem_nil⟩
    rw [hview]
    rfl
  | none =>
    have hreact : r.react s s.build.duration .built =
        (r.observe s.build.duration .start).continues [(s.servesAt, .started)] := by
      rw [Run.react]
      simp only [he]
      rfl
    rw [hreact]
    refine ⟨launching, fits_continues ?_ he .rfl fun f hf => absurd hf List.not_mem_nil⟩
    rw [r.view_observe_mark _ rfl, hview]
    rfl

/-- Starting ends. -/
private theorem fits_launching {signal : Option Nat} {notice : Option (Notice ε)}
    (hwait : s.wait = .forEither signal notice) {r : Run ε} (hview : r.view = launching.view s)
    (hbuild : s.build.error = none) :
    ∃ q, Fits s (.behind [] (r.react s s.servesAt .started)) q := by
  cases he : s.start.error with
  | some e =>
    have hreact : r.react s s.servesAt .started = r.ends s s.servesAt (.start e) := by
      rw [Run.react]
      simp only [he]
    rw [hreact]
    refine ⟨unstarted e,
      fits_ends (unstarted e) trivial ⟨hbuild, he⟩ ?_ .rfl fun f hf => absurd hf List.not_mem_nil⟩
    rw [hview]
    rfl
  | none =>
    have hreact : r.react s s.servesAt .started =
        ((r.enter .running).observe s.servesAt .waiting).continues s.triggers := by
      rw [Run.react]
      simp only [he, Run.serves, hwait, Script.triggers]
    rw [hreact]
    refine ⟨serving, fits_continues ?_ ⟨hbuild, he⟩ ?_ fun f hf => absurd hf List.not_mem_nil⟩
    · rw [Run.view_observe_mark _ _ rfl, Run.view_enter, hview]
      rfl
    · rw [List.append_nil]
      exact .rfl

/-- What may end a service is a signal or a notice. -/
private theorem eq_happening_of_mem_triggers {e : Nat × Happening} (h : e ∈ s.triggers) :
    ∃ t : Trigger, e.2 = t.happening := by
  unfold Script.triggers at h
  split at h
  · exact absurd h List.not_mem_nil
  · rcases List.mem_append.mp h with h | h
    · obtain ⟨t, -, rfl⟩ := Option.map_eq_some_iff.mp (Option.mem_toList.mp h)
      exact ⟨.signal, rfl⟩
    · obtain ⟨n, -, rfl⟩ := Option.map_eq_some_iff.mp (Option.mem_toList.mp h)
      exact ⟨.notice, rfl⟩

/-- A trigger finds the service running. -/
private theorem fits_serving {r : Run ε} (hview : r.view = serving.view s) (hserves : s.Serves)
    {now : Nat} {h : Happening} (hmem : (now, h) ∈ s.triggers) {others : Agenda}
    (hothers : others.Perm (s.triggers.erase (now, h))) (hearliest : ∀ e ∈ others, now ≤ e.1) :
    ∃ q, Fits s (.behind others (r.react s now h)) q := by
  obtain ⟨t, ht⟩ := eq_happening_of_mem_triggers hmem
  obtain rfl : h = t.happening := ht
  have hphase : r.phase = .running := congrArg View.phase hview
  have hreact : r.react s now t.happening =
      (r.observe now t.what).stops s now (t.failure s) := by
    cases t <;> exact if_pos hphase
  have hwins : s.Wins t now := by
    refine ⟨hmem, fun e he => ?_⟩
    rcases List.mem_cons.mp ((List.perm_cons_erase hmem).mem_iff.mp he) with rfl | he
    · exact Nat.le_refl _
    · exact hearliest e (hothers.mem_iff.mpr he)
  rw [hreact]
  refine ⟨stopping t now false, fits_behind ?_ ⟨hserves, hwins⟩ nofun List.perm_append_comm
    fun e he => ?_⟩
  · change { ((r.observe now t.what).view.enter .stopping) with failure := t.failure s } = _
    rw [r.view_observe_trigger now (by cases t <;> rfl) hphase, hview]
    rfl
  · obtain ⟨u, hu⟩ := eq_happening_of_mem_triggers (List.mem_of_mem_erase (hothers.mem_iff.mp he))
    rw [hu]
    cases u
    · exact .inl rfl
    · exact .inr rfl

private theorem isIdle_of_mem_finishing {since : Nat} {e : Nat × Happening}
    (he : e ∈ Run.finishing s since) : e.2.IsIdle := by
  obtain ⟨_, -, -, he | he⟩ := Run.eq_of_mem_finishing he <;> rw [he] <;>
    exact ⟨nofun, nofun, nofun⟩

/-- A stop that finishes is on the agenda for its time. -/
private theorem exists_mem_finishing {d : Nat} (h : s.stop.duration? = some d) (since : Nat) :
    ∃ e ∈ Run.finishing s since, e.1 = since + d := by
  unfold Run.finishing
  cases hstop : s.stop with
  | takes duration =>
    rw [hstop] at h
    obtain rfl := Option.some.inj h
    exact ⟨_, List.mem_singleton_self _, rfl⟩
  | never =>
    rw [hstop] at h
    cases h
  | breaksAfter duration =>
    rw [hstop] at h
    obtain rfl := Option.some.inj h
    exact ⟨_, List.mem_singleton_self _, rfl⟩

/-- The service is called. -/
private theorem fits_called {t : Trigger} {since : Nat} {r : Run ε}
    (hview : r.view = (stopping t since false).view s) (hserves : s.Serves)
    (hwins : s.Wins t since) {others rest : Agenda}
    (hothers : others.Perm ((since + s.deadline, .expired) :: rest))
    (hrest : ∀ e ∈ rest, e.2 = .signalled ∨ e.2 = .noticed) :
    Fits s (.behind others (r.react s since .called)) (stopping t since true) := by
  have hfailure : r.failure = t.failure s := congrArg View.failure hview
  have hreact : r.react s since .called =
      (r.observe since (.stop (t.failure s))).continues (Run.finishing s since) := by
    rw [Run.react, hfailure]
  have hperm : (others ++ Run.finishing s since).Perm
      ((since + s.deadline, .expired) :: Run.finishing s since ++ rest) :=
    (hothers.append_right _).trans (List.perm_append_comm.cons _)
  rw [hreact]
  refine fits_continues ?_ ⟨hserves, hwins⟩ hperm hrest
  rw [r.view_observe_mark since rfl, hview]
  rfl

/-- The deadline passes. -/
private theorem fits_expired {t : Trigger} {since : Nat} {isCalled : Bool} {call : Call} {r : Run ε}
    (hview : r.view = (stopping t since isCalled).view s)
    (hcall : call = if isCalled then .inTime else .pending)
    (hholds : (aborted t since call).Holds s) {others rest : Agenda}
    (hothers : others.Perm ((aborted t since call).core s ++ rest))
    (hrest : ∀ e ∈ rest, e.2.IsIdle) :
    Fits s (.behind others (r.react s (since + s.deadline) .expired)) (aborted t since call) := by
  have hphase : r.phase = .stopping := congrArg View.phase hview
  have hreact : r.react s (since + s.deadline) .expired =
      (r.enter .aborted).ends s (since + s.deadline) (.timeout s.deadline) := if_pos hphase
  rw [hreact]
  refine fits_ends (aborted t since call) trivial hholds ?_ hothers hrest
  rw [Run.view_enter, hview, hcall]
  cases isCalled <;> rfl

/-- The stop comes to an end within the deadline. -/
private theorem fits_settles {t : Trigger} {since d : Nat} {r : Run ε}
    (hview : r.view = (stopping t since true).view s) (hholds : (stopped t since d).Holds s)
    {others : Agenda} (hothers : ∀ e ∈ others, e.2.IsIdle) :
    Fits s (.behind others (r.settles s (since + d))) (stopped t since d) := by
  have hphase : r.phase = .stopping := congrArg View.phase hview
  have hfailure : r.failure = t.failure s := congrArg View.failure hview
  have hsettles : r.settles s (since + d) =
      (r.enter .stopped).ends s (since + d) (Run.outcomeOf (t.failure s)) := by
    rw [Run.settles, if_pos hphase, hfailure]
  rw [hsettles]
  refine fits_ends (stopped t since d) trivial hholds ?_ .rfl hothers
  rw [Run.view_enter, hview]
  rfl

/-- The service is called, or a deadline of zero passes first. -/
private theorem fits_stopping_uncalled {t : Trigger} {since : Nat} {r : Run ε}
    (hview : r.view = (stopping t since false).view s) (hserves : s.Serves)
    (hwins : s.Wins t since) {now : Nat} {h : Happening}
    (hmem : (now, h) ∈ (stopping t since false).core s) {others rest : Agenda}
    (hothers : others.Perm (((stopping t since false).core s).erase (now, h) ++ rest))
    (hrest : ∀ e ∈ rest, e.2 = .signalled ∨ e.2 = .noticed)
    (hearliest : ∀ e ∈ others, now ≤ e.1) :
    ∃ q, Fits s (.behind others (r.react s now h)) q := by
  have hmem : (now, h) = (since + s.deadline, .expired) ∨ (now, h) = (since, .called) := by
    simpa [core] using hmem
  rcases hmem with heq | heq
  · obtain ⟨rfl, rfl⟩ := Prod.mk.inj heq
    have hleft : ((stopping t since false).core s).erase (since + s.deadline, .expired) =
        [(since, .called)] := List.erase_cons_head ..
    rw [hleft] at hothers
    -- the call is still to come, and it is not due later than the deadline passes
    have hzero : s.deadline = 0 := by
      have hle := hearliest _ (hothers.mem_iff.mpr List.mem_cons_self)
      exact Nat.le_zero.mp (Nat.le_of_add_le_add_left hle)
    exact ⟨aborted t since .pending, fits_expired hview rfl
      ⟨hserves, hwins, fun d _ => hzero ▸ Nat.zero_le d, fun _ => hzero⟩ hothers
      fun e he => isIdle_of_trigger (hrest e he)⟩
  · obtain ⟨rfl, rfl⟩ := Prod.mk.inj heq
    have hleft : ((stopping t now false).core s).erase (now, .called) =
        [(now + s.deadline, .expired)] := by
      rw [core, List.erase_cons_tail (by simp), List.erase_cons_head]
    rw [hleft] at hothers
    exact ⟨stopping t now true, fits_called hview hserves hwins hothers hrest⟩

/-- The stop comes to an end, or the deadline passes. -/
private theorem fits_stopping_called {t : Trigger} {since : Nat} {r : Run ε}
    (hview : r.view = (stopping t since true).view s) (hserves : s.Serves)
    (hwins : s.Wins t since) {now : Nat} {h : Happening}
    (hmem : (now, h) ∈ (stopping t since true).core s) {others rest : Agenda}
    (hothers : others.Perm (((stopping t since true).core s).erase (now, h) ++ rest))
    (hrest : ∀ e ∈ rest, e.2 = .signalled ∨ e.2 = .noticed)
    (hearliest : ∀ e ∈ others, now ≤ e.1) :
    ∃ q, Fits s (.behind others (r.react s now h)) q := by
  -- whatever is left on the agenda is ignored once the run has ended
  have hidle : ∀ e ∈ others, e.2.IsIdle := by
    intro e he
    rcases List.mem_append.mp (hothers.mem_iff.mp he) with he | he
    · rcases List.mem_cons.mp (List.mem_of_mem_erase he) with rfl | he
      · exact ⟨nofun, nofun, nofun⟩
      · exact isIdle_of_mem_finishing he
    · exact isIdle_of_trigger (hrest e he)
  rcases List.mem_cons.mp hmem with heq | hmem
  · obtain ⟨rfl, rfl⟩ := Prod.mk.inj heq
    have hleft : ((stopping t since true).core s).erase (since + s.deadline, .expired) =
        Run.finishing s since := List.erase_cons_head ..
    rw [hleft] at hothers
    -- a stop that comes to an end is still on the agenda, so it is not due before the deadline
    have hlate : ∀ d, s.stop.duration? = some d → s.deadline ≤ d := by
      intro d hd
      obtain ⟨e, he, htime⟩ := exists_mem_finishing hd since
      have hle := hearliest e (hothers.mem_iff.mpr (List.mem_append_left _ he))
      rw [htime] at hle
      exact Nat.le_of_add_le_add_left hle
    exact ⟨aborted t since .inTime,
      fits_expired hview rfl ⟨hserves, hwins, hlate, fun h => absurd rfl h⟩ .rfl hidle⟩
  · obtain ⟨d, hd, htime, hkind⟩ := Run.eq_of_mem_finishing hmem
    obtain rfl : now = since + d := htime
    -- nor is the deadline due before the stop
    have hle : d ≤ s.deadline := by
      have hne : (since + s.deadline, Happening.expired) ≠ (since + d, h) := by
        intro heq
        rw [← (Prod.mk.inj heq).2] at hkind
        exact hkind.elim nofun nofun
      have hexpired : (since + s.deadline, .expired) ∈
          ((stopping t since true).core s).erase (since + d, h) :=
        (List.mem_erase_of_ne hne).mpr List.mem_cons_self
      have hle := hearliest _ (hothers.mem_iff.mpr (List.mem_append_left _ hexpired))
      exact Nat.le_of_add_le_add_left hle
    have hholds : (stopped t since d).Holds s := ⟨hserves, hwins, hd, hle⟩
    rcases hkind with hkind | hkind
    · obtain rfl : h = .finished := hkind
      have hview : (r.observe (since + d) .stopped).view = (stopping t since true).view s :=
        (r.view_observe _ rfl (.inl rfl)).trans hview
      exact ⟨_, fits_settles hview hholds hidle⟩
    · obtain rfl : h = .broken := hkind
      exact ⟨_, fits_settles hview hholds hidle⟩

/-- A service that is called after a deadline of zero has passed. -/
private theorem fits_aborted {t : Trigger} {since : Nat} {r : Run ε}
    (hview : r.view = (aborted t since .pending).view s)
    (hholds : (aborted t since .pending).Holds s) {others rest : Agenda}
    (hothers : others.Perm rest)
    (hrest : ∀ e ∈ rest, e.2.IsIdle) :
    ∃ q, Fits s (.behind others (r.react s since .called)) q := by
  have hfailure : r.failure = t.failure s := congrArg View.failure hview
  obtain ⟨hserves, hwins, hlate, hdeadline⟩ := hholds
  have hzero : s.deadline = 0 := hdeadline nofun
  have hreact : r.react s since .called =
      (r.observe since (.stop (t.failure s))).continues (Run.finishing s since) := by
    rw [Run.react, hfailure]
  rw [hreact]
  refine ⟨aborted t since .late, fits_continues ?_ ⟨hserves, hwins, hlate, fun _ => hzero⟩ .rfl
    fun e he => ?_⟩
  · rw [r.view_observe_mark since rfl, hview]
    rfl
  · rcases List.mem_append.mp he with he | he
    · exact hrest e (hothers.mem_iff.mp he)
    · exact isIdle_of_mem_finishing he

/-! ### Turns and runs -/

/-- **A turn keeps to positions.** If a stage fits one, the stage behind a turn fits one. -/
theorem fits_turn {signal : Option Nat} {notice : Option (Notice ε)}
    (hwait : s.wait = .forEither signal notice) {a b : Stage ε} (hturn : Turn s a b)
    {p : Position ε} (ha : Fits s a p) : ∃ q, Fits s b q := by
  cases hturn with
  | react r front back now h hearliest =>
    obtain ⟨hview, hholds, ⟨rest, hperm, hrest⟩, -⟩ := ha
    -- what is taken is among what the position waits for, or among what it ignores
    have hperm : ((now, h) :: (front ++ back)).Perm (p.core s ++ rest) :=
      List.perm_middle.symm.trans hperm
    generalize hothers : front ++ back = others at hperm hearliest
    rcases perm_of_cons_perm_append hperm with ⟨hmem, hleft⟩ | ⟨hmem, hleft⟩
    · cases p with
      | building =>
        obtain ⟨rfl, rfl⟩ := Prod.mk.inj (List.mem_singleton.mp hmem)
        obtain rfl : rest = [] := List.eq_nil_iff_forall_not_mem.mpr hrest
        have hnil : others = [] := by simpa [core] using hleft
        rw [hnil]
        exact fits_building hview
      | launching =>
        obtain ⟨rfl, rfl⟩ := Prod.mk.inj (List.mem_singleton.mp hmem)
        obtain rfl : rest = [] := List.eq_nil_iff_forall_not_mem.mpr hrest
        have hnil : others = [] := by simpa [core] using hleft
        rw [hnil]
        exact fits_launching hwait hview hholds
      | serving =>
        obtain rfl : rest = [] := List.eq_nil_iff_forall_not_mem.mpr hrest
        rw [List.append_nil] at hleft
        exact fits_serving hview hholds hmem hleft hearliest
      | stopping t since isCalled =>
        cases isCalled with
        | false => exact fits_stopping_uncalled hview hholds.1 hholds.2 hmem hleft hrest hearliest
        | true => exact fits_stopping_called hview hholds.1 hholds.2 hmem hleft hrest hearliest
      | aborted t since call =>
        cases call with
        | pending =>
          obtain ⟨rfl, rfl⟩ := Prod.mk.inj (List.mem_singleton.mp hmem)
          have hleft : others.Perm rest := by simpa [core] using hleft
          exact fits_aborted hview hholds hleft hrest
        | inTime | late => exact absurd hmem List.not_mem_nil
      | unbuilt | unstarted | stopped => exact absurd hmem List.not_mem_nil
    · obtain ⟨hsame, hnext, hover⟩ := react_ignored hview now (hrest _ hmem)
      have hkeep : (others ++ (r.react s now h).next).Perm (p.core s ++ rest.erase (now, h)) := by
        rw [hnext, List.append_nil]
        exact hleft
      exact ⟨p, fits_behind (hsame.trans hview) hholds hover hkeep
        fun e he => hrest e (List.mem_of_mem_erase he)⟩

end Position

/-- **A run keeps to positions**, in every order of happenings at the same time. -/
theorem Reaches.fits {signal : Option Nat} {notice : Option (Notice ε)}
    (hwait : s.wait = .forEither signal notice) {st : Stage ε} (h : Reaches s st) :
    ∃ p, Position.Fits s st p := by
  induction h with
  | refl => exact ⟨.building, Position.fits_first s⟩
  | tail _ hturn ih =>
    obtain ⟨p, hp⟩ := ih
    exact Position.fits_turn hwait hturn hp

end Gateway.Lifecycle
