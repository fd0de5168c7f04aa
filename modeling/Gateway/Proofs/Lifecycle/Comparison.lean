import Gateway.Proofs.Lifecycle.Reactions

/-!
# Runs under two deadlines

Two scripts that differ only in their deadlines (`Script.within`) run alike until the service is
asked to stop. A reaction reads the deadline only to put its passing on the agenda, and if it
passes (`Run.react_within`). Up to the call, the two agendas are the same but for the passing of the
deadlines, and these come behind the call if they are above zero (`Agenda.Agrees`). So whatever is
next in one run is next in the other. What comes behind the call changes nothing of what was
observed before it (`Run.untilStop_of_prefix`).

This holds in every order of what comes at the same time: to each way of taking turns under one
deadline there is one under the other with the same events up to the call (`exists_untilStop_eq`),
and `Lifecycle.run`, which has its own order, gives the same (`untilStop_run_within`).
-/

namespace Gateway.Lifecycle

variable {ε : Type} {s : Script ε}

/-- The script with another deadline. -/
def Script.within (s : Script ε) (deadline : Nat) : Script ε := { s with deadline := deadline }

/-! ### Events up to the call -/

namespace Run

/-- The events up to the first call of the stop, this one included. -/
def upToStop : List (Event ε) → List (Event ε)
  | [] => []
  | e :: es => if e.what.isStop then [e] else e :: upToStop es

/-- What was observed of a run until the service was asked to stop. -/
def untilStop (r : Run ε) : List (Event ε) := upToStop r.events

/-- The service was asked to stop. -/
def HasStop (r : Run ε) : Prop := ∃ e ∈ r.events, e.what.isStop = true

/-- Nothing behind the stop counts. -/
private theorem upToStop_append {es : List (Event ε)} (h : ∃ e ∈ es, e.what.isStop = true)
    (more : List (Event ε)) : upToStop (es ++ more) = upToStop es := by
  induction es with
  | nil =>
    obtain ⟨e, he, -⟩ := h
    exact absurd he List.not_mem_nil
  | cons e es ih =>
    rw [List.cons_append, upToStop, upToStop]
    split
    · rfl
    · next hstop =>
      obtain ⟨f, hf, hfstop⟩ := h
      rcases List.mem_cons.mp hf with rfl | hf
      · exact absurd hfstop hstop
      · rw [ih ⟨f, hf, hfstop⟩]

/-- What was observed up to the call ends with it. -/
theorem untilStop_of_filter {r : Run ε} {e : Event ε} {rest : List (Event ε)}
    (h : (r.events.filter fun e => e.what.isStop) = e :: rest) :
    ∃ before, r.untilStop = before ++ [e] := by
  unfold untilStop
  generalize r.events = es at h
  induction es with
  | nil => cases h
  | cons f es ih =>
    rw [upToStop]
    by_cases hstop : f.what.isStop = true
    · rw [List.filter_cons, if_pos hstop] at h
      obtain ⟨rfl, -⟩ := List.cons.inj h
      exact ⟨[], if_pos hstop⟩
    · rw [List.filter_cons, if_neg hstop] at h
      obtain ⟨before, hbefore⟩ := ih h
      refine ⟨f :: before, ?_⟩
      rw [if_neg hstop, hbefore]
      rfl

/-- Nothing that is observed later changes what was observed up to the call. -/
theorem untilStop_of_prefix {r r' : Run ε} (h : r.HasStop) (hgrows : r.events <+: r'.events) :
    r'.HasStop ∧ r'.untilStop = r.untilStop := by
  obtain ⟨more, hmore⟩ := hgrows
  unfold HasStop untilStop
  rw [← hmore]
  refine ⟨?_, upToStop_append h more⟩
  obtain ⟨e, he, hstop⟩ := h
  exact ⟨e, List.mem_append_left _ he, hstop⟩

theorem events_goOn (s : Script ε) (r : Run ε) (agenda : Agenda) :
    r.events <+: (r.goOn s agenda).events := by
  induction r, agenda using goOn.induct s with
  | case1 r => simp only [goOn, List.prefix_rfl]
  | case2 r now h rest reaction hover =>
    rw [goOn_of_isOver hover]
    exact events_react s r now h
  | case3 r now h rest reaction hover ih =>
    rw [goOn_of_not_isOver hover]
    exact (events_react s r now h).trans ih

end Run

/-! ### Agendas but for the deadline -/

namespace Agenda

/-- What is on an agenda besides the passing of the deadline. -/
def withoutDeadline (a : Agenda) : Agenda := a.filter fun e => decide (e.2 ≠ .expired)

theorem mem_withoutDeadline {a : Agenda} {e : Nat × Happening} :
    e ∈ a.withoutDeadline ↔ e ∈ a ∧ e.2 ≠ .expired := by
  rw [withoutDeadline, List.mem_filter, decide_eq_true_iff]

private theorem eq_expired_of_withoutDeadline {a : Agenda} (h : a.withoutDeadline = [])
    {e : Nat × Happening} (he : e ∈ a) : e.2 = .expired :=
  Decidable.byContradiction fun hne => List.filter_eq_nil_iff.mp h e he (decide_eq_true hne)

private theorem withoutDeadline_cons {g : Happening} (hg : g ≠ .expired) (time : Nat) (a : Agenda) :
    withoutDeadline ((time, g) :: a) = (time, g) :: withoutDeadline a :=
  List.filter_cons_of_pos (decide_eq_true hg)

private theorem withoutDeadline_add_expired (a : Agenda) (time : Nat) :
    (add time .expired a).withoutDeadline = a.withoutDeadline := by
  induction a with
  | nil => rfl
  | cons e a ih =>
    obtain ⟨t, g⟩ := e
    unfold add
    split
    · by_cases hg : g = .expired
      · subst hg
        exact ih
      · rw [withoutDeadline_cons hg, withoutDeadline_cons hg, ih]
    · rfl

private theorem add_of_lt {a : Agenda} {time : Nat} (ha : ∀ e ∈ a, time < e.1) (h : Happening) :
    add time h a = (time, h) :: a := by
  cases a with
  | nil => rfl
  | cons e a => exact if_neg (Nat.not_le.mpr (ha e List.mem_cons_self))

/-- Anything else may be put on the agenda before the deadline is taken off it or after. -/
private theorem withoutDeadline_add {a : Agenda} (ha : a.Sorted) (time : Nat) {h : Happening}
    (hne : h ≠ .expired) : (add time h a).withoutDeadline = add time h a.withoutDeadline := by
  induction a with
  | nil => exact withoutDeadline_cons hne time []
  | cons e a ih =>
    obtain ⟨t, g⟩ := e
    obtain ⟨hhead, htail⟩ := List.pairwise_cons.mp ha
    have ih := ih htail
    by_cases hle : t ≤ time
    · rw [add, if_pos hle]
      by_cases hg : g = .expired
      · subst hg
        exact ih
      · rw [withoutDeadline_cons hg, withoutDeadline_cons hg, add, if_pos hle, ih]
    · -- everything from the head on comes later, with the deadline or without it
      rw [add, if_neg hle, withoutDeadline_cons hne]
      refine (add_of_lt (fun f hf => ?_) h).symm
      have hlt : time < t := Nat.not_le.mp hle
      rcases List.mem_cons.mp (mem_withoutDeadline.mp hf).1 with rfl | hf
      · exact hlt
      · exact Nat.lt_of_lt_of_le hlt (hhead f hf)

/-- The deadline does not matter to the order of the others. -/
theorem withoutDeadline_addAll {a : Agenda} (ha : a.Sorted) (es : Agenda) :
    (a.addAll es).withoutDeadline = a.withoutDeadline.addAll es.withoutDeadline := by
  induction es generalizing a with
  | nil => rfl
  | cons e es ih =>
    obtain ⟨t, g⟩ := e
    change ((add t g a).addAll es).withoutDeadline = _
    rw [ih (ha.add t g)]
    by_cases hg : g = .expired
    · subst hg
      rw [withoutDeadline_add_expired]
      rfl
    · rw [withoutDeadline_add ha t hg, withoutDeadline_cons hg]
      rfl

/-- The deadline is on an agenda only with the call in front of it. -/
def CallsFirst (a : Agenda) : Prop :=
  ∀ e ∈ a, e.2 = .expired → ∃ f ∈ a, f.2 = .called ∧ f.1 < e.1

private theorem callsFirst_of_forall_ne {a : Agenda} (h : ∀ e ∈ a, e.2 ≠ .expired) :
    a.CallsFirst := fun e he hexpired => absurd hexpired (h e he)

/-- What comes about with the call in front of the deadline goes with an agenda from which no call
is taken. -/
private theorem CallsFirst.addAll {front back es : Agenda} {now : Nat} {h : Happening}
    (ha : CallsFirst (front ++ (now, h) :: back)) (hcalled : h ≠ .called) (hes : es.CallsFirst) :
    ((front ++ back).addAll es).CallsFirst := by
  intro e he hexpired
  have hmem (f : Nat × Happening) :
      f ∈ (front ++ back).addAll es ↔ f ∈ front ++ back ∨ f ∈ es :=
    (addAll_perm _ es).mem_iff.trans List.mem_append
  rcases (hmem e).mp he with he | he
  · obtain ⟨f, hf, hfcalled, hlt⟩ :=
      ha e (List.perm_middle.mem_iff.mpr (List.mem_cons_of_mem _ he)) hexpired
    refine ⟨f, (hmem f).mpr (.inl ?_), hfcalled, hlt⟩
    refine (List.mem_cons.mp (List.perm_middle.mem_iff.mp hf)).resolve_left ?_
    rintro rfl
    exact hcalled hfcalled
  · obtain ⟨f, hf, hfcalled, hlt⟩ := hes e he hexpired
    exact ⟨f, (hmem f).mpr (.inr hf), hfcalled, hlt⟩

/-- Two agendas that are the same but for the passing of the deadline, behind the call. -/
structure Agrees (a b : Agenda) : Prop where
  same : a.withoutDeadline = b.withoutDeadline
  sorted_left : a.Sorted
  sorted_right : b.Sorted
  calls_left : a.CallsFirst
  calls_right : b.CallsFirst

namespace Agrees

variable {a b front back : Agenda} {now : Nat} {h : Happening}

theorem eq_nil (hab : Agrees [] b) : b = [] := by
  have hnil (e : Nat × Happening) (he : e ∈ b) : e.2 = .expired :=
    eq_expired_of_withoutDeadline hab.same.symm he
  -- with a deadline there would be a call, too
  refine List.eq_nil_iff_forall_not_mem.mpr fun e he => ?_
  obtain ⟨f, hf, hcalled, -⟩ := hab.calls_right e he (hnil e he)
  cases hcalled.symm.trans (hnil f hf)

/-- **Whatever is next under one deadline is next under the other**, and it is not the deadline. -/
theorem exists_split (hab : Agrees (front ++ (now, h) :: back) b)
    (hearliest : ∀ e ∈ front ++ back, now ≤ e.1) :
    h ≠ .expired ∧ ∃ front' back', b = front' ++ (now, h) :: back' ∧
      (∀ e ∈ front' ++ back', now ≤ e.1) ∧
      (front ++ back).withoutDeadline = (front' ++ back').withoutDeadline ∧
      (front = [] → front' = []) := by
  have hall (e : Nat × Happening) (he : e ∈ front ++ (now, h) :: back) : now ≤ e.1 := by
    rcases List.mem_cons.mp (List.perm_middle.mem_iff.mp he) with rfl | he
    · exact Nat.le_refl _
    · exact hearliest e he
  have hexpired : h ≠ .expired := by
    rintro rfl
    obtain ⟨f, hf, -, hlt⟩ := hab.calls_left (now, .expired)
      (List.mem_append_right _ List.mem_cons_self) rfl
    exact absurd (hall f hf) (Nat.not_le.mpr hlt)
  -- under the other deadline nothing is earlier either, and the deadline itself is later
  have hother (e : Nat × Happening) (he : e ∈ b) (hne : e.2 ≠ .expired) : now ≤ e.1 := by
    have hmem := mem_withoutDeadline.mpr ⟨he, hne⟩
    rw [← hab.same] at hmem
    exact hall e (mem_withoutDeadline.mp hmem).1
  have hlate (e : Nat × Happening) (he : e ∈ b) (heq : e.2 = .expired) : now < e.1 := by
    obtain ⟨f, hf, hcalled, hlt⟩ := hab.calls_right e he heq
    refine Nat.lt_of_le_of_lt (hother f hf ?_) hlt
    rw [hcalled]
    exact nofun
  have hsame : b.withoutDeadline =
      withoutDeadline front ++ (now, h) :: withoutDeadline back := by
    rw [← hab.same, ← withoutDeadline_cons hexpired]
    exact List.filter_append ..
  obtain ⟨left, right, rfl, hleft, hright⟩ := List.filter_eq_append_iff.mp hsame
  obtain ⟨between, back', rfl, hbetween, -, hback⟩ := List.filter_eq_cons_iff.mp hright
  have hfront : withoutDeadline (left ++ between) = withoutDeadline front := by
    have hnil : List.filter (fun e => decide (e.2 ≠ Happening.expired)) between = [] :=
      List.filter_eq_nil_iff.mpr hbetween
    unfold withoutDeadline at hleft ⊢
    rw [List.filter_append, hleft, hnil, List.append_nil]
  refine ⟨hexpired, left ++ between, back', (List.append_assoc ..).symm, fun e he => ?_, ?_, ?_⟩
  · have he : e ∈ left ++ (between ++ (now, h) :: back') := by
      rw [← List.append_assoc]
      exact List.perm_middle.mem_iff.mpr (List.mem_cons_of_mem _ he)
    by_cases heq : e.2 = .expired
    · exact Nat.le_of_lt (hlate e he heq)
    · exact hother e he heq
  · have happend (l m : Agenda) :
        withoutDeadline (l ++ m) = withoutDeadline l ++ withoutDeadline m := List.filter_append ..
    rw [happend, happend (left ++ between), hfront]
    exact congrArg (withoutDeadline front ++ ·) hback.symm
  · rintro rfl
    refine List.eq_nil_iff_forall_not_mem.mpr fun e he => ?_
    have heq : e.2 = .expired := eq_expired_of_withoutDeadline hfront he
    -- the deadline is later than the happening that it stands in front of
    have hsorted := hab.sorted_right
    rw [← List.append_assoc] at hsorted
    have hle : e.1 ≤ now := (List.pairwise_append.mp hsorted).2.2 e he _ List.mem_cons_self
    have hmem : e ∈ left ++ (between ++ (now, h) :: back') := by
      rw [← List.append_assoc]
      exact List.mem_append_left _ he
    exact absurd hle (Nat.not_le.mpr (hlate e hmem heq))

/-- The agendas go on to agree, as long as no call is taken. -/
theorem addAll {front' back' es es' : Agenda}
    (hab : Agrees (front ++ (now, h) :: back) (front' ++ (now, h) :: back'))
    (hsame : (front ++ back).withoutDeadline = (front' ++ back').withoutDeadline)
    (hcalled : h ≠ .called) (hes : es.withoutDeadline = es'.withoutDeadline)
    (hfirst : es.CallsFirst) (hfirst' : es'.CallsFirst) :
    Agrees ((front ++ back).addAll es) ((front' ++ back').addAll es') := by
  have hless (l m : Agenda) : (l ++ m).Sublist (l ++ (now, h) :: m) :=
    (List.sublist_cons_self _ m).append_left l
  have hleft : Agenda.Sorted (front ++ back) := hab.sorted_left.sublist (hless front back)
  have hright : Agenda.Sorted (front' ++ back') := hab.sorted_right.sublist (hless front' back')
  refine ⟨?_, hleft.addAll es, hright.addAll es', hab.calls_left.addAll hcalled hfirst,
    hab.calls_right.addAll hcalled hfirst'⟩
  rw [withoutDeadline_addAll hleft, withoutDeadline_addAll hright, hsame, hes]

end Agrees

end Agenda

/-! ### Reactions under two deadlines -/

namespace Run

/-- **A reaction does not read the deadline**, except to put its passing on the agenda. -/
theorem react_within (s : Script ε) (deadline deadline' : Nat) (r : Run ε) (now : Nat)
    {h : Happening} (hexpired : h ≠ .expired) :
    (r.react (s.within deadline) now h).run = (r.react (s.within deadline') now h).run ∧
      (r.react (s.within deadline) now h).isOver = (r.react (s.within deadline') now h).isOver ∧
      Agenda.withoutDeadline (r.react (s.within deadline) now h).next =
        Agenda.withoutDeadline (r.react (s.within deadline') now h).next := by
  cases h with
  | expired => exact absurd rfl hexpired
  | built | called | finished | broken | left => exact ⟨rfl, rfl, rfl⟩
  | started =>
    cases hstart : s.start.error with
    | some e =>
      have hstarted (deadline : Nat) :
          r.react (s.within deadline) now .started = r.ends s now (.start e) := by
        have herror : (s.within deadline).start.error = some e := hstart
        simp only [react, herror]
        rfl
      rw [hstarted, hstarted]
      exact ⟨rfl, rfl, rfl⟩
    | none =>
      have hstarted (deadline : Nat) :
          r.react (s.within deadline) now .started = r.serves (s.within deadline) now := by
        have herror : (s.within deadline).start.error = none := hstart
        simp only [react, herror]
      rw [hstarted, hstarted]
      cases hwait : s.wait with
      | none cause =>
        have hserves (deadline : Nat) : r.serves (s.within deadline) now =
            (r.enter .running).stops (s.within deadline) now cause := by
          have hwait : (s.within deadline).wait = .none cause := hwait
          simp only [serves, hwait]
        rw [hserves, hserves]
        exact ⟨rfl, rfl, rfl⟩
      | forEither signal notice =>
        have hserves (deadline : Nat) : r.serves (s.within deadline) now =
            ((r.enter .running).observe now .waiting).continues (triggers now signal notice) := by
          have hwait : (s.within deadline).wait = .forEither signal notice := hwait
          simp only [serves, hwait]
        rw [hserves, hserves]
        exact ⟨rfl, rfl, rfl⟩
  | signalled | noticed =>
    rw [react, react]
    split
    · exact ⟨rfl, rfl, rfl⟩
    · exact ⟨rfl, rfl, rfl⟩

/-- A deadline above zero comes about only with the call in front of it. -/
theorem callsFirst_react (hdeadline : 0 < s.deadline) (r : Run ε) (now : Nat) (h : Happening) :
    Agenda.CallsFirst (r.react s now h).next := by
  have hreacts := reacts s r now h
  generalize r.react s now h = reaction at hreacts
  cases hreacts with
  | @ends _ r' notes uncalled o =>
    refine Agenda.callsFirst_of_forall_ne fun e he => ?_
    rw [eq_left_of_mem_ends s r' now o e he]
    exact nofun
  | stops notes uncalled failure =>
    intro e he hexpired
    refine ⟨(now, .called), List.mem_cons_of_mem _ List.mem_cons_self, rfl, ?_⟩
    rcases List.mem_cons.mp he with rfl | he
    · exact Nat.lt_add_of_pos_right hdeadline
    · rw [List.mem_singleton.mp he] at hexpired
      cases hexpired
  | goesOn notes uncalled nothing =>
    exact Agenda.callsFirst_of_forall_ne fun e he => (nothing e he).1
  | called =>
    refine Agenda.callsFirst_of_forall_ne fun e he => ?_
    obtain ⟨d, -, -, hkind | hkind⟩ := eq_of_mem_finishing he <;> rw [hkind] <;> exact nofun
  | left => exact fun e he => absurd he List.not_mem_nil

/-- The call is the one that is observed. -/
theorem hasStop_called (s : Script ε) (r : Run ε) (now : Nat) :
    (r.react s now .called).run.HasStop :=
  ⟨⟨.stop r.failure, now, r.phase⟩, List.mem_append_right _ List.mem_cons_self, rfl⟩

end Run

/-! ### Runs side by side -/

variable {deadline deadline' : Nat}

/-- Two stages that the deadline has not told apart before the call. -/
inductive Alongside (a b : Stage ε) : Prop
  | before (run : a.run = b.run) (isOver : a.isOver = b.isOver)
    (agenda : a.agenda.Agrees b.agenda)
  | after (left : a.run.HasStop) (right : b.run.HasStop)
    (same : a.run.untilStop = b.run.untilStop)

namespace Alongside

variable {a a' b : Stage ε}

/-- Two runs begin alike, whatever their deadlines are. -/
theorem first (s : Script ε) (deadline deadline' : Nat) :
    Alongside (.first (s.within deadline)) (.first (s.within deadline')) := by
  have hsorted : Agenda.Sorted [(s.build.duration, .built)] := List.pairwise_singleton _ _
  have hcalls : Agenda.CallsFirst [(s.build.duration, .built)] := fun e he hexpired => by
    rw [List.mem_singleton.mp he] at hexpired
    cases hexpired
  exact .before rfl rfl ⟨rfl, hsorted, hsorted, hcalls, hcalls⟩

/-- **A turn under one deadline can be taken under the other**, until the service is asked to stop.
From then on it changes nothing. -/
theorem turn (hdeadline : 0 < deadline) (hdeadline' : 0 < deadline') (hab : Alongside a b)
    (hturn : Turn (s.within deadline) a a') :
    ∃ b', Relation.ReflTransGen (Turn (s.within deadline')) b b' ∧ Alongside a' b' := by
  cases hab with
  | after left right same =>
    have hgrows := prefix_events_of_turns (.single hturn)
    obtain ⟨hstop, huntil⟩ := Run.untilStop_of_prefix left hgrows
    exact ⟨b, .refl, .after hstop right (huntil.trans same)⟩
  | before hrun hover hagenda =>
    cases hturn with
    | react r front back now h hearliest =>
      obtain ⟨r', agenda', isOver'⟩ := b
      obtain rfl : r = r' := hrun
      obtain rfl : false = isOver' := hover
      obtain ⟨hexpired, front', back', hsplit, hearliest', hsame, -⟩ :=
        hagenda.exists_split hearliest
      obtain rfl : agenda' = front' ++ (now, h) :: back' := hsplit
      obtain ⟨hrun, hover, hnext⟩ :=
        Run.react_within s deadline deadline' r now hexpired
      refine ⟨_, .single (.react r front' back' now h hearliest'), ?_⟩
      by_cases hcalled : h = .called
      · subst hcalled
        exact .after (Run.hasStop_called (s.within deadline) r now)
          (Run.hasStop_called (s.within deadline') r now) (congrArg Run.untilStop hrun)
      · exact .before hrun hover (hagenda.addAll hsame hcalled hnext
          (Run.callsFirst_react hdeadline r now h) (Run.callsFirst_react hdeadline' r now h))

end Alongside

/-- To every stage that is reached under one deadline there is one under the other. -/
theorem Reaches.exists_alongside (hdeadline : 0 < deadline) (hdeadline' : 0 < deadline')
    {a : Stage ε} (h : Reaches (s.within deadline) a) :
    ∃ b, Reaches (s.within deadline') b ∧ Alongside a b := by
  induction h with
  | refl => exact ⟨_, .refl, .first s deadline deadline'⟩
  | tail _ hturn ih =>
    obtain ⟨b, hb, hab⟩ := ih
    obtain ⟨b', hb', hab'⟩ := hab.turn hdeadline hdeadline' hturn
    exact ⟨b', hb.trans hb', hab'⟩

/-- From every stage a run comes to one that is done. -/
theorem exists_done (s : Script ε) (st : Stage ε) :
    ∃ st', Relation.ReflTransGen (Turn s) st st' ∧ st'.IsDone := by
  induction st using (wellFounded_turn s).induction with
  | _ st ih =>
    by_cases hdone : st.IsDone
    · exact ⟨st, .refl, hdone⟩
    · obtain ⟨next, hturn⟩ := exists_turn s hdone
      obtain ⟨st', hreach, hdone'⟩ := ih next hturn
      exact ⟨st', .head hturn hreach, hdone'⟩

/-- **Two deadlines, any order.** What was observed until the call under one deadline can be
observed under the other, and where nothing is left to react to in the one way of taking turns,
nothing is left in the other. -/
theorem exists_untilStop_eq (hdeadline : 0 < deadline) (hdeadline' : 0 < deadline') {a : Stage ε}
    (h : Reaches (s.within deadline) a) :
    ∃ b, Reaches (s.within deadline') b ∧ b.run.untilStop = a.run.untilStop ∧
      (a.IsDone → b.IsDone) := by
  obtain ⟨b, hb, hab⟩ := h.exists_alongside hdeadline hdeadline'
  cases hab with
  | before hrun hover hagenda =>
    refine ⟨b, hb, congrArg Run.untilStop hrun.symm, fun hdone => ?_⟩
    rcases hdone with hdone | hnil
    · exact .inl (hover.symm.trans hdone)
    · rw [hnil] at hagenda
      exact .inr hagenda.eq_nil
  | after left right same =>
    obtain ⟨b', hreach, hdone⟩ := exists_done (s.within deadline') b
    obtain ⟨-, huntil⟩ := Run.untilStop_of_prefix right (prefix_events_of_turns hreach)
    exact ⟨b', hb.trans hreach, huntil.trans same.symm, fun _ => hdone⟩

/-- Under either deadline, the machine observes the same until the call. -/
private theorem untilStop_goOn (hdeadline : 0 < deadline) (hdeadline' : 0 < deadline') (r : Run ε)
    (a : Agenda) : ∀ b : Agenda, a.Agrees b →
      (r.goOn (s.within deadline) a).untilStop = (r.goOn (s.within deadline') b).untilStop := by
  -- the induction is on the machine under the one deadline; the other one keeps pace
  induction r, a using Run.goOn.induct (s.within deadline) with
  | case1 r =>
    intro b hab
    rw [hab.eq_nil, Run.goOn, Run.goOn]
  | case2 r now h rest reaction hover =>
    intro b hab
    obtain ⟨hhead, -⟩ := List.pairwise_cons.mp hab.sorted_left
    have hab : Agenda.Agrees ([] ++ (now, h) :: rest) b := hab
    obtain ⟨hexpired, front', back', rfl, -, -, hnil⟩ := hab.exists_split hhead
    obtain rfl := hnil rfl
    obtain ⟨hrun, hsame, -⟩ := Run.react_within s deadline deadline' r now hexpired
    rw [List.nil_append, Run.goOn_of_isOver hover, Run.goOn_of_isOver (hsame.symm.trans hover),
      hrun]
  | case3 r now h rest reaction hover ih =>
    intro b hab
    obtain ⟨hhead, -⟩ := List.pairwise_cons.mp hab.sorted_left
    have hab : Agenda.Agrees ([] ++ (now, h) :: rest) b := hab
    obtain ⟨hexpired, front', back', rfl, -, hothers, hnil⟩ := hab.exists_split hhead
    obtain rfl := hnil rfl
    obtain ⟨hrun, hsame, hnext⟩ := Run.react_within s deadline deadline' r now hexpired
    rw [List.nil_append, Run.goOn_of_not_isOver hover,
      Run.goOn_of_not_isOver (fun h => hover (hsame.trans h)), ← hrun]
    by_cases hcalled : h = .called
    · subst hcalled
      have hstop : (r.react (s.within deadline) now .called).run.HasStop :=
        Run.hasStop_called (s.within deadline) r now
      obtain ⟨-, hleft⟩ := Run.untilStop_of_prefix hstop (Run.events_goOn (s.within deadline) _
        (Agenda.addAll rest (r.react (s.within deadline) now .called).next))
      obtain ⟨-, hright⟩ := Run.untilStop_of_prefix hstop (Run.events_goOn (s.within deadline') _
        (Agenda.addAll back' (r.react (s.within deadline') now .called).next))
      exact hleft.trans hright.symm
    · exact ih _ (hab.addAll hothers hcalled hnext (Run.callsFirst_react hdeadline r now h)
        (Run.callsFirst_react hdeadline' r now h))

/-- **Two deadlines.** The runs observe the same until the service is asked to stop. -/
theorem untilStop_run_within (hdeadline : 0 < deadline) (hdeadline' : 0 < deadline')
    (s : Script ε) :
    (run (s.within deadline)).untilStop = (run (s.within deadline')).untilStop := by
  have hsorted : Agenda.Sorted [(s.build.duration, .built)] := List.pairwise_singleton _ _
  have hcalls : Agenda.CallsFirst [(s.build.duration, .built)] := fun e he hexpired => by
    rw [List.mem_singleton.mp he] at hexpired
    cases hexpired
  exact untilStop_goOn hdeadline hdeadline' .begun _ _ ⟨rfl, hsorted, hsorted, hcalls, hcalls⟩

end Gateway.Lifecycle
