import Mathlib.Logic.Relation
import Gateway.Lifecycle.Run

/-!
# Turns of a run

`Lifecycle.run` reacts to the earliest happening on the agenda, and of several at the same time to
the one that was put there first. Nobody promises this order to a service: of a signal and a notice
that come at the same time, either may be taken. A `Turn` reacts to any happening that no other one
precedes, and what `Reaches` says of a stage holds in every order.

`Lifecycle.run` takes turns in its own order until nothing is left to react to, so whatever holds
of all stages that are reached holds of it (`reaches_run`). No order goes on for ever
(`wellFounded_turn`), and none stops before nothing is left (`exists_turn`).
-/

namespace Gateway.Lifecycle

variable {ε : Type}

/-! ### Agendas -/

namespace Agenda

/-- Adding a happening to an agenda only decides where it stands. -/
theorem add_perm (a : Agenda) (time : Nat) (h : Happening) :
    (add time h a).Perm ((time, h) :: a) := by
  induction a with
  | nil => exact .rfl
  | cons e a ih =>
    obtain ⟨t, g⟩ := e
    unfold add
    split
    · exact (ih.cons (t, g)).trans (List.Perm.swap _ _ a)
    · exact .rfl

/-- Nothing is lost and nothing comes in when happenings are put on an agenda. -/
theorem addAll_perm (a : Agenda) (es : List (Nat × Happening)) :
    (a.addAll es).Perm (a ++ es) := by
  induction es generalizing a with
  | nil =>
    rw [List.append_nil]
    exact .rfl
  | cons e es ih =>
    change ((add e.1 e.2 a).addAll es).Perm _
    exact (ih _).trans (((add_perm a e.1 e.2).append_right es).trans List.perm_middle.symm)

/-- An agenda in the order of times. -/
def Sorted (a : Agenda) : Prop := a.Pairwise fun e f => e.1 ≤ f.1

theorem Sorted.add {a : Agenda} (ha : a.Sorted) (time : Nat) (h : Happening) :
    (Agenda.add time h a).Sorted := by
  induction a with
  | nil => exact List.pairwise_singleton _ _
  | cons e a ih =>
    obtain ⟨t, g⟩ := e
    obtain ⟨hhead, htail⟩ := List.pairwise_cons.mp ha
    unfold Agenda.add
    split
    · next hle =>
      refine List.pairwise_cons.mpr ⟨fun f hf => ?_, ih htail⟩
      rcases List.mem_cons.mp ((add_perm a time h).mem_iff.mp hf) with rfl | hf
      · exact hle
      · exact hhead f hf
    · next hlt =>
      refine List.pairwise_cons.mpr ⟨fun f hf => ?_, ha⟩
      rcases List.mem_cons.mp hf with rfl | hf
      · exact Nat.le_of_not_le hlt
      · exact Nat.le_trans (Nat.le_of_not_le hlt) (hhead f hf)

theorem Sorted.addAll {a : Agenda} (ha : a.Sorted) (es : List (Nat × Happening)) :
    (a.addAll es).Sorted := by
  induction es generalizing a with
  | nil => exact ha
  | cons e es ih => exact ih (ha.add e.1 e.2)

theorem weight_append (a b : Agenda) : Agenda.weight (a ++ b) = a.weight + b.weight := by
  induction a with
  | nil => exact (Nat.zero_add _).symm
  | cons e a ih =>
    have hcons : Agenda.weight (e :: (a ++ b)) = e.2.weight + Agenda.weight (a ++ b) := rfl
    rw [List.cons_append, hcons, ih, ← Nat.add_assoc]
    rfl

/-- On an agenda that is not empty, some happening is preceded by no other. -/
theorem exists_earliest {a : Agenda} (h : a ≠ []) :
    ∃ front e back, a = front ++ e :: back ∧ ∀ f ∈ front ++ back, e.1 ≤ f.1 := by
  induction a with
  | nil => exact absurd rfl h
  | cons e a ih =>
    by_cases ha : a = []
    · subst ha
      exact ⟨[], e, [], rfl, fun f hf => absurd hf List.not_mem_nil⟩
    obtain ⟨front, g, back, rfl, hg⟩ := ih ha
    rcases Nat.le_total e.1 g.1 with hle | hle
    · -- the new head comes before the earliest of the rest
      refine ⟨[], e, front ++ g :: back, rfl, fun f hf => ?_⟩
      rcases List.mem_cons.mp (List.perm_middle.mem_iff.mp hf) with rfl | hf
      · exact hle
      · exact Nat.le_trans hle (hg f hf)
    · refine ⟨e :: front, g, back, rfl, fun f hf => ?_⟩
      rcases List.mem_cons.mp hf with rfl | hf
      · exact hle
      · exact hg f hf

end Agenda

/-! ### Stages and turns -/

/-- A run with what is still to come. -/
structure Stage (ε : Type) where
  /-- The run up to now. -/
  run : Run ε
  /-- The happenings to come. -/
  agenda : Agenda
  /-- Whether nothing more is watched. -/
  isOver : Bool

namespace Stage

/-- The stage in which the service is being built. -/
def first (s : Script ε) : Stage ε := ⟨.begun, [(s.build.duration, .built)], false⟩

/-- The stage behind a reaction, with the happenings that were on the agenda besides. -/
def behind (others : Agenda) (reaction : Reaction ε) : Stage ε :=
  ⟨reaction.run, others.addAll reaction.next, reaction.isOver⟩

/-- Nothing is left to react to. -/
def IsDone (st : Stage ε) : Prop := st.isOver = true ∨ st.agenda = []

end Stage

/-- A reaction to a happening that no other one precedes. -/
inductive Turn (s : Script ε) : Stage ε → Stage ε → Prop
  | react (r : Run ε) (front back : Agenda) (now : Nat) (h : Happening)
    (earliest : ∀ e ∈ front ++ back, now ≤ e.1) :
    Turn s ⟨r, front ++ (now, h) :: back, false⟩ (.behind (front ++ back) (r.react s now h))

/-- The stages that a run can come to, whatever the order of happenings at the same time. -/
def Reaches (s : Script ε) : Stage ε → Prop := Relation.ReflTransGen (Turn s) (.first s)

namespace Run

variable {s : Script ε} {r : Run ε} {now : Nat} {h : Happening}

/-- A run that is over looks at nothing more. -/
theorem goOn_of_isOver (hover : (r.react s now h).isOver = true) (rest : Agenda) :
    r.goOn s ((now, h) :: rest) = (r.react s now h).run := by
  rw [goOn]
  exact if_pos hover

/-- A run that is not over goes on with what is left and what was brought about. -/
theorem goOn_of_not_isOver (hover : ¬ (r.react s now h).isOver = true) (rest : Agenda) :
    r.goOn s ((now, h) :: rest) =
      (r.react s now h).run.goOn s (rest.addAll (r.react s now h).next) := by
  rw [goOn]
  exact if_neg hover

end Run

/-- From any stage whose agenda is in order, the machine takes turns until it is done. -/
private theorem goOn_done (s : Script ε) (r : Run ε) {agenda : Agenda} (ha : agenda.Sorted) :
    ∃ st, Relation.ReflTransGen (Turn s) ⟨r, agenda, false⟩ st ∧ st.IsDone ∧
      st.run = r.goOn s agenda := by
  -- the head of an agenda in order is preceded by nothing, so reacting to it is a turn
  induction r, agenda using Run.goOn.induct s with
  | case1 r => exact ⟨_, .refl, .inr rfl, by rw [Run.goOn]⟩
  | case2 r now h rest reaction hover =>
    obtain ⟨hhead, -⟩ := List.pairwise_cons.mp ha
    exact ⟨_, .single (.react r [] rest now h hhead), .inl hover,
      (Run.goOn_of_isOver hover rest).symm⟩
  | case3 r now h rest reaction hover ih =>
    obtain ⟨hhead, htail⟩ := List.pairwise_cons.mp ha
    obtain ⟨st, hst, hdone, hrun⟩ := ih (Agenda.Sorted.addAll htail _)
    have hgoes : (r.react s now h).isOver = false := Bool.eq_false_iff.mpr hover
    have hturn := Turn.react (s := s) r [] rest now h hhead
    rw [Stage.behind, hgoes] at hturn
    exact ⟨st, .head hturn hst, hdone, hrun.trans (Run.goOn_of_not_isOver hover rest).symm⟩

/-- **The run is among the orders.** `Lifecycle.run` is what some way of taking turns ends with. -/
theorem reaches_run (s : Script ε) : ∃ st, Reaches s st ∧ st.IsDone ∧ st.run = run s :=
  goOn_done s .begun (List.pairwise_singleton _ _)

/-! ### Every order comes to an end -/

/-- A turn brings the run nearer to its end. -/
theorem Turn.weight_lt {s : Script ε} {a b : Stage ε} (h : Turn s a b) :
    b.agenda.weight < a.agenda.weight := by
  obtain ⟨r, front, back, now, h, -⟩ := h
  have hless : Agenda.weight (r.react s now h).next < h.weight := Run.weight_react s r now h
  have hbehind : ((front ++ back).addAll (r.react s now h).next).weight =
      front.weight + back.weight + Agenda.weight (r.react s now h).next := by
    rw [Agenda.weight_addAll, Agenda.weight_append]
  have hbefore : Agenda.weight (front ++ (now, h) :: back) =
      front.weight + (h.weight + back.weight) := Agenda.weight_append _ _
  change ((front ++ back).addAll (r.react s now h).next).weight <
    Agenda.weight (front ++ (now, h) :: back)
  rw [hbehind, hbefore]
  omega

/-- **Turns come to an end**, in whatever order they are taken. -/
theorem wellFounded_turn (s : Script ε) : WellFounded fun b a : Stage ε => Turn s a b :=
  Subrelation.wf (fun h => Turn.weight_lt h) (measure fun st : Stage ε => st.agenda.weight).wf

/-- As long as something is left to react to, a turn can be taken. -/
theorem exists_turn (s : Script ε) {st : Stage ε} (hdone : ¬ st.IsDone) :
    ∃ st', Turn s st st' := by
  obtain ⟨r, agenda, isOver⟩ := st
  obtain ⟨hover, hagenda⟩ := not_or.mp hdone
  obtain rfl : isOver = false := Bool.eq_false_iff.mpr hover
  obtain ⟨front, ⟨now, h⟩, back, rfl, hearliest⟩ := Agenda.exists_earliest hagenda
  exact ⟨_, .react r front back now h hearliest⟩

end Gateway.Lifecycle
