import Gateway.Proofs.CommandLine.Names

/-!
# The reader and the grammar of command lines

The reader accepts the arguments that well-formed phrases are written as, and no others:
`readFlags_eq_ok_iff`.

Each lemma on one argument says exactly when the reader gets on, and how
(`Reader.step_eq_ok_iff_of_isPlain`, `Reader.step_eq_ok_iff_of_not_isPlain`). Read in one direction
they show that phrases are read (`Reader.Settles.run_phrases`). Read in the other, they find the
phrases from left to right (`Reader.exists_phrases`).
-/

namespace Gateway.CommandLine

namespace Reader

variable {r r' : Reader} {values : Flag.Values}

/-! ### Arguments -/

/-- Behind the end of the flags every argument is refused. -/
theorem isClosed_of_step {a : Bytes} (h : r.step a = .ok r') : r.isClosed = false := by
  unfold step at h
  split at h
  · cases h
  · next hclosed => exact Bool.eq_false_iff.mpr hclosed

/-- Two hyphens alone end the flags. -/
theorem step_hyphens (hclosed : r.isClosed = false) :
    r.step [0x2D, 0x2D] = .ok { r with isClosed := true } := by
  unfold step
  rw [hclosed]
  rfl

/-- Behind two hyphens stands a long name. -/
theorem step_long (hclosed : r.isClosed = false) {body : Bytes} (hbody : body ≠ []) :
    r.step (0x2D :: 0x2D :: body) = r.readLong body := by
  have hne : (0x2D :: 0x2D :: body : Bytes) ≠ [0x2D, 0x2D] := by simpa using hbody
  unfold step
  rw [hclosed, if_neg Bool.false_ne_true, if_neg hne]
  rfl

/-- Behind one hyphen stand short names, which are read up to the first byte that is no text. -/
theorem step_short (hclosed : r.isClosed = false) {b : UInt8} (hb : b ≠ 0x2D) {rest : Bytes} :
    r.step (0x2D :: b :: rest) =
      r.readShorts (Utf8.wellFormedFront (b :: rest)).2 (Utf8.wellFormedFront (b :: rest)).1 := by
  unfold step
  rw [hclosed]
  simp [hb]

/-- An argument that names no flags is a value, if the reader waits for one. -/
theorem step_eq_ok_iff_of_isPlain {a : Bytes} (h : IsPlain a) (hclosed : r.isClosed = false) :
    r.step a = .ok r' ↔
      ∃ f, r.pending = .awaiting f ∧ r' = ⟨r.values, .holding f a, false⟩ := by
  have hstep : r.step a = r.takeValue a := by
    unfold step
    rw [hclosed]
    rcases h with rfl | h
    · rfl
    · rcases a with _ | ⟨b, _ | ⟨c, rest⟩⟩
      · rfl
      · simp
      · have hb : b ≠ 0x2D := fun hb => h (congrArg some hb)
        simp [hb]
  obtain ⟨values, pending, isClosed⟩ := r
  obtain rfl : isClosed = false := hclosed
  rw [hstep, takeValue]
  cases pending with
  | nothing | holding => exact iff_of_false nofun fun ⟨_, h, _⟩ => nomatch h
  | awaiting f =>
    constructor
    · intro h
      exact ⟨f, rfl, (Except.ok.inj h).symm⟩
    · rintro ⟨f', hf, rfl⟩
      cases hf
      rfl

/-- An argument that names flags begins with a hyphen and does not end there. -/
theorem exists_cons_of_not_isPlain {a : Bytes} (h : ¬ IsPlain a) :
    ∃ b rest, a = 0x2D :: b :: rest := by
  rcases a with _ | ⟨x, _ | ⟨b, rest⟩⟩
  · exact absurd (.inr nofun) h
  · by_cases hx : x = 0x2D
    · exact absurd (.inl (hx ▸ rfl)) h
    · exact absurd (.inr fun hhead => hx (Option.some.inj hhead)) h
  · by_cases hx : x = 0x2D
    · exact ⟨b, rest, hx ▸ rfl⟩
    · exact absurd (.inr fun hhead => hx (Option.some.inj hhead)) h

/-- How the reader gets on at an argument that names flags: it settles, the switches in front of the
last name are given their texts, and it proceeds behind that name. -/
def GetsOn (r : Reader) (a : Bytes) (r' : Reader) : Prop :=
  ∃ values, ∃ n : Naming, ∃ suffix, r.Settles values ∧ n.IsKnown ∧
    a = Utf8.encode (n.text ++ suffix) ∧
    Proceeds (values.giveAll n.given) n.flag n.isShort suffix r'

/-- With two hyphens, an argument has a long name. -/
theorem step_long_eq_ok_iff (hclosed : r.isClosed = false) {body : Bytes} (hbody : body ≠ []) :
    r.step (0x2D :: 0x2D :: body) = .ok r' ↔ r.GetsOn (0x2D :: 0x2D :: body) r' := by
  rw [step_long hclosed hbody, readLong_eq_ok_iff hclosed]
  constructor
  · rintro ⟨values, f, suffix, hr, rfl, hproceeds⟩
    exact ⟨values, .long f, suffix, hr, ⟨nofun, nofun⟩, rfl, hproceeds⟩
  · rintro ⟨values, n, suffix, hr, hn, hnames, hproceeds⟩
    obtain ⟨_, _, hcons, hlong⟩ := Naming.encode_text_append hn suffix
    obtain ⟨hb, -⟩ := List.cons.inj (List.cons.inj (hnames.trans hcons)).2
    cases n with
    | long f =>
      exact ⟨values, f, suffix, hr, (List.cons.inj (List.cons.inj hnames).2).2, hproceeds⟩
    | short switches f => cases (hlong hb.symm).1

/-- With one hyphen, it has short names, and all of it is text. -/
theorem step_short_eq_ok_iff (hclosed : r.isClosed = false) {b : UInt8} (hb : b ≠ 0x2D)
    {rest : Bytes} : r.step (0x2D :: b :: rest) = .ok r' ↔ r.GetsOn (0x2D :: b :: rest) r' := by
  have hne {cs : List Char} (h : b :: rest = Utf8.encode cs) : cs ≠ [] := by
    rintro rfl
    cases h
  constructor
  · intro h
    rw [step_short hclosed hb] at h
    obtain ⟨hfront, hrest | hrest⟩ := Utf8.eq_append_wellFormedFront (b :: rest)
    · rw [hrest] at h hfront
      rw [List.append_nil] at hfront
      obtain ⟨values, switches, f, suffix, hr, hn, htext, hproceeds⟩ :=
        (readShorts_eq_ok_iff (hne hfront) hclosed).mp h
      rw [htext] at hfront
      exact ⟨values, .short switches f, suffix, hr, hn, congrArg (0x2D :: ·) hfront, hproceeds⟩
    · exact absurd h (not_readShorts_of_beginsIllFormed hrest hclosed)
  · rintro ⟨values, n, suffix, hr, hn, hnames, hproceeds⟩
    cases n with
    | long f => exact absurd (List.cons.inj (List.cons.inj hnames).2).1 hb
    | short switches f =>
      have hbytes : b :: rest =
          Utf8.encode (((switches ++ [f]).flatMap fun g => g.entry.short.toList) ++ suffix) :=
        (List.cons.inj hnames).2
      rw [step_short hclosed hb, hbytes, Utf8.wellFormedFront_encode]
      exact (readShorts_eq_ok_iff (hne hbytes) hclosed).mpr
        ⟨values, switches, f, suffix, hr, hn, rfl, hproceeds⟩

/-- **Any other argument names flags.** -/
theorem step_eq_ok_iff_of_not_isPlain {a : Bytes} (h : ¬ IsPlain a) (hne : a ≠ [0x2D, 0x2D])
    (hclosed : r.isClosed = false) : r.step a = .ok r' ↔ r.GetsOn a r' := by
  obtain ⟨b, rest, rfl⟩ := exists_cons_of_not_isPlain h
  by_cases hb : b = 0x2D
  · subst hb
    exact step_long_eq_ok_iff hclosed fun hnil => hne (by rw [hnil])
  · exact step_short_eq_ok_iff hclosed hb

/-! ### Command lines -/

/-- Arguments are read from left to right. -/
theorem run_append (r : Reader) (arguments arguments' : List Bytes) :
    r.run (arguments ++ arguments') =
      match r.run arguments with
      | .ok r => r.run arguments'
      | .error fault => .error fault := by
  induction arguments generalizing r with
  | nil => rfl
  | cons argument arguments ih =>
    rw [List.cons_append, run, run]
    cases r.step argument with
    | error fault => rfl
    | ok r' => exact ih r'

theorem run_cons_eq_ok_iff {a : Bytes} {arguments : List Bytes} :
    r.run (a :: arguments) = .ok r' ↔ ∃ r₁, r.step a = .ok r₁ ∧ r₁.run arguments = .ok r' := by
  rw [run]
  cases r.step a with
  | error fault => exact iff_of_false nofun fun ⟨_, h, _⟩ => nomatch h
  | ok r₁ => simp

/-- Nothing is read behind the end of the flags. -/
theorem eq_nil_of_isClosed (hclosed : r.isClosed = true) {arguments : List Bytes}
    (h : r.run arguments = .ok r') : arguments = [] ∧ r' = r := by
  cases arguments with
  | nil => exact ⟨rfl, (Except.ok.inj h).symm⟩
  | cons a arguments =>
    obtain ⟨r₁, hstep, -⟩ := run_cons_eq_ok_iff.mp h
    cases hclosed.symm.trans (isClosed_of_step hstep)

/-- Names are read, with what follows them. -/
theorem Settles.step_names (h : r.Settles values) {n : Naming} (hn : n.IsKnown)
    {suffix : List Char}
    (hproceeds : Proceeds (values.giveAll n.given) n.flag n.isShort suffix r') :
    r.step (Utf8.ofString (String.ofList (n.text ++ suffix))) = .ok r' := by
  rw [Utf8.ofString, String.toList_ofList]
  exact (step_eq_ok_iff_of_not_isPlain (Naming.not_isPlain hn suffix) (Naming.ne_hyphens hn suffix)
    h.isClosed_eq).mpr ⟨values, n, suffix, h, hn, rfl, hproceeds⟩

/-- **A phrase is read** as the texts that it gives. -/
theorem Settles.run_phrase {p : Phrase} (hp : p.IsWellFormed) (h : r.Settles values) :
    ∃ r', r.run (p.arguments.map Utf8.ofString) = .ok r' ∧
      r'.Settles (values.giveAll p.given) := by
  obtain ⟨n, m⟩ := p
  obtain ⟨hn, hm, hjoined⟩ : n.IsKnown ∧ m.Suits n.flag ∧ (m.isJoined = true → n.isShort = true) :=
    hp
  rw [Phrase.given, Flag.Values.giveAll_append]
  by_cases hbehind : m.behind = []
  · have hstep := h.step_names hn (.given hm hbehind hjoined)
    refine ⟨_, ?_, settles_idle _⟩
    simp only [Phrase.arguments, hbehind, List.map_cons, List.map_nil]
    exact run_cons_eq_ok_iff.mpr ⟨_, hstep, rfl⟩
  · cases m with
    | bare | attached | joined => exact absurd rfl hbehind
    | detached text =>
      have hstep := h.step_names hn (.waiting hm.2.1)
      refine ⟨_, ?_, settles_holding_iff.mpr ⟨text, rfl, hm.1, rfl⟩⟩
      have hvalue := (step_eq_ok_iff_of_isPlain
        (r := ⟨values.giveAll n.given, .awaiting n.flag, false⟩)
        (isPlain_ofString_iff.mpr hm.2.2) rfl).mpr ⟨n.flag, rfl, rfl⟩
      exact run_cons_eq_ok_iff.mpr ⟨_, hstep, run_cons_eq_ok_iff.mpr ⟨_, hvalue, rfl⟩⟩

/-- **Phrases are read** one after the other. -/
theorem Settles.run_phrases {phrases : List Phrase} (hall : ∀ p ∈ phrases, p.IsWellFormed)
    (h : r.Settles values) :
    ∃ r', r.run ((phrases.flatMap Phrase.arguments).map Utf8.ofString) = .ok r' ∧
      r'.Settles (values.giveAll (phrases.flatMap Phrase.given)) := by
  induction phrases generalizing r values with
  | nil => exact ⟨r, rfl, h⟩
  | cons p phrases ih =>
    obtain ⟨hp, hall⟩ := List.forall_mem_cons.mp hall
    obtain ⟨r₁, hrun₁, h₁⟩ := h.run_phrase hp
    obtain ⟨r', hrun', h'⟩ := ih hall h₁
    refine ⟨r', ?_, by rwa [List.flatMap_cons, Flag.Values.giveAll_append]⟩
    rw [List.flatMap_cons, List.map_append, run_append, hrun₁]
    exact hrun'

/-- What can happen at an argument that is not refused: it ends the flags, it is the value that the
reader waits for, it is a phrase, or it is the first argument of one. -/
theorem step_eq_ok {a : Bytes} (h : r.step a = .ok r') :
    (a = [0x2D, 0x2D] ∧ r' = { r with isClosed := true }) ∨
    (∃ f, IsPlain a ∧ r.pending = .awaiting f ∧ r' = ⟨r.values, .holding f a, false⟩) ∨
    (∃ values, ∃ p : Phrase, r.Settles values ∧ p.IsWellFormed ∧
      p.arguments.map Utf8.ofString = [a] ∧ r' = idle (values.giveAll p.given)) ∨
    ∃ values, ∃ n : Naming, r.Settles values ∧ n.IsKnown ∧ n.flag.kind ≠ .switch ∧
      a = Utf8.ofString (String.ofList n.text) ∧
      r' = ⟨values.giveAll n.given, .awaiting n.flag, false⟩ := by
  have hclosed := isClosed_of_step h
  by_cases hhyphens : a = [0x2D, 0x2D]
  · subst hhyphens
    exact .inl ⟨rfl, Except.ok.inj (h.symm.trans (step_hyphens hclosed))⟩
  by_cases hplain : IsPlain a
  · obtain ⟨f, hpending, rfl⟩ := (step_eq_ok_iff_of_isPlain hplain hclosed).mp h
    exact .inr (.inl ⟨f, hplain, hpending, rfl⟩)
  obtain ⟨values, n, suffix, hr, hn, rfl, hproceeds⟩ :=
    (step_eq_ok_iff_of_not_isPlain hplain hhyphens hclosed).mp h
  refine .inr (.inr ?_)
  cases hproceeds with
  | @given m hm hbehind hjoined =>
    refine .inl ⟨values, ⟨n, m⟩, hr, ⟨hn, hm, hjoined⟩, ?_, ?_⟩
    · simp [Phrase.arguments, hbehind, Utf8.ofString]
    · rw [Phrase.given, Flag.Values.giveAll_append]
      rfl
  | waiting hkind =>
    refine .inr ⟨values, n, hr, hn, hkind, ?_, rfl⟩
    rw [List.append_nil, Utf8.ofString, String.toList_ofList]

/-- **Arguments that are not refused** are written as phrases. If the reader waits for the value of
a flag, this value comes before them. -/
theorem exists_phrases {arguments : List Bytes} {r₀ : Reader} (hclosed : r.isClosed = false)
    (hrun : r.run arguments = .ok r') (hsettle : r'.settle = .ok r₀) :
    (∃ values phrases, r.Settles values ∧ Writes phrases arguments ∧
      r₀.values = values.giveAll (phrases.flatMap Phrase.given)) ∨
    ∃ f text rest phrases, r.pending = .awaiting f ∧ StandsAlone text ∧
      (f.kind.read? text).isSome = true ∧ arguments = Utf8.ofString text :: rest ∧
      Writes phrases rest ∧
      r₀.values = (r.values.give f text).giveAll (phrases.flatMap Phrase.given) := by
  induction arguments generalizing r with
  | nil =>
    cases hrun
    exact .inl ⟨_, [], (exists_settles hclosed hsettle).1, writes_nil, rfl⟩
  | cons a arguments ih =>
    obtain ⟨r₁, hstep, hrest⟩ := run_cons_eq_ok_iff.mp hrun
    rcases step_eq_ok hstep with ⟨rfl, rfl⟩ | ⟨f, hplain, hpending, rfl⟩ |
      ⟨values, p, hr, hp, harguments, rfl⟩ | ⟨values, n, hr, hn, hkind, rfl, rfl⟩
    · obtain ⟨rfl, rfl⟩ := eq_nil_of_isClosed rfl hrest
      obtain ⟨values, pending, isClosed⟩ := r
      obtain rfl : isClosed = false := hclosed
      exact .inl ⟨_, [], settles_of_settle hsettle, ⟨nofun, ["--"], .inr rfl, rfl⟩, rfl⟩
    · rcases ih rfl hrest with ⟨values, phrases, hr, hwrites, hvalues⟩ | ⟨f, _, _, _, hf, -⟩
      · obtain ⟨text, rfl, htaken, rfl⟩ := settles_holding_iff.mp hr
        exact .inr ⟨f, text, arguments, phrases, hpending, isPlain_ofString_iff.mp hplain, htaken,
          rfl, hwrites, hvalues⟩
      · cases hf
    · rcases ih rfl hrest with ⟨values', phrases, hidle, hwrites, hvalues⟩ | ⟨f, _, _, _, hf, -⟩
      · rw [hidle.unique (settles_idle _)] at hvalues
        refine .inl ⟨values, p :: phrases, hr, ?_, ?_⟩
        · have hcons : a :: arguments = p.arguments.map Utf8.ofString ++ arguments := by
            rw [harguments]
            rfl
          rw [hcons]
          exact hwrites.cons hp
        · rw [hvalues, List.flatMap_cons, Flag.Values.giveAll_append]
      · cases hf
    · rcases ih rfl hrest with ⟨values', phrases, hwaits, -⟩ |
        ⟨f, text, rest, phrases, hf, halone, htaken, rfl, hwrites, hvalues⟩
      · exact absurd hwaits not_settles_awaiting
      · cases hf
        have hp : (Phrase.mk n (.detached text)).IsWellFormed :=
          ⟨hn, ⟨htaken, hkind, halone⟩, nofun⟩
        refine .inl ⟨values, ⟨n, .detached text⟩ :: phrases, hr, ?_, ?_⟩
        · have harguments : Utf8.ofString (String.ofList n.text) :: Utf8.ofString text :: rest =
              (Phrase.mk n (.detached text)).arguments.map Utf8.ofString ++ rest := by
            simp [Phrase.arguments, Manner.suffix, Manner.behind]
          rw [harguments]
          exact hwrites.cons hp
        · rw [hvalues, List.flatMap_cons, Flag.Values.giveAll_append, Phrase.given,
            Flag.Values.giveAll_append]
          rfl

end Reader

/-- **The reader accepts** what phrases are written as, and nothing else. -/
theorem readFlags_eq_ok_iff {arguments : List Bytes} {values : Flag.Values} :
    readFlags arguments = .ok values ↔
      ∃ phrases, Writes phrases arguments ∧
        values = Flag.Values.empty.giveAll (phrases.flatMap Phrase.given) := by
  constructor
  · intro h
    unfold readFlags at h
    split at h
    · cases h
    · next r hrun =>
      split at h
      · next r₀ hsettle =>
        cases h
        rcases Reader.exists_phrases rfl hrun hsettle with
          ⟨values, phrases, hstart, hwrites, hvalues⟩ | ⟨f, _, _, _, hf, -⟩
        · rw [hstart.unique (Reader.settles_idle .empty)] at hvalues
          exact ⟨phrases, hwrites, hvalues⟩
        · cases hf
      · cases h
  · rintro ⟨phrases, ⟨hall, closing, hclosing, rfl⟩, rfl⟩
    have hstart : Reader.start.Settles .empty := Reader.settles_idle .empty
    obtain ⟨r, hrun, hr⟩ := hstart.run_phrases hall
    unfold readFlags
    rw [List.map_append, Reader.run_append, hrun]
    rcases hclosing with rfl | rfl
    · simp only [List.map_nil, Reader.run, hr.settle_eq]
      rfl
    · have hhyphens : Utf8.ofString "--" = [0x2D, 0x2D] := by decide
      simp only [List.map_cons, List.map_nil, Reader.run, hhyphens,
        Reader.step_hyphens hr.isClosed_eq, hr.settle_close]

/-! ### What is asked for -/

/-- A port that is too large is refused, whatever else is asked for. -/
theorem ofFlags_of_size_le {values : Flag.Values} {q : UInt64}
    (h : values (.setting .port) = some q) (hq : UInt16.size ≤ q.toNat) :
    ofFlags values = .error (.portTooLarge q) := by
  unfold ofFlags
  rw [h]
  exact if_pos hq

/-- Nothing else is refused once the arguments are read. -/
theorem ofFlags_of_lt_size {values : Flag.Values}
    (h : ∀ q, values (.setting .port) = some q → q.toNat < UInt16.size) :
    ofFlags values = .ok (ofFlags.request values) := by
  unfold ofFlags
  split
  · next q hq => exact if_neg (Nat.not_le.mpr (h q hq))
  · rfl

/-- Whatever is asked for, the arguments are read, and it is what their values ask for. -/
theorem exists_readFlags_of_parse {arguments : List Bytes} {request : Invocation}
    (h : parse arguments = .ok request) :
    ∃ values, readFlags arguments = .ok values ∧ request = ofFlags.request values := by
  unfold parse at h
  split at h
  · next values hvalues =>
    refine ⟨values, hvalues, ?_⟩
    unfold ofFlags at h
    split at h
    · split at h
      · cases h
      · exact (Except.ok.inj h).symm
    · exact (Except.ok.inj h).symm
  · cases h

end Gateway.CommandLine
