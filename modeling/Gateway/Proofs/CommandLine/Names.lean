import Mathlib.Data.List.TakeWhile
import Gateway.Proofs.CommandLine.Values

/-!
# The names of flags as they are read

An argument that names flags has a long name or some short ones, and behind the last name a text,
or nothing. How the reader gets on there depends on the flag alone (`Reader.Proceeds`): the two
kinds of name differ in what may stand before it (`Reader.readLong_eq_ok_iff`,
`Reader.readShorts_eq_ok_iff`), and in that only short names have a text joined to them.
-/

namespace Gateway.CommandLine

namespace Reader

variable {r r' : Reader} {values : Flag.Values} {f : Flag}

/-! ### Flags -/

/-- A flag is met with its value attached. -/
theorem attach_eq_ok_iff (hclosed : r.isClosed = false) {given : Bytes} :
    r.attach f given = .ok r' ↔
      ∃ values text, r.Settles values ∧ given = Utf8.ofString text ∧
        (f.kind.read? text).isSome = true ∧ r' = idle (values.give f text) := by
  unfold attach
  constructor
  · intro h
    split at h
    · next r₀ hsettle =>
      obtain ⟨hr, hidle⟩ := exists_settles hclosed hsettle
      rw [hidle] at h
      obtain ⟨text, hgiven, htaken, rfl⟩ := record_eq_ok_iff.mp h
      exact ⟨_, text, hr, hgiven, htaken, rfl⟩
    · cases h
  · rintro ⟨values, text, hr, hgiven, htaken, rfl⟩
    rw [hr.settle_eq]
    exact record_eq_ok_iff.mpr ⟨text, hgiven, htaken, rfl⟩

/-- The characters that are attached make up a text. -/
theorem attach_encode_eq_ok_iff (hclosed : r.isClosed = false) {given : List Char} :
    r.attach f (Utf8.encode given) = .ok r' ↔
      ∃ values, r.Settles values ∧ (f.kind.read? (String.ofList given)).isSome = true ∧
        r' = idle (values.give f (String.ofList given)) := by
  have hbytes : Utf8.encode given = Utf8.ofString (String.ofList given) := by
    rw [Utf8.ofString, String.toList_ofList]
  rw [attach_eq_ok_iff hclosed, hbytes]
  constructor
  · rintro ⟨values, text, hr, htext, htaken, rfl⟩
    rw [Utf8.ofString_injective htext]
    exact ⟨values, hr, htaken, rfl⟩
  · rintro ⟨values, hr, htaken, rfl⟩
    exact ⟨values, _, hr, rfl, htaken, rfl⟩

/-- What is read where the name of a flag stands alone. -/
def named (values : Flag.Values) (f : Flag) : Reader :=
  if f.kind = .switch then idle (values.give f "true") else ⟨values, .awaiting f, false⟩

theorem isClosed_named (values : Flag.Values) (f : Flag) : (named values f).isClosed = false := by
  unfold named
  split <;> rfl

/-- A flag is met by its name alone. -/
theorem meet_eq_ok_iff (hclosed : r.isClosed = false) :
    r.meet f = .ok r' ↔ ∃ values, r.Settles values ∧ r' = named values f := by
  have hmeet {values : Flag.Values} (hr : r.Settles values) :
      r.meet f = .ok (named values f) := by
    unfold meet named
    rw [hr.settle_eq]
    dsimp only
    split
    · next hkind => exact record_eq_ok_iff.mpr ⟨"true", rfl, isSome_read?_switch hkind, rfl⟩
    · rfl
  constructor
  · intro h
    cases hsettle : r.settle with
    | error fault =>
      unfold meet at h
      rw [hsettle] at h
      cases h
    | ok r₀ =>
      have hr := (exists_settles hclosed hsettle).1
      exact ⟨_, hr, Except.ok.inj (h.symm.trans (hmeet hr))⟩
  · rintro ⟨values, hr, rfl⟩
    exact hmeet hr

/-! ### Behind the name of a flag -/

/-- How the reader gets on at what follows the name of a flag in its argument: it gives the flag a
text, or waits for one. -/
inductive Proceeds (values : Flag.Values) (f : Flag) (isShort : Bool) :
    List Char → Reader → Prop
  | given {m : Manner} (hm : m.Suits f) (hbehind : m.behind = [])
    (hjoined : m.isJoined = true → isShort = true) :
    Proceeds values f isShort m.suffix (idle (values.give f m.text))
  | waiting (hkind : f.kind ≠ .switch) :
    Proceeds values f isShort [] ⟨values, .awaiting f, false⟩

section Proceeds

variable {isShort : Bool} {c : Char} {cs : List Char}

/-- Nothing follows the name. -/
theorem proceeds_nil_iff : Proceeds values f isShort [] r' ↔ r' = named values f := by
  constructor
  · intro h
    generalize hcs : ([] : List Char) = cs at h
    cases h with
    | @given m hm hbehind =>
      cases m with
      | bare => exact (if_pos hm.2).symm
      | detached | attached => simp [Manner.suffix, Manner.behind] at hcs hbehind
      | joined text => exact absurd (String.toList_eq_nil_iff.mp hcs.symm) hm.2.2.1
    | waiting hkind => exact (if_neg hkind).symm
  · rintro rfl
    unfold named
    split
    · next hkind =>
      have hm : Manner.bare.Suits f := ⟨isSome_read?_switch hkind, hkind⟩
      exact .given hm rfl nofun
    · next hkind => exact .waiting hkind

/-- A text is attached. -/
theorem proceeds_equals_iff :
    Proceeds values f isShort ('=' :: cs) r' ↔
      (f.kind.read? (String.ofList cs)).isSome = true ∧
        r' = idle (values.give f (String.ofList cs)) := by
  constructor
  · intro h
    generalize hcs : '=' :: cs = suffix at h
    cases h with
    | @given m hm hbehind =>
      cases m with
      | bare | detached => cases hcs
      | attached text =>
        obtain ⟨-, rfl⟩ := List.cons.inj hcs
        rw [String.ofList_toList]
        exact ⟨hm.1, rfl⟩
      | joined text => exact absurd (congrArg List.head? hcs.symm) hm.2.2.2
    | waiting => cases hcs
  · rintro ⟨htaken, rfl⟩
    have hm : (Manner.attached (String.ofList cs)).Suits f := ⟨htaken, trivial⟩
    simpa [Manner.suffix, Manner.text] using Proceeds.given hm rfl nofun

/-- A text is joined to a short name. -/
theorem proceeds_cons_iff (hc : c ≠ '=') :
    Proceeds values f isShort (c :: cs) r' ↔
      isShort = true ∧ f.kind ≠ .switch ∧ (f.kind.read? (String.ofList (c :: cs))).isSome = true ∧
        r' = idle (values.give f (String.ofList (c :: cs))) := by
  constructor
  · intro h
    generalize hcs : c :: cs = suffix at h
    cases h with
    | @given m hm hbehind hjoined =>
      cases m with
      | bare | detached => cases hcs
      | attached text => exact absurd (List.cons.inj hcs).1 hc
      | joined text =>
        rw [Manner.suffix, String.ofList_toList]
        exact ⟨hjoined rfl, hm.2.1, hm.1, rfl⟩
    | waiting => cases hcs
  · rintro ⟨hshort, hkind, htaken, rfl⟩
    have hm : (Manner.joined (String.ofList (c :: cs))).Suits f :=
      ⟨htaken, hkind, by simp, by simpa using hc⟩
    simpa [Manner.suffix, Manner.text] using Proceeds.given hm rfl fun _ => hshort

end Proceeds

/-! ### Long names -/

/-- A long name with nothing behind it is that of a flag that is met. -/
theorem readLong_name (r : Reader) (f : Flag) :
    r.readLong (Utf8.ofString f.entry.long) = r.meet f := by
  have hne : ∀ b ∈ Utf8.ofString f.entry.long, decide (b ≠ 0x3D) = true := fun b hb =>
    decide_eq_true (ne_of_mem_long hb)
  unfold readLong
  simp only [List.takeWhile_eq_self_iff.mpr hne, List.dropWhile_eq_nil_iff.mpr hne,
    Utf8.string?_ofString, Option.bind_some, Flag.ofLong?_long]

/-- What stands behind a long name and an `=` is attached. -/
theorem readLong_name_equals (r : Reader) (f : Flag) (given : Bytes) :
    r.readLong (Utf8.ofString f.entry.long ++ 0x3D :: given) = r.attach f given := by
  have hne : ∀ b ∈ Utf8.ofString f.entry.long, decide (b ≠ 0x3D) = true := fun b hb =>
    decide_eq_true (ne_of_mem_long hb)
  have hequals : decide ((0x3D : UInt8) ≠ 0x3D) = false := by decide
  unfold readLong
  simp only [List.takeWhile_append_of_pos hne, List.dropWhile_append_of_pos hne,
    List.takeWhile_cons, List.dropWhile_cons, hequals, Bool.false_eq_true, if_false,
    List.append_nil, Utf8.string?_ofString, Option.bind_some, Flag.ofLong?_long]

/-- Nothing is read but a long name, alone or with an `=` behind it. -/
theorem exists_name_of_readLong {body : Bytes} (h : r.readLong body = .ok r') :
    ∃ f : Flag, body = Utf8.ofString f.entry.long ∨
      ∃ given, body = Utf8.ofString f.entry.long ++ 0x3D :: given := by
  unfold readLong at h
  dsimp only at h
  split at h
  · cases h
  · next f hf =>
    obtain ⟨long, hlong, hfound⟩ := Option.bind_eq_some_iff.mp hf
    have hbody := List.takeWhile_append_dropWhile (p := (· ≠ (0x3D : UInt8))) (l := body)
    rw [Utf8.eq_ofString_of_string? hlong, ← long_of_ofLong? hfound] at hbody
    refine ⟨f, ?_⟩
    cases hrest : body.dropWhile (· ≠ 0x3D) with
    | nil =>
      rw [hrest, List.append_nil] at hbody
      exact .inl hbody.symm
    | cons b given =>
      have hhead := List.head?_dropWhile_not (· ≠ (0x3D : UInt8)) body
      rw [hrest] at hhead hbody
      obtain rfl : b = 0x3D := by simpa using hhead
      exact .inr ⟨given, hbody.symm⟩

/-- **Long names are read** up to an `=` or to the end of the argument. -/
theorem readLong_eq_ok_iff (hclosed : r.isClosed = false) {body : Bytes} :
    r.readLong body = .ok r' ↔
      ∃ values f suffix, r.Settles values ∧ body = Utf8.encode (f.entry.long.toList ++ suffix) ∧
        Proceeds values f false suffix r' := by
  have hname (f : Flag) : Utf8.encode (f.entry.long.toList ++ []) =
      Utf8.ofString f.entry.long := by
    rw [List.append_nil]
    rfl
  have hequals (f : Flag) (cs : List Char) : Utf8.encode (f.entry.long.toList ++ '=' :: cs) =
      Utf8.ofString f.entry.long ++ 0x3D :: Utf8.encode cs := by
    simp [Utf8.ofString, Utf8.encode, Utf8.encodeChar]
  constructor
  · intro h
    obtain ⟨f, rfl | ⟨given, rfl⟩⟩ := exists_name_of_readLong h
    · rw [readLong_name] at h
      obtain ⟨values, hr, rfl⟩ := (meet_eq_ok_iff hclosed).mp h
      exact ⟨values, f, [], hr, (hname f).symm, proceeds_nil_iff.mpr rfl⟩
    · rw [readLong_name_equals] at h
      obtain ⟨values, text, hr, rfl, htaken, rfl⟩ := (attach_eq_ok_iff hclosed).mp h
      refine ⟨values, f, '=' :: text.toList, hr, (hequals f _).symm, proceeds_equals_iff.mpr ?_⟩
      rw [String.ofList_toList]
      exact ⟨htaken, rfl⟩
  · rintro ⟨values, f, suffix, hr, rfl, hproceeds⟩
    rcases suffix with _ | ⟨c, cs⟩
    · rw [hname, readLong_name, proceeds_nil_iff.mp hproceeds]
      exact (meet_eq_ok_iff hclosed).mpr ⟨values, hr, rfl⟩
    · by_cases hc : c = '='
      · subst hc
        rw [hequals, readLong_name_equals]
        obtain ⟨htaken, rfl⟩ := proceeds_equals_iff.mp hproceeds
        exact (attach_encode_eq_ok_iff hclosed).mpr ⟨values, hr, htaken, rfl⟩
      · exact absurd ((proceeds_cons_iff hc).mp hproceeds).1 Bool.false_ne_true

/-! ### Short names -/

/-- Bytes that are not text are refused behind short names. -/
theorem not_readShorts_of_beginsIllFormed {invalid : Bytes} (h : Utf8.BeginsIllFormed invalid)
    {cs : List Char} {r : Reader} (hclosed : r.isClosed = false) :
    ¬ r.readShorts invalid cs = .ok r' := by
  have hnil : invalid ≠ [] := by
    obtain ⟨b, rest, -, rfl, -⟩ := h
    exact List.cons_ne_nil b rest
  have hattach {r : Reader} (hclosed : r.isClosed = false) {f : Flag} {cs : List Char} :
      ¬ r.attach f (Utf8.encode cs ++ invalid) = .ok r' := by
    intro hok
    obtain ⟨-, text, -, htext, -⟩ := (attach_eq_ok_iff hclosed).mp hok
    have hread : Utf8.string? (Utf8.ofString text) = none := by
      rw [← htext, Utf8.string?, Utf8.decode?_append_of_beginsIllFormed cs h]
      rfl
    cases hread.symm.trans (Utf8.string?_ofString text)
  induction cs generalizing r with
  | nil =>
    rw [readShorts, if_neg hnil]
    intro hok
    cases hok
  | cons c cs ih =>
    rw [readShorts]
    cases Flag.ofShort? c with
    | none =>
      intro hok
      cases hok
    | some f =>
      dsimp only
      split
      · exact hattach hclosed
      · split
        · intro hok
          split at hok
          · next r₁ hmeet =>
            obtain ⟨values, -, rfl⟩ := (meet_eq_ok_iff hclosed).mp hmeet
            exact ih (isClosed_named values f) hok
          · cases hok
        · rw [if_neg fun hboth => hnil hboth.2]
          exact hattach hclosed

/-- What is read behind a switch in its argument. -/
theorem readShorts_behind_eq_ok_iff (hclosed : r.isClosed = false) (hkind : f.kind = .switch)
    {cs : List Char} :
    (match r.meet f with
      | .ok r => r.readShorts [] cs
      | .error fault => .error fault) = .ok r' ↔
      ∃ values, r.Settles values ∧ (idle (values.give f "true")).readShorts [] cs = .ok r' := by
  have hmeet {r₁ : Reader} : r.meet f = .ok r₁ ↔
      ∃ values, r.Settles values ∧ r₁ = idle (values.give f "true") := by
    rw [meet_eq_ok_iff hclosed]
    simp only [named, if_pos hkind]
  constructor
  · intro h
    split at h
    · next r₁ hok =>
      obtain ⟨values, hr, rfl⟩ := hmeet.mp hok
      exact ⟨values, hr, h⟩
    · cases h
  · rintro ⟨values, hr, h⟩
    rw [hmeet.mpr ⟨values, hr, rfl⟩]
    exact h

/-- The characters from a short name on. -/
theorem readShorts_cons_eq_ok_iff (hclosed : r.isClosed = false) {c : Char}
    (hc : f.entry.short = some c) {cs : List Char} :
    r.readShorts [] (c :: cs) = .ok r' ↔
      (∃ values, r.Settles values ∧ Proceeds values f true cs r') ∨
        f.kind = .switch ∧ cs ≠ [] ∧ cs.head? ≠ some '=' ∧
          ∃ values, r.Settles values ∧
            (idle (values.give f "true")).readShorts [] cs = .ok r' := by
  rw [readShorts, Flag.ofShort?_short hc]
  simp only [and_true, List.append_nil]
  rcases cs with _ | ⟨d, cs⟩
  · simp only [ne_eq, not_true_eq_false, false_and, and_false, or_false, proceeds_nil_iff]
    split
    · next hkind =>
      refine (readShorts_behind_eq_ok_iff hclosed hkind).trans ?_
      simp only [readShorts, if_pos, Except.ok.injEq, named, hkind, eq_comm]
    · exact meet_eq_ok_iff hclosed
  · by_cases hd : d = '='
    · subst hd
      simp [attach_encode_eq_ok_iff hclosed, proceeds_equals_iff]
    · split
      · next heq => exact absurd (List.cons.inj heq).1 hd
      · split
        · next hkind =>
          refine (readShorts_behind_eq_ok_iff hclosed hkind).trans ?_
          simp [proceeds_cons_iff hd, hkind, hd]
        · next hkind =>
          rw [if_neg (List.cons_ne_nil d cs), attach_encode_eq_ok_iff hclosed]
          simp [proceeds_cons_iff hd, hkind]

/-- **Short names are read** in one argument: those of switches, and one more with what follows. -/
theorem readShorts_eq_ok_iff {cs : List Char} (hcs : cs ≠ []) (hclosed : r.isClosed = false) :
    r.readShorts [] cs = .ok r' ↔
      ∃ values switches f suffix, r.Settles values ∧ (Naming.short switches f).IsKnown ∧
        cs = ((switches ++ [f]).flatMap fun g => g.entry.short.toList) ++ suffix ∧
        Proceeds (values.giveAll (switches.map (·, "true"))) f true suffix r' := by
  constructor
  · intro h
    induction cs generalizing r with
    | nil => exact absurd rfl hcs
    | cons c cs ih =>
      cases hfound : Flag.ofShort? c with
      | none =>
        rw [readShorts, hfound] at h
        cases h
      | some f =>
        have hc := short_of_ofShort? hfound
        rcases (readShorts_cons_eq_ok_iff hclosed hc).mp h with
          ⟨values, hr, hproceeds⟩ | ⟨hkind, hne, -, values, hr, hrest⟩
        · exact ⟨values, [], f, cs, hr, ⟨nofun, fun _ => by simp [Naming.flag, hc]⟩,
            by simp [hc], hproceeds⟩
        · obtain ⟨values', switches, f', suffix, hidle, ⟨hswitches, hf'⟩, rfl, hproceeds⟩ :=
            ih hne rfl hrest
          rw [hidle.unique (settles_idle _)] at hproceeds
          refine ⟨values, f :: switches, f', suffix, hr, ⟨?_, hf'⟩, by simp [hc], hproceeds⟩
          exact List.forall_mem_cons.mpr ⟨⟨hkind, by rw [hc]; rfl⟩, hswitches⟩
  · rintro ⟨values, switches, f, suffix, hr, ⟨hswitches, hf⟩, rfl, hproceeds⟩
    obtain ⟨c, hc⟩ := Option.isSome_iff_exists.mp (hf rfl)
    change f.entry.short = some c at hc
    clear hcs
    induction switches generalizing r values with
    | nil =>
      simp only [List.nil_append, List.flatMap_cons, List.flatMap_nil, hc, Option.toList_some,
        List.append_nil, List.singleton_append]
      exact (readShorts_cons_eq_ok_iff hclosed hc).mpr (.inl ⟨values, hr, hproceeds⟩)
    | cons g switches ih =>
      obtain ⟨⟨hkind, hg⟩, hswitches⟩ := List.forall_mem_cons.mp hswitches
      obtain ⟨d, hd⟩ := Option.isSome_iff_exists.mp hg
      have hrest := ih (r := idle (values.give g "true")) rfl _ (settles_idle _) hswitches hf
        hproceeds
      obtain ⟨e, rest, hcons, -, he⟩ := exists_cons_of_shorts (by simp)
        (Naming.exists_short_of_mem (n := .short switches f) ⟨hswitches, hf⟩ rfl)
      change ((switches ++ [f]).flatMap fun g => g.entry.short.toList) = e :: rest at hcons
      simp only [List.cons_append, List.flatMap_cons, hd, Option.toList_some, List.nil_append,
        hcons] at hrest ⊢
      refine (readShorts_cons_eq_ok_iff hclosed hd).mpr (.inr ⟨hkind, List.cons_ne_nil e _, ?_,
        values, hr, hrest⟩)
      simpa using he

end Reader

end Gateway.CommandLine
