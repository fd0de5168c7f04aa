import Mathlib.Data.List.Induction
import Gateway.Proofs.CommandLine.Reading

/-!
# What is not on a command line

A command line that is understood is written as phrases of the grammar (`exists_writes_of_parse`),
so there is no place for anything else. Seen from a single argument, wherever it stands: a long name
is that of a flag in full, a letter among short names is that of a flag, and an argument that names
no flags stands where a flag waits for its value, and only there (`Awaits`).

The reader decides about an argument when it gets there, so the arguments before it and behind it
are followed by one run each (`exists_run_of_readFlags`).
-/

namespace Gateway.CommandLine

/-- An argument that names a flag last whose value has to be the next argument. -/
def Awaits (argument : Bytes) : Prop :=
  ∃ n : Naming, n.IsKnown ∧ n.flag.kind ≠ .switch ∧
    argument = Utf8.ofString (String.ofList n.text)

namespace Reader

variable {r r' : Reader} {a : Bytes}

/-! ### Values in arguments of their own -/

theorem not_isPlain_of_awaits (h : Awaits a) : ¬ IsPlain a := by
  obtain ⟨n, hn, -, rfl⟩ := h
  have hplain := Naming.not_isPlain hn []
  rwa [List.append_nil, ← String.toList_ofList (l := n.text)] at hplain

theorem ne_hyphens_of_awaits (h : Awaits a) : a ≠ [0x2D, 0x2D] := by
  obtain ⟨n, hn, -, rfl⟩ := h
  have hne := Naming.ne_hyphens hn []
  rwa [List.append_nil, ← String.toList_ofList (l := n.text)] at hne

/-- Behind the name of a flag that is no switch, the reader waits. -/
theorem exists_pending_of_awaits (h : Awaits a) (hstep : r.step a = .ok r') :
    ∃ values f, r' = ⟨values, .awaiting f, false⟩ := by
  obtain ⟨n, hn, hkind, htext⟩ := h
  have hreads {values : Flag.Values} (hr : r.Settles values) :
      r' = ⟨values.giveAll n.given, .awaiting n.flag, false⟩ := by
    have h := hr.step_names hn (.waiting hkind)
    rw [List.append_nil, ← htext, hstep] at h
    exact Except.ok.inj h
  rcases step_eq_ok hstep with ⟨rfl, -⟩ | ⟨-, hplain, -⟩ | ⟨values, -, hr, -⟩ | ⟨values, -, hr, -⟩
  · exact absurd rfl (ne_hyphens_of_awaits ⟨n, hn, hkind, htext⟩)
  · exact absurd hplain (not_isPlain_of_awaits ⟨n, hn, hkind, htext⟩)
  · exact ⟨_, _, hreads hr⟩
  · exact ⟨_, _, hreads hr⟩

/-- The reader waits for a value behind the name of a flag that is no switch, and only there. -/
theorem awaits_iff_of_step (hstep : r.step a = .ok r') :
    Awaits a ↔ ∃ values f, r' = ⟨values, .awaiting f, false⟩ := by
  refine ⟨fun h => exists_pending_of_awaits h hstep, ?_⟩
  rintro ⟨values, f, rfl⟩
  rcases step_eq_ok hstep with ⟨-, h⟩ | ⟨_, -, -, h⟩ | ⟨_, _, -, -, -, h⟩ |
    ⟨_, n, -, hn, hkind, htext, -⟩
  · cases congrArg isClosed h
  · cases h
  · cases h
  · exact ⟨n, hn, hkind, htext⟩

/-- Naming a switch leaves nothing to wait for. -/
theorem not_awaits_of_switch {n : Naming} (hn : n.IsKnown) (hkind : n.flag.kind = .switch) :
    ¬ Awaits (Utf8.ofString (String.ofList n.text)) := by
  intro h
  have hstep := (settles_idle .empty).step_names hn (proceeds_nil_iff.mpr rfl)
  rw [List.append_nil] at hstep
  obtain ⟨values, f, hwaits⟩ := exists_pending_of_awaits h hstep
  rw [named, if_pos hkind] at hwaits
  cases hwaits

/-- The last of some arguments is read where the others leave off. -/
theorem run_concat_eq_ok {arguments : List Bytes} (h : r.run (arguments ++ [a]) = .ok r') :
    ∃ r₁, r.run arguments = .ok r₁ ∧ r₁.step a = .ok r' := by
  rw [run_append] at h
  split at h
  · next r₁ hrun =>
    obtain ⟨r₂, hstep, hend⟩ := run_cons_eq_ok_iff.mp h
    cases hend
    exact ⟨r₁, hrun, hstep⟩
  · cases h

/-- The reader waits for a value if the last argument says so. -/
theorem exists_awaits_iff {front : List Bytes} (hrun : start.run front = .ok r) :
    (∃ last, front.getLast? = some last ∧ Awaits last) ↔
      ∃ values f, r = ⟨values, .awaiting f, false⟩ := by
  induction front using List.reverseRecOn with
  | nil =>
    cases hrun
    exact iff_of_false nofun nofun
  | append_singleton front last =>
    obtain ⟨r₁, -, hstep⟩ := run_concat_eq_ok hrun
    rw [← awaits_iff_of_step hstep]
    simp

/-- A reader that waits is content with an argument that names no flags, and with nothing else. -/
theorem exists_cons_of_awaiting {values : Flag.Values} {f : Flag} {arguments : List Bytes}
    {r₀ : Reader} (hrun : run ⟨values, .awaiting f, false⟩ arguments = .ok r)
    (hsettle : r.settle = .ok r₀) : ∃ value rest, arguments = value :: rest ∧ IsPlain value := by
  rcases exists_phrases rfl hrun hsettle with ⟨_, _, hwaits, -⟩ |
    ⟨_, text, rest, _, -, halone, -, rfl, -⟩
  · exact absurd hwaits not_settles_awaiting
  · exact ⟨_, rest, rfl, isPlain_ofString_iff.mpr halone⟩

/-! ### Names -/

/-- A long name is read if it is that of a flag, up to an equals sign or the end. -/
theorem exists_long_of_readLong {body : Bytes} (h : r.readLong body = .ok r') :
    ∃ f : Flag, body.takeWhile (· ≠ 0x3D) = Utf8.ofString f.entry.long := by
  unfold readLong at h
  dsimp only at h
  split at h
  · cases h
  · next f hf =>
    obtain ⟨long, hlong, hfound⟩ := Option.bind_eq_some_iff.mp hf
    refine ⟨f, ?_⟩
    rw [long_of_ofLong? hfound]
    exact Utf8.eq_ofString_of_string? hlong

/-- Behind short names of switches there is another short name, or an equals sign. -/
theorem exists_short_of_readShorts {switches : List Flag} {c : Char} {cs : List Char}
    (hswitches : ∀ g ∈ switches, g.kind = .switch ∧ g.entry.short.isSome = true)
    (hclosed : r.isClosed = false)
    (h : r.readShorts [] ((switches.flatMap fun g => g.entry.short.toList) ++ c :: cs) = .ok r') :
    (∃ f : Flag, f.entry.short = some c) ∨ switches ≠ [] ∧ c = '=' := by
  induction switches generalizing r with
  | nil =>
    cases hfound : Flag.ofShort? c with
    | none =>
      rw [List.flatMap_nil, List.nil_append, readShorts, hfound] at h
      cases h
    | some f => exact .inl ⟨f, short_of_ofShort? hfound⟩
  | cons g switches ih =>
    obtain ⟨⟨hkind, hshort⟩, hswitches⟩ := List.forall_mem_cons.mp hswitches
    obtain ⟨d, hd⟩ := Option.isSome_iff_exists.mp hshort
    rw [List.flatMap_cons, hd, Option.toList_some, List.append_assoc, List.singleton_append] at h
    rcases (readShorts_cons_eq_ok_iff hclosed hd).mp h with
      ⟨values, -, hproceeds⟩ | ⟨-, -, -, values, -, hrest⟩
    · -- nothing is joined to the name of a switch, so what follows is an equals sign
      refine .inr ⟨List.cons_ne_nil g switches, ?_⟩
      cases switches with
      | nil =>
        by_contra hc
        exact ((proceeds_cons_iff hc).mp hproceeds).2.1 hkind
      | cons g' switches =>
        obtain ⟨e, rest, hcons, -, he⟩ := exists_cons_of_shorts (List.cons_ne_nil g' switches)
          fun g hg => (hswitches g hg).2
        rw [hcons, List.cons_append] at hproceeds
        exact absurd hkind ((proceeds_cons_iff he).mp hproceeds).2.1
    · rcases ih hswitches rfl hrest with hf | ⟨-, hc⟩
      · exact .inl hf
      · exact .inr ⟨List.cons_ne_nil g switches, hc⟩

end Reader

/-! ### Command lines -/

/-- The reader comes to every argument, and gets on from there to the end. -/
theorem exists_run_of_readFlags {front back : List Bytes} {a : Bytes} {values : Flag.Values}
    (h : readFlags (front ++ a :: back) = .ok values) :
    ∃ r r₁ r' r₀, Reader.start.run front = .ok r ∧ r.step a = .ok r₁ ∧ r₁.run back = .ok r' ∧
      r'.settle = .ok r₀ := by
  unfold readFlags at h
  rw [Reader.run_append] at h
  cases hrun : Reader.start.run front with
  | error fault =>
    rw [hrun] at h
    cases h
  | ok r =>
    rw [hrun] at h
    dsimp only at h
    split at h
    · cases h
    · next r' hrest =>
      obtain ⟨r₁, hstep, hback⟩ := Reader.run_cons_eq_ok_iff.mp hrest
      split at h
      · next r₀ hsettle => exact ⟨r, r₁, r', r₀, rfl, hstep, hback, hsettle⟩
      · cases h

/-- **Nothing but phrases is understood.** A command line for which anything is done is a series of
well-formed phrases, and `--` may close it. So wherever an argument stands in it, (1) behind two
hyphens there is the full long name of a flag, up to the end or an equals sign, (2) behind short
names of switches there is the short name of a flag, or an equals sign, (3) an argument that names
no flags is the value for which the argument before it waits, and such a value does name none, (4)
no argument that waits is the last one, and (5) behind a switch that is named last there is no
value. -/
theorem exists_writes_of_parse {arguments : List Bytes} {request : Invocation}
    (h : parse arguments = .ok request) :
    (∃ phrases, Writes phrases arguments) ∧
    ∀ front a back, arguments = front ++ a :: back →
      (∀ body, body ≠ [] → a = 0x2D :: 0x2D :: body →
        ∃ f : Flag, body.takeWhile (· ≠ 0x3D) = Utf8.ofString f.entry.long) ∧
      (∀ switches : List Flag, ∀ c cs,
        (∀ g ∈ switches, g.kind = .switch ∧ g.entry.short.isSome = true) →
        (switches = [] → c ≠ '-') →
        a = Utf8.encode
          ('-' :: ((switches.flatMap fun g => g.entry.short.toList) ++ c :: cs)) →
        (∃ f : Flag, f.entry.short = some c) ∨ switches ≠ [] ∧ c = '=') ∧
      (IsPlain a ↔ ∃ last, front.getLast? = some last ∧ Awaits last) ∧
      (Awaits a → back ≠ []) ∧
      (∀ n : Naming, n.IsKnown → n.flag.kind = .switch →
        a = Utf8.ofString (String.ofList n.text) →
        ∀ value rest, back = value :: rest → ¬ IsPlain value) := by
  obtain ⟨values, hvalues, -⟩ := exists_readFlags_of_parse h
  obtain ⟨phrases, hwrites, -⟩ := readFlags_eq_ok_iff.mp hvalues
  have hplain {front back : List Bytes} {a : Bytes} (harguments : arguments = front ++ a :: back) :
      IsPlain a ↔ ∃ last, front.getLast? = some last ∧ Awaits last := by
    subst harguments
    obtain ⟨r, r₁, r', r₀, hfront, hstep, hback, hsettle⟩ := exists_run_of_readFlags hvalues
    rw [Reader.exists_awaits_iff hfront]
    constructor
    · intro ha
      obtain ⟨f, hpending, -⟩ :=
        (Reader.step_eq_ok_iff_of_isPlain ha (Reader.isClosed_of_step hstep)).mp hstep
      refine ⟨r.values, f, ?_⟩
      rw [← hpending, ← Reader.isClosed_of_step hstep]
    · rintro ⟨values, f, rfl⟩
      have hrun := Reader.run_cons_eq_ok_iff.mpr ⟨r₁, hstep, hback⟩
      obtain ⟨value, rest, hcons, hvalue⟩ := Reader.exists_cons_of_awaiting hrun hsettle
      obtain ⟨rfl, -⟩ := List.cons.inj hcons
      exact hvalue
  refine ⟨⟨phrases, hwrites⟩, fun front a back harguments => ?_⟩
  obtain ⟨r, r₁, r', r₀, hfront, hstep, hback, hsettle⟩ :=
    exists_run_of_readFlags (harguments ▸ hvalues)
  have hclosed := Reader.isClosed_of_step hstep
  refine ⟨fun body hbody hlong => ?_, fun switches c cs hswitches hc hshorts => ?_,
    hplain harguments, fun hawaits hnil => ?_, fun n hn hkind hname value rest hrest hvalue => ?_⟩
  · subst hlong
    rw [Reader.step_long hclosed hbody] at hstep
    exact Reader.exists_long_of_readLong hstep
  · have hfirst : ∃ d ds, ((switches.flatMap fun g => g.entry.short.toList) ++ c :: cs) = d :: ds ∧
        d ≠ '-' := by
      cases switches with
      | nil => exact ⟨c, cs, rfl, hc rfl⟩
      | cons g switches =>
        obtain ⟨d, ds, hcons, hd, -⟩ := exists_cons_of_shorts (List.cons_ne_nil g switches)
          fun g hg => (hswitches g hg).2
        exact ⟨d, ds ++ c :: cs, by rw [hcons, List.cons_append], hd⟩
    obtain ⟨d, ds, hcons, hd⟩ := hfirst
    obtain ⟨b, tail, hb, -⟩ := Utf8.encode_cons d ds
    have hb' : b ≠ 0x2D := by
      rintro rfl
      exact hd (Utf8.eq_ofNat_of_encode_cons hb (by decide))
    have ha : a = 0x2D :: b :: tail := by
      rw [hshorts, hcons, ← hb]
      rfl
    rw [ha, Reader.step_short hclosed hb', ← hb, Utf8.wellFormedFront_encode, ← hcons] at hstep
    exact Reader.exists_short_of_readShorts hswitches hclosed hstep
  · obtain ⟨values, f, rfl⟩ := (Reader.awaits_iff_of_step hstep).mp hawaits
    obtain ⟨value, rest, hcons, -⟩ := Reader.exists_cons_of_awaiting hback hsettle
    rw [hnil] at hcons
    cases hcons
  · have harguments' : arguments = (front ++ [a]) ++ value :: rest := by
      rw [harguments, hrest, List.append_assoc]
      rfl
    obtain ⟨last, hlast, hawaits⟩ := (hplain harguments').mp hvalue
    rw [List.getLast?_concat] at hlast
    cases hlast
    rw [hname] at hawaits
    exact Reader.not_awaits_of_switch hn hkind hawaits

/-- A value behind a cluster of short names, another one that is a hyphen, and the end of the
flags. -/
theorem exists_writes_of_parse_cluster :
    let arguments := ["-DVp", "9000", "--help=false", "-c", "-", "--"].map Utf8.ofString
    ∃ request, parse arguments = .ok request ∧ (∃ phrases, Writes phrases arguments) ∧
      Awaits (Utf8.ofString "-DVp") ∧ IsPlain (Utf8.ofString "9000") := by
  intro arguments
  let phrases : List Phrase :=
    [⟨.short [.setting .debug, .setting .trace] (.setting .port), .detached "9000"⟩,
      ⟨.long .help, .attached "false"⟩, ⟨.short [] .config, .detached "-"⟩]
  have hwrites : Writes phrases arguments := ⟨by decide, ["--"], .inr rfl, by decide⟩
  have hread := readFlags_eq_ok_iff.mpr ⟨phrases, hwrites, rfl⟩
  have hparse : parse arguments =
      .ok (ofFlags.request (Flag.Values.empty.giveAll (phrases.flatMap Phrase.given))) := by
    unfold parse
    rw [hread]
    refine ofFlags_of_lt_size fun q hq => ?_
    have hport : some (9000 : UInt64) = some q := hq
    cases hport
    decide
  obtain ⟨hphrases, hplaces⟩ := exists_writes_of_parse hparse
  have hplain : IsPlain (Utf8.ofString "9000") := .inr (by decide)
  obtain ⟨-, -, hvalue, -⟩ := hplaces [_] (Utf8.ofString "9000") _ rfl
  obtain ⟨last, hlast, hawaits⟩ := hvalue.mp hplain
  cases hlast
  exact ⟨_, hparse, hphrases, hawaits, hplain⟩

end Gateway.CommandLine
