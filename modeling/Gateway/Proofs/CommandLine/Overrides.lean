import Gateway.Proofs.CommandLine.Reading
import Gateway.Proofs.Config.Precedence

/-!
# Values that no longer know their flags

A command line keeps its values by setting, each with the type that the kind of the flag fixes.
Without these types what it keeps is a list of pairs of a flag and a value
(`CommandLine.overrides`), and nothing about such a list says that its pairs fit: a flag may stand
for no setting, a number may be paired with a switch or be no port. `Config.override?` goes by the
pairs alone and refuses those that do not fit.

The list of a command line that is understood holds every setting that was given, and
`Config.overrideAll?` accepts it on every configuration, with the result that laying the layer of
the command line over the configuration has. This is `overrides_of_parse`.
-/

namespace Gateway

/-! ### Pairs -/

/-- A value apart from its flag. -/
inductive LooseValue where
  | text (s : String)
  | switch (isOn : Bool)
  | number (n : UInt64)
  | list (ss : List String)
  deriving DecidableEq, Repr

namespace LooseValue

/-- The kind of the flags that a value is for. -/
def kind : LooseValue → Kind
  | text _ => .text
  | switch _ => .switch
  | number _ => .number
  | list _ => .repeated

end LooseValue

namespace Kind

/-- A value apart from its flag, whose kind is known. -/
def loosen : (k : Kind) → k.Value → LooseValue
  | .text, s => .text s
  | .switch, isOn => .switch isOn
  | .number, n => .number n
  | .repeated, ss => .list ss

@[simp]
theorem kind_loosen (k : Kind) (v : k.Value) : (k.loosen v).kind = k := by
  cases k <;> rfl

/-- A value that is added to others leaves no list empty that it does not leave empty itself. -/
theorem loosen_combine_ne {k : Kind} {now : k.Value} (h : k.loosen now ≠ .list [])
    (before : Option k.Value) : k.loosen (k.combine before now) ≠ .list [] := by
  cases k with
  | text | switch | number => exact nofun
  | repeated =>
    have hnow : now ≠ [] := fun hnil => h (congrArg LooseValue.list hnil)
    cases before with
    | none => exact h
    | some ss => exact fun hnil => hnow (List.append_eq_nil_iff.mp (LooseValue.list.inj hnil)).2

/-- The value of a text is never the empty list. -/
theorem loosen_ne_of_read? {k : Kind} {text : String} {v : k.Value} (h : k.read? text = some v) :
    k.loosen v ≠ .list [] := by
  cases k with
  | text | switch | number => exact nofun
  | repeated =>
    obtain rfl := Option.some.inj h
    exact nofun

end Kind

namespace Flag

/-- The flags that give nothing to settings. -/
def aside : List Flag := [help, version, config]

namespace Values

variable {vs : Values} {f : Flag}

/-- The values that are given for flags, as pairs in the order of the log. -/
def pairs (vs : Values) : List (Flag × LooseValue) :=
  (aside ++ Setting.all.map setting).filterMap fun f => (vs f).map fun v => (f, f.kind.loosen v)

/-! ### What was read -/

/-- No flag that may be repeated has been given without a text. -/
def IsFilled (vs : Values) : Prop := ∀ f v, vs f = some v → f.kind.loosen v ≠ .list []

theorem IsFilled.give (h : vs.IsFilled) (f : Flag) (text : String) : (vs.give f text).IsFilled := by
  cases hread : f.kind.read? text with
  | none =>
    unfold Values.give
    rw [hread]
    exact h
  | some value =>
    rw [give_of_read? hread]
    intro g v hv
    by_cases hg : f = g
    · subst hg
      obtain rfl := Option.some.inj ((vs.record_self f value).symm.trans hv)
      exact Kind.loosen_combine_ne (Kind.loosen_ne_of_read? hread) (vs f)
    · exact h g v ((vs.record_of_ne value hg).symm.trans hv)

theorem IsFilled.giveAll (h : vs.IsFilled) (given : List (Flag × String)) :
    (vs.giveAll given).IsFilled := by
  induction given generalizing vs with
  | nil => exact h
  | cons g given ih => exact ih (h.give g.1 g.2)

/-- A flag that takes a text has a value from then on. -/
theorem isSome_give_iff {g : Flag} {text : String} (hread : (g.kind.read? text).isSome = true) :
    ((vs.give g text) f).isSome = true ↔ f = g ∨ (vs f).isSome = true := by
  obtain ⟨value, hvalue⟩ := Option.isSome_iff_exists.mp hread
  rw [give_of_read? hvalue]
  by_cases hg : g = f
  · subst hg
    simp
  · rw [vs.record_of_ne value hg]
    simp [Ne.symm hg]

/-- Flags have values if they did before or are given texts. -/
theorem isSome_giveAll_iff {given : List (Flag × String)}
    (hread : ∀ g ∈ given, (g.1.kind.read? g.2).isSome = true) :
    ((vs.giveAll given) f).isSome = true ↔
      (∃ text, (f, text) ∈ given) ∨ (vs f).isSome = true := by
  induction given generalizing vs with
  | nil => simp [giveAll]
  | cons g given ih =>
    obtain ⟨hg, hgiven⟩ := List.forall_mem_cons.mp hread
    change (((vs.give g.1 g.2).giveAll given) f).isSome = true ↔ _
    rw [ih hgiven, isSome_give_iff hg]
    obtain ⟨h, text⟩ := g
    simp only [List.mem_cons, Prod.mk.injEq, exists_or, exists_and_left, exists_eq, and_true]
    rw [or_left_comm, or_assoc]

end Values

end Flag

namespace CommandLine

/-- What a well-formed phrase gives to flags, they take. -/
theorem Phrase.isSome_read?_of_mem_given {p : Phrase} (hp : p.IsWellFormed) :
    ∀ g ∈ p.given, (g.1.kind.read? g.2).isSome = true := by
  obtain ⟨hknown, hsuits, -⟩ := hp
  refine List.forall_mem_append.mpr ⟨?_, List.forall_mem_singleton.mpr hsuits.1⟩
  exact List.forall_mem_map.mpr fun f hf => isSome_read?_switch (hknown.1 f hf).1

/-! ### What is kept -/

/-- The values that a command line gives for settings, as pairs in the order of the log. -/
def overrides (cl : CommandLine) : List (Flag × LooseValue) :=
  Setting.all.filterMap fun s =>
    (cl.given s).map fun v => (.setting s, (Flag.setting s).kind.loosen v)

variable {cl : CommandLine}

/-- The overrides are the values that are given for settings, and no others. -/
theorem mem_overrides_iff {o : Flag × LooseValue} :
    o ∈ cl.overrides ↔
      ∃ s v, cl.given s = some v ∧ o = (.setting s, (Flag.setting s).kind.loosen v) := by
  unfold overrides
  simp only [List.mem_filterMap, Option.map_eq_some_iff, Setting.mem_all, true_and, @eq_comm _ o]

/-- What is kept of the pairs that were read is what settings get. -/
theorem overrides_of_request {values : Flag.Values} (h : ofFlags.request values = .run cl) :
    cl.overrides = values.pairs.filter fun o => decide (o.1 ∉ Flag.aside) := by
  have hgiven : cl.given = fun s => values (.setting s) := funext (given_of_request h)
  have hkept : cl.overrides = (Setting.all.map Flag.setting).filterMap fun f =>
      (values f).map fun v => (f, f.kind.loosen v) := by
    rw [List.filterMap_map, overrides, hgiven]
    rfl
  have haside : (Flag.aside.filterMap fun f =>
      (values f).map fun v => (f, f.kind.loosen v)).filter (fun o => decide (o.1 ∉ Flag.aside)) =
      [] := by
    refine List.filter_eq_nil_iff.mpr fun o ho => ?_
    obtain ⟨f, hf, hv⟩ := List.mem_filterMap.mp ho
    obtain ⟨v, -, rfl⟩ := Option.map_eq_some_iff.mp hv
    simp [hf]
  rw [Flag.Values.pairs, List.filterMap_append, List.filter_append, haside, List.nil_append,
    ← hkept]
  refine (List.filter_eq_self.mpr fun o ho => ?_).symm
  obtain ⟨s, v, -, rfl⟩ := mem_overrides_iff.mp ho
  exact decide_eq_true (by simp [Flag.aside])

end CommandLine

/-! ### Laying pairs over a configuration -/

namespace Config

/-- A configuration with the value of a pair laid over it, if the flag is that of a setting and the
value is one for it. A port of zero is laid over nothing. -/
def override? (c : Config) : Flag × LooseValue → Option Config
  | (.setting .natsUrl, .text v) => some { c with natsUrl := v }
  | (.setting .natsCreds, .text v) => some { c with natsCreds := nonempty? v }
  | (.setting .requestTimeout, .number v) => some { c with requestTimeout := v }
  | (.setting .debug, .switch v) => some { c with debug := v }
  | (.setting .trace, .switch v) => some { c with trace := v }
  | (.setting .addr, .text v) => some { c with addr := nonempty? v }
  | (.setting .port, .number v) =>
    if 65536 ≤ v.toNat then none else if v = 0 then some c else some { c with port := v.toUInt16 }
  | (.setting .wsPath, .text v) => some { c with wsPath := v }
  | (.setting .apiPath, .text v) => some { c with apiPath := v }
  | (.setting .headerAuth, .text v) => some { c with headerAuth := nonempty? v }
  | (.setting .allowOrigin, .list vs) =>
    some { c with allowOrigin := nonempty? (Text.joinStrings ';' vs) }
  | (.setting .apiEncoding, .text v) => some { c with apiEncoding := v }
  | (.setting .tls, .switch v) => some { c with tls := v }
  | (.setting .tlsCert, .text v) => some { c with tlsCert := v }
  | (.setting .tlsKey, .text v) => some { c with tlsKey := v }
  | _ => none

/-- A configuration with the values of all pairs laid over it, one after the other. -/
def overrideAll? (c : Config) (os : List (Flag × LooseValue)) : Option Config :=
  os.foldlM override? c

/-- Pairs of settings with values for them are accepted, and lay over the configuration what the
flag gives for the setting. -/
theorem override?_loosen (c : Config) (s : Setting) (v : (Flag.setting s).Value)
    (hport : ∀ p, (⟨s, v⟩ : (s : Setting) × (Flag.setting s).Value) = ⟨.port, p⟩ →
      p.toNat < UInt16.size) :
    c.override? (.setting s, (Flag.setting s).kind.loosen v) =
      some ((CommandLine.content? s v).elim c (c.put s)) := by
  cases s with
  | port =>
    have hv := hport v rfl
    change (if 65536 ≤ v.toNat then none else _) = some (Option.elim (if _ then _ else _) _ _)
    rw [if_neg (Nat.not_le.mpr hv)]
    by_cases hz : v = 0
    · rw [if_pos hz, if_neg fun h => h.2 hz]
      rfl
    · rw [if_neg hz, if_pos ⟨hv, hz⟩]
      rfl
  | natsUrl | natsCreds | requestTimeout | debug | trace | addr | wsPath | apiPath | headerAuth
  | allowOrigin | apiEncoding | tls | tlsCert | tlsKey => rfl

end Config

namespace CommandLine

variable {cl : CommandLine}

/-- **Every pair counts.** The pairs of a command line whose port fits are accepted on every
configuration, and amount to its layer. -/
theorem overrideAll?_overrides (hport : cl.PortFits) (c : Config) :
    c.overrideAll? cl.overrides = some (cl.toLayer.applyTo c) := by
  have hlay (ss : List Setting) (c : Config) :
      c.overrideAll? (ss.filterMap fun s =>
        (cl.given s).map fun v => (.setting s, (Flag.setting s).kind.loosen v)) =
      some (ss.foldl (fun c s => (cl.toLayer s).elim c (c.put s)) c) := by
    induction ss generalizing c with
    | nil => rfl
    | cons s ss ih =>
      rw [List.foldl_cons, ← ih]
      cases hs : cl.given s with
      | none =>
        have hlayer : cl.toLayer s = none := by rw [toLayer, hs]; rfl
        rw [List.filterMap_cons_none (by rw [hs]; rfl), hlayer, Option.elim_none]
      | some v =>
        have hlayer : cl.toLayer s = content? s v := by rw [toLayer, hs]; rfl
        have hpair := c.override?_loosen s v fun p hp => by
          cases hp
          exact hport _ hs
        rw [List.filterMap_cons_some (by rw [hs]; rfl), hlayer, Config.overrideAll?,
          List.foldlM_cons, hpair]
        rfl
  have happly : cl.toLayer.applyTo c =
      Setting.all.foldl (fun c s => (cl.toLayer s).elim c (c.put s)) c := by
    unfold Layer.applyTo
    congr 1
    funext c s
    cases cl.toLayer s <;> rfl
  rw [happly]
  exact hlay Setting.all c

/-- An empty name names no configuration file. -/
theorem configFile_ne_empty {values : Flag.Values} (h : ofFlags.request values = .run cl) :
    cl.configFile ≠ some "" := by
  have hfile : cl.configFile = (values .config).bind Config.nonempty? := by
    unfold ofFlags.request at h
    split at h
    · cases h
    · split at h
      · cases h
      · cases h
        rfl
  rw [hfile]
  intro hempty
  obtain ⟨name, -, hname⟩ := Option.bind_eq_some_iff.mp hempty
  unfold Config.nonempty? at hname
  split at hname
  · cases hname
  · next hne => exact hne (Option.some.inj hname)

/-- A value gives its setting something, unless it is a port of zero. -/
theorem exists_content? (hport : cl.PortFits) {s : Setting} {v : (Flag.setting s).Value}
    (hv : cl.given s = some v) (hne : (s, (Flag.setting s).kind.loosen v) ≠ (.port, .number 0)) :
    ∃ x, content? s v = some x := by
  cases s with
  | port =>
    have hz : v ≠ 0 := by
      rintro rfl
      exact hne rfl
    exact ⟨_, if_pos ⟨hport v hv, hz⟩⟩
  | natsUrl | natsCreds | requestTimeout | debug | trace | addr | wsPath | apiPath | headerAuth
  | allowOrigin | apiEncoding | tls | tlsCert | tlsKey => exact ⟨_, rfl⟩

/-- A setting is overridden exactly if a value is given for it. -/
theorem exists_mem_overrides_iff {s : Setting} :
    (∃ v, (.setting s, v) ∈ cl.overrides) ↔ (cl.given s).isSome = true := by
  rw [Option.isSome_iff_exists]
  constructor
  · rintro ⟨w, hw⟩
    obtain ⟨t, v, hv, hpair⟩ := mem_overrides_iff.mp hw
    obtain ⟨rfl, -⟩ := (Prod.mk.injEq ..).mp hpair |>.imp_left Flag.setting.inj
    exact ⟨v, hv⟩
  · rintro ⟨v, hv⟩
    exact ⟨_, mem_overrides_iff.mpr ⟨s, v, hv, rfl⟩⟩

/-- The settings that have values are those whose flags are given texts. -/
theorem isSome_given_iff {phrases : List Phrase} {arguments : List Bytes}
    (hwrites : Writes phrases arguments)
    (h : ofFlags.request (Flag.Values.empty.giveAll (phrases.flatMap Phrase.given)) = .run cl)
    (s : Setting) :
    (cl.given s).isSome = true ↔
      ∃ text, (.setting s, text) ∈ phrases.flatMap Phrase.given := by
  have hread : ∀ g ∈ phrases.flatMap Phrase.given, (g.1.kind.read? g.2).isSome = true := by
    intro g hg
    obtain ⟨p, hp, hg⟩ := List.mem_flatMap.mp hg
    exact Phrase.isSome_read?_of_mem_given (hwrites.1 p hp) g hg
  rw [given_of_request h s, Flag.Values.isSome_giveAll_iff hread]
  exact or_iff_left Bool.false_ne_true

/-- Values that are kept fit their flags. -/
theorem fits_of_mem_overrides (hport : cl.PortFits)
    (hfilled : ∀ s v, cl.given s = some v → (Flag.setting s).kind.loosen v ≠ .list [])
    {o : Flag × LooseValue} (ho : o ∈ cl.overrides) :
    (∃ s, o.1 = .setting s) ∧ o.2.kind = o.1.kind ∧ o.2 ≠ .list [] ∧
      ∀ p, o = (.setting .port, .number p) → p.toNat < 65536 := by
  obtain ⟨s, v, hv, rfl⟩ := mem_overrides_iff.mp ho
  refine ⟨⟨s, rfl⟩, Kind.kind_loosen _ v, hfilled s v hv, fun p hp => ?_⟩
  obtain ⟨hs, hp⟩ := (Prod.mk.injEq ..).mp hp
  obtain rfl := Flag.setting.inj hs
  obtain rfl := LooseValue.number.inj hp
  exact hport v hv

/-- **No flag is given in vain.** A command line that asks for a run keeps what was read but for the
usage text, the version and the file, so a setting has a value if and only if a phrase gives a text
to its flag. Each value is of the kind of its flag; no list is empty, no port is larger than 65535,
and the name of the file is not empty. On every configuration each of the pairs is accepted, and all
of them lay the layer of the command line over it, which does no more when it is done again. A
setting with a value, if that is not a port of zero, then holds what the value gives, whatever it
held before, and every other setting holds what it held before. -/
theorem overrides_of_parse {arguments : List Bytes} (h : parse arguments = .ok (.run cl)) :
    (∃ phrases values, Writes phrases arguments ∧ readFlags arguments = .ok values ∧
      cl.overrides = (values.pairs.filter fun o => decide (o.1 ∉ Flag.aside)) ∧
      ∀ s, (∃ v, (.setting s, v) ∈ cl.overrides) ↔
        ∃ text, (.setting s, text) ∈ phrases.flatMap Phrase.given) ∧
    (∀ o ∈ cl.overrides, (∃ s, o.1 = .setting s) ∧ o.2.kind = o.1.kind ∧ o.2 ≠ .list [] ∧
      ∀ p, o = (.setting .port, .number p) → p.toNat < 65536) ∧
    cl.configFile ≠ some "" ∧
    (∀ c : Config, c.overrideAll? cl.overrides = some (cl.toLayer.applyTo c) ∧
      cl.toLayer.applyTo (cl.toLayer.applyTo c) = cl.toLayer.applyTo c) ∧
    ∀ s : Setting,
      (∀ v, cl.given s = some v → (s, (Flag.setting s).kind.loosen v) ≠ (.port, .number 0) →
        ∃ x, content? s v = some x ∧ ∀ c, (cl.toLayer.applyTo c).toLayer s = s.held x) ∧
      ((∀ v, cl.given s = some v → (s, (Flag.setting s).kind.loosen v) = (.port, .number 0)) →
        ∀ c, (cl.toLayer.applyTo c).toLayer s = c.toLayer s) := by
  have hport := portFits_of_parse h
  obtain ⟨values, hvalues, hrequest⟩ := exists_readFlags_of_parse h
  obtain ⟨phrases, hwrites, rfl⟩ := readFlags_eq_ok_iff.mp hvalues
  have hnone : Flag.Values.empty.IsFilled := nofun
  have hfilled (s : Setting) (v : (Flag.setting s).Value) (hv : cl.given s = some v) :
      (Flag.setting s).kind.loosen v ≠ .list [] :=
    hnone.giveAll _ (.setting s) v ((given_of_request hrequest.symm s).symm.trans hv)
  refine ⟨⟨phrases, _, hwrites, hvalues, overrides_of_request hrequest.symm, fun s => ?_⟩,
    fun o ho => fits_of_mem_overrides hport hfilled ho, configFile_ne_empty hrequest.symm,
    fun c => ⟨overrideAll?_overrides hport c, Layer.applyTo_applyTo_self _ c⟩,
    fun s => ⟨fun v hv hne => ?_, fun hzero c => ?_⟩⟩
  · rw [exists_mem_overrides_iff, isSome_given_iff hwrites hrequest.symm]
  · obtain ⟨x, hx⟩ := exists_content? hport hv hne
    refine ⟨x, hx, fun c => ?_⟩
    rw [Layer.toLayer_applyTo, toLayer, hv, Option.bind_some, hx]
    rfl
  · have hlayer : cl.toLayer s = none := by
      refine Option.bind_eq_none_iff.mpr fun v hv => ?_
      obtain ⟨rfl, hz⟩ := (Prod.mk.injEq ..).mp (hzero v hv)
      obtain rfl := LooseValue.number.inj hz
      rfl
    rw [Layer.toLayer_applyTo, hlayer]
    rfl

/-- A port of zero, a list with an empty text, a switch that is turned off, a file that is named by
nothing, and a call for help that is taken back. -/
theorem overrides_of_parse_zero :
    let arguments := ["-p", "0", "--alloworigin", "http://a", "--alloworigin=", "-c", "",
      "--debug=false", "--help=false"].map Utf8.ofString
    ∃ cl, parse arguments = .ok (.run cl) ∧ cl.configFile = none ∧
      cl.overrides = [(.setting .port, .number 0), (.setting .allowOrigin, .list ["http://a", ""]),
        (.setting .debug, .switch false)] ∧
      ∀ c : Config, (cl.toLayer.applyTo c).port = c.port ∧
        (cl.toLayer.applyTo c).allowOrigin = some "http://a;" ∧
        (cl.toLayer.applyTo c).debug = false := by
  intro arguments
  obtain ⟨cl, hcl, hp⟩ := exists_run arguments
    (fun cl => decide (cl.configFile = none ∧ cl.given .port = some 0 ∧
      cl.given .allowOrigin = some ["http://a", ""] ∧ cl.given .debug = some false ∧
      cl.overrides = [(.setting .port, .number 0),
        (.setting .allowOrigin, .list ["http://a", ""]), (.setting .debug, .switch false)]))
    (by decide +kernel)
  obtain ⟨hfile, hport, horigins, hdebug, hoverrides⟩ := of_decide_eq_true hp
  obtain ⟨-, -, -, -, hsettings⟩ := overrides_of_parse hcl
  refine ⟨cl, hcl, hfile, hoverrides, fun c => ⟨?_, ?_, ?_⟩⟩
  · have hzero := (hsettings .port).2 fun v hv => by
      obtain rfl := Option.some.inj (hport.symm.trans hv)
      rfl
    exact Option.some.inj (hzero c)
  · obtain ⟨x, hx, hheld⟩ := (hsettings .allowOrigin).1 _ horigins nofun
    obtain rfl := Option.some.inj hx
    exact (hheld c).trans (by decide)
  · obtain ⟨x, hx, hheld⟩ := (hsettings .debug).1 _ hdebug nofun
    obtain rfl := Option.some.inj hx
    exact Option.some.inj (hheld c)

end CommandLine

end Gateway
