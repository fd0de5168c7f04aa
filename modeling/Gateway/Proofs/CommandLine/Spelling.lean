import Gateway.Config.Store
import Gateway.Proofs.CommandLine.Occurrences

/-!
# How occurrences of flags are spelled

`Spells` says which arguments spell which occurrences: a long name with its value attached or in the
next argument, a short name with the value joined to it as well, a bare switch, and several short
switches in one argument, in front of one more short name. All occurrences have a spelling
(`exists_spells`).

A spelling is a series of phrases that give the texts of the occurrences to their flags
(`Spells.exists_phrases`), and phrases are read as what they give. So all spellings of the same
occurrences are read alike: `parse_of_spells`.
-/

namespace Gateway.CommandLine

/-! ### Spellings -/

/-- The characters behind a hyphen, and the arguments after them, spell occurrences by short
names. -/
inductive SpellsShort : List Occurrence → List Char → List String → Prop
  /-- As in `-D`. -/
  | bare {o : Occurrence} {c : Char} (hc : o.flag.entry.short = some c)
    (hkind : o.flag.kind = .switch) (htext : o.text = "true") : SpellsShort [o] [c] []
  /-- As in `-p 9000`. -/
  | detached {o : Occurrence} {c : Char} (hc : o.flag.entry.short = some c)
    (hkind : o.flag.kind ≠ .switch) (htext : StandsAlone o.text) : SpellsShort [o] [c] [o.text]
  /-- As in `-p=9000`. -/
  | attached {o : Occurrence} {c : Char} (hc : o.flag.entry.short = some c) :
    SpellsShort [o] (c :: '=' :: o.text.toList) []
  /-- As in `-p9000`. -/
  | joined {o : Occurrence} {c : Char} (hc : o.flag.entry.short = some c)
    (hkind : o.flag.kind ≠ .switch) (hne : o.text ≠ "")
    (htext : o.text.toList.head? ≠ some '=') : SpellsShort [o] (c :: o.text.toList) []
  /-- As in `-DVp9000`, where more follows a switch. -/
  | cluster {o : Occurrence} {c : Char} {os : List Occurrence} {cs : List Char}
    {arguments : List String} (hc : o.flag.entry.short = some c)
    (hkind : o.flag.kind = .switch) (htext : o.text = "true")
    (h : SpellsShort os cs arguments) : SpellsShort (o :: os) (c :: cs) arguments

/-- Arguments spell occurrences. -/
inductive Spells : List Occurrence → List String → Prop
  /-- No argument spells no occurrence. -/
  | nil : Spells [] []
  /-- As in `--debug`. -/
  | bare {o : Occurrence} {os : List Occurrence} {arguments : List String}
    (hkind : o.flag.kind = .switch) (htext : o.text = "true") (h : Spells os arguments) :
    Spells (o :: os) (("--" ++ o.flag.entry.long) :: arguments)
  /-- As in `--port 9000`. -/
  | detached {o : Occurrence} {os : List Occurrence} {arguments : List String}
    (hkind : o.flag.kind ≠ .switch) (htext : StandsAlone o.text) (h : Spells os arguments) :
    Spells (o :: os) (("--" ++ o.flag.entry.long) :: o.text :: arguments)
  /-- As in `--port=9000`. -/
  | attached {o : Occurrence} {os : List Occurrence} {arguments : List String}
    (h : Spells os arguments) :
    Spells (o :: os) (("--" ++ o.flag.entry.long ++ "=" ++ o.text) :: arguments)
  /-- One argument with short names, and their last value if it stands alone. -/
  | short {os os' : List Occurrence} {cs : List Char} {arguments arguments' : List String}
    (hshort : SpellsShort os cs arguments) (h : Spells os' arguments') :
    Spells (os ++ os') (String.ofList ('-' :: cs) :: (arguments ++ arguments'))

/-- All occurrences can be spelled. -/
theorem exists_spells (os : List Occurrence) : ∃ arguments, Spells os arguments := by
  induction os with
  | nil => exact ⟨[], .nil⟩
  | cons o os ih =>
    obtain ⟨arguments, h⟩ := ih
    exact ⟨_, .attached h⟩

/-! ### Spellings as phrases -/

section Phrases

variable {o : Occurrence} {m : Manner}

/-- A short name, and a text in some manner. -/
theorem exists_short_phrase {c : Char} (hc : o.flag.entry.short = some c) (hm : m.Suits o.flag)
    (htext : m.text = o.text) :
    ∃ switches f m', (Phrase.mk (.short switches f) m').IsWellFormed ∧
      (Phrase.mk (.short switches f) m').given = [o.given] ∧
      c :: m.suffix = ((switches ++ [f]).flatMap fun g => g.entry.short.toList) ++ m'.suffix ∧
      m.behind = m'.behind := by
  have hknown : (Naming.short [] o.flag).IsKnown := ⟨nofun, fun _ => Option.isSome_of_eq_some hc⟩
  have hgiven : (Phrase.mk (.short [] o.flag) m).given = [o.given] := by
    rw [Occurrence.given, ← htext]
    rfl
  exact ⟨[], o.flag, m, ⟨hknown, hm, fun _ => rfl⟩, hgiven, by simp [hc], rfl⟩

/-- Short names, and their last value if it stands alone, are a phrase. -/
theorem SpellsShort.exists_phrase {os : List Occurrence} {cs : List Char} {arguments : List String}
    (h : SpellsShort os cs arguments) :
    ∃ switches f m, (Phrase.mk (.short switches f) m).IsWellFormed ∧
      (Phrase.mk (.short switches f) m).given = os.map Occurrence.given ∧
      cs = ((switches ++ [f]).flatMap fun g => g.entry.short.toList) ++ m.suffix ∧
      arguments = m.behind := by
  induction h with
  | bare hc hkind htext =>
    exact exists_short_phrase hc (m := .bare) ⟨isSome_read?_switch hkind, hkind⟩ htext.symm
  | @detached o c hc hkind htext =>
    exact exists_short_phrase hc (m := .detached o.text) ⟨o.isSome_read?, hkind, htext⟩ rfl
  | @attached o c hc =>
    exact exists_short_phrase hc (m := .attached o.text) ⟨o.isSome_read?, trivial⟩ rfl
  | @joined o c hc hkind hne htext =>
    exact exists_short_phrase hc (m := .joined o.text) ⟨o.isSome_read?, hkind, hne, htext⟩ rfl
  | @cluster o c os cs arguments hc hkind htext hrest ih =>
    -- a switch in front of short names is one more of the switches in front
    obtain ⟨switches, f, m, ⟨⟨hswitches, hf⟩, hm⟩, hgiven, rfl, rfl⟩ := ih
    have hknown : (Naming.short (o.flag :: switches) f).IsKnown :=
      ⟨List.forall_mem_cons.mpr ⟨⟨hkind, Option.isSome_of_eq_some hc⟩, hswitches⟩, hf⟩
    refine ⟨o.flag :: switches, f, m, ⟨hknown, hm⟩, ?_, by simp [hc], rfl⟩
    rw [List.map_cons, ← hgiven, Occurrence.given, htext]
    rfl

/-- A long name, and a text in some manner, in front of phrases. -/
theorem exists_long_phrases (hm : m.Suits o.flag) (htext : m.text = o.text)
    (hjoined : m.isJoined = false) {os : List Occurrence} {arguments : List Bytes}
    (h : ∃ phrases, Writes phrases arguments ∧
      phrases.flatMap Phrase.given = os.map Occurrence.given) :
    ∃ phrases,
      Writes phrases ((Phrase.mk (.long o.flag) m).arguments.map Utf8.ofString ++ arguments) ∧
        phrases.flatMap Phrase.given = (o :: os).map Occurrence.given := by
  obtain ⟨phrases, hwrites, hgiven⟩ := h
  have hp : (Phrase.mk (.long o.flag) m).IsWellFormed :=
    ⟨⟨nofun, nofun⟩, hm, fun h => absurd h (Bool.eq_false_iff.mp hjoined)⟩
  refine ⟨_, hwrites.cons hp, ?_⟩
  rw [List.flatMap_cons, hgiven, List.map_cons, Occurrence.given, ← htext]
  rfl

end Phrases

/-- **Spelled occurrences are phrases.** -/
theorem Spells.exists_phrases {os : List Occurrence} {arguments : List String}
    (h : Spells os arguments) :
    ∃ phrases, Writes phrases (arguments.map Utf8.ofString) ∧
      phrases.flatMap Phrase.given = os.map Occurrence.given := by
  have hname (f : Flag) : String.ofList ('-' :: '-' :: f.entry.long.toList) =
      "--" ++ f.entry.long := by
    apply String.toList_injective
    simp
  induction h with
  | nil => exact ⟨[], writes_nil, rfl⟩
  | @bare o os arguments hkind htext hrest ih =>
    have h := exists_long_phrases (m := .bare) ⟨isSome_read?_switch hkind, hkind⟩ htext.symm rfl ih
    simpa [Phrase.arguments, Naming.text, Manner.suffix, Manner.behind, hname] using h
  | @detached o os arguments hkind htext hrest ih =>
    have h := exists_long_phrases (m := .detached o.text) ⟨o.isSome_read?, hkind, htext⟩ rfl rfl ih
    simpa [Phrase.arguments, Naming.text, Manner.suffix, Manner.behind, hname] using h
  | @attached o os arguments hrest ih =>
    have h := exists_long_phrases (m := .attached o.text) ⟨o.isSome_read?, trivial⟩ rfl rfl ih
    have hargument :
        String.ofList ('-' :: '-' :: o.flag.entry.long.toList ++ '=' :: o.text.toList) =
          "--" ++ o.flag.entry.long ++ "=" ++ o.text := by
      apply String.toList_injective
      simp
    simpa only [Phrase.arguments, Naming.text, Manner.suffix, Manner.behind, hargument,
      List.map_cons, List.map_nil, List.singleton_append] using h
  | @short os os' cs arguments arguments' hshort hrest ih =>
    obtain ⟨switches, f, m, hp, hgiven, rfl, rfl⟩ := hshort.exists_phrase
    obtain ⟨phrases, hwrites, hgiven'⟩ := ih
    refine ⟨⟨.short switches f, m⟩ :: phrases, ?_, ?_⟩
    · rw [← List.cons_append, List.map_append]
      exact hwrites.cons hp
    · rw [List.flatMap_cons, hgiven, hgiven', List.map_append]

/-- Arguments that spell occurrences are read as what these amount to. -/
theorem readFlags_of_spells {os : List Occurrence} {arguments : List String}
    (h : Spells os arguments) :
    readFlags (arguments.map Utf8.ofString) = .ok (Occurrence.values os) := by
  obtain ⟨phrases, hwrites, hgiven⟩ := h.exists_phrases
  refine readFlags_eq_ok_iff.mpr ⟨phrases, hwrites, ?_⟩
  rw [hgiven, Occurrence.giveAll_empty]

/-! ### What is asked for -/

/-- A switch is on if its last occurrence is. -/
private theorem collect_switch_eq_some_true {texts : List String} :
    Kind.collect .switch texts = some true ↔ texts.getLast? = some "true" := by
  change texts.getLast?.map (fun s => decide (s = "true")) = some true ↔ _
  cases texts.getLast? <;> simp

/-- The number that is given last. -/
private theorem map_toNat_collect_number {texts : List String}
    (h : ∀ s ∈ texts, Kind.Takes .number s) :
    (Kind.collect .number texts).map UInt64.toNat =
      texts.getLast?.map fun s => Decimal.value s.toList := by
  rw [Kind.collect]
  cases hlast : texts.getLast? with
  | none => rfl
  | some s =>
    exact congrArg some (UInt64.toNat_ofNat_of_lt' (h s (List.mem_of_getLast? hlast)).2.2)

private theorem bind_nonempty? (last : Option String) :
    last.bind Config.nonempty? = last.filter fun s => decide (s ≠ "") := by
  cases last with
  | none => rfl
  | some s => by_cases hs : s = "" <;> simp [Config.nonempty?, Option.filter, hs]

/-- **Command lines are understood**, however their flags are spelled and ordered. If the last port
is too large, that is refused, and the usage text goes with the message. Otherwise the usage text is
asked for if the last value for it is on, else the version if the last value for that is on, and
else a run: its file is the last one that is named, unless that is empty, and each setting has the
last value that is given for it, or all of them in order if it may be repeated. Only the texts that
are given to each flag count, so other arguments that give the same ones are read alike. -/
theorem parse_of_spells {os : List Occurrence} {arguments : List String}
    (h : Spells os arguments) :
    let parsed := parse (arguments.map Utf8.ofString)
    let last (f : Flag) := (Occurrence.texts os f).getLast?
    let port := (last (.setting .port)).map fun s => Decimal.value s.toList
    (∀ p, port = some p → 65536 ≤ p → ∃ fault, parsed = .error fault ∧
      (ConfigFault.commandLine fault).message =
        "Invalid port \"" ++ Decimal.toString p ++ "\": must be less than 65536" ∧
      (ConfigFault.commandLine fault).showsUsage = true) ∧
    ((∀ p, port = some p → p < 65536) →
      (last .help = some "true" → parsed = .ok .help) ∧
      (last .help ≠ some "true" → last .version = some "true" → parsed = .ok .version) ∧
      (last .help ≠ some "true" → last .version ≠ some "true" →
        ∃ cl, parsed = .ok (.run cl) ∧ cl.configFile = (last .config).filter (· ≠ "") ∧
          ∀ s, cl.given s =
            (Flag.setting s).kind.collect (Occurrence.texts os (.setting s)))) ∧
    (∀ os' arguments', Spells os' arguments' →
      (∀ f, Occurrence.texts os' f = Occurrence.texts os f) →
      parse (arguments'.map Utf8.ofString) = parsed) := by
  intro parsed last port
  have hparse {os : List Occurrence} {arguments : List String} (h : Spells os arguments) :
      parse (arguments.map Utf8.ofString) = ofFlags (Occurrence.values os) := by
    unfold parse
    rw [readFlags_of_spells h]
  have hparsed : parsed = ofFlags (Occurrence.values os) := hparse h
  have hport : (Occurrence.values os (.setting .port)).map UInt64.toNat = port :=
    map_toNat_collect_number fun _ => Occurrence.takes_of_mem_texts
  refine ⟨fun p hp hlarge => ?_, fun hfits => ?_, fun os' arguments' h' htexts => ?_⟩
  · obtain ⟨q, hq, rfl⟩ := Option.map_eq_some_iff.mp (hport.trans hp)
    exact ⟨.portTooLarge q, hparsed.trans (ofFlags_of_size_le hq hlarge), rfl, rfl⟩
  · have hrequest : parsed = .ok (ofFlags.request (Occurrence.values os)) := by
      refine hparsed.trans (ofFlags_of_lt_size fun q hq => hfits q.toNat ?_)
      rw [← hport, hq, Option.map_some]
    have hhelp : Occurrence.values os .help = some true ↔ last .help = some "true" :=
      collect_switch_eq_some_true
    have hversion : Occurrence.values os .version = some true ↔ last .version = some "true" :=
      collect_switch_eq_some_true
    rw [hrequest]
    unfold ofFlags.request
    refine ⟨fun hon => ?_, fun hoff hon => ?_, fun hoff hoff' => ?_⟩
    · rw [if_pos (hhelp.mpr hon)]
    · rw [if_neg fun hval => hoff (hhelp.mp hval), if_pos (hversion.mpr hon)]
    · rw [if_neg fun hval => hoff (hhelp.mp hval), if_neg fun hval => hoff' (hversion.mp hval)]
      exact ⟨_, rfl, bind_nonempty? (last .config), fun s => rfl⟩
  · have hvalues : Occurrence.values os' = Occurrence.values os :=
      funext fun f => congrArg f.kind.collect (htexts f)
    rw [hparse h', hvalues, hparsed]

/-- Two switches and a port in one argument, a switch that is turned off again, a file that is named
by `-`, and two origins with another flag in between. -/
theorem parse_of_spells_cluster :
    ∃ cl, parse (["-DVp9000", "--help", "--alloworigin", "http://a", "-c", "-", "--help=false",
        "--alloworigin=http://b"].map Utf8.ofString) = .ok (.run cl) ∧
      cl.configFile = some "-" ∧ cl.given .port = some 9000 ∧ cl.given .debug = some true ∧
      cl.given .trace = some true ∧ cl.given .allowOrigin = some ["http://a", "http://b"] := by
  let os : List Occurrence :=
    [⟨.setting .debug, "true", .inl rfl⟩, ⟨.setting .trace, "true", .inl rfl⟩,
      ⟨.setting .port, "9000", by decide, by decide, by decide⟩, ⟨.help, "true", .inl rfl⟩,
      ⟨.setting .allowOrigin, "http://a", trivial⟩, ⟨.config, "-", trivial⟩,
      ⟨.help, "false", .inr rfl⟩, ⟨.setting .allowOrigin, "http://b", trivial⟩]
  have hspells : Spells os ["-DVp9000", "--help", "--alloworigin", "http://a", "-c", "-",
      "--help=false", "--alloworigin=http://b"] := by
    have hcluster : SpellsShort (os.take 3) "DVp9000".toList [] :=
      .cluster rfl rfl rfl (.cluster rfl rfl rfl (.joined rfl (by decide) (by decide) (by decide)))
    have hfile : SpellsShort [⟨.config, "-", trivial⟩] ['c'] ["-"] :=
      .detached rfl (by decide) (.inl rfl)
    exact .short hcluster <| .bare rfl rfl <| .detached (by decide) (.inr (by decide)) <|
      .short hfile <| .attached <| .attached .nil
  obtain ⟨-, hfits, -⟩ := parse_of_spells hspells
  have hport : ∀ p, some 9000 = some p → p < 65536 := by
    intro p hp
    cases hp
    decide
  obtain ⟨cl, hcl, hname, hgiven⟩ := (hfits hport).2.2 (by decide) (by decide)
  exact ⟨cl, hcl, hname, hgiven .port, hgiven .debug, hgiven .trace, hgiven .allowOrigin⟩

end Gateway.CommandLine
