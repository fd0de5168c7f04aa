import Mathlib
import Gateway.Proofs.CommandLine.Spelling
import Gateway.Proofs.Config.Json
import Gateway.Proofs.Config.Precedence
import Gateway.Proofs.Config.Toml
import Gateway.Proofs.FileTree.Creation

/-!
# Restarts

The first run that names a file creates it from what was resolved; later runs read it. In either
format the file gives exactly what was resolved (`Format.decode_encode?`), and a path leads to what
was created under it, so the later run finds `Config.toLayer` of the first result between its base
and its command line (`FileTree.load_of_created`).

What the command line gives comes out as before, and what it leaves open is in the file with its
default and in milliseconds, where neither applies again (`composed_composed`). Only the two
settings that have no default and may be absent can differ, as a file has no way to give an absent
one: `CommandLine.Admits` says on which bases they do not. `resolve_restart` puts this together.
-/

namespace Gateway

/-! ### Files that were created -/

/-- **Formats are read back.** What is written of a configuration gives what it holds. -/
theorem Format.decode_encode? {format : Format} {c : Config} {text : String}
    (h : format.encode? c = some text) : format.decode text = .ok c.toLayer := by
  cases format with
  | json =>
    obtain rfl := Option.some.inj h
    simp only [decode, Layer.ofJson_toJson]
    rfl
  | toml =>
    simp only [decode, Layer.ofToml_toToml? h]
    rfl

namespace FileTree

/-- A path that nothing can be loaded from names no file. -/
private theorem not_isRegular_of_load {path : Bytes} {t : FileTree}
    (h : (t.load path).result = .ok none) : ¬ t.isRegular path = true := by
  intro hregular
  unfold isRegular regular? at hregular
  unfold load readText read at h
  split at hregular
  · next hw =>
    simp only [hw] at h
    split at h
    · next hread => split at hread <;> cases hread
    · cases h
    · split at h <;> cases h
  · cases hregular

/-- A file is created where a place is free, from what its format can write. -/
theorem persistIfAbsent_of_freePlace {path : Bytes} {c : Config} {t : FileTree} {text : String}
    (htext : (Format.ofPath path).encode? c = some text) {p : Place}
    (hfree : t.freePlace path = .ok p) :
    ∃ t', t.persistIfAbsent path c = ⟨.ok (), [.fileCreated path], t'⟩ ∧
      t'.isRegular path = true := by
  have hcreate : t.create path (Utf8.ofString text) =
      .ok (t.insert p (.file (Utf8.ofString text))) := by
    rw [create, hfree]
  refine ⟨_, ?_, isRegular_of_create hcreate⟩
  simp only [persistIfAbsent, htext, hcreate]

/-- **Created files are loaded** with all that the configuration holds. -/
theorem load_of_created {path : Bytes} {c : Config} {t : FileTree}
    (hload : (t.load path).result = .ok none)
    (hcreated : (t.persistIfAbsent path c).world.isRegular path = true) :
    (t.persistIfAbsent path c).result = .ok () ∧
      (t.persistIfAbsent path c).world.load path =
        ⟨.ok (some c.toLayer), [.fileLoaded path], (t.persistIfAbsent path c).world⟩ := by
  have hnone := not_isRegular_of_load hload
  unfold persistIfAbsent at hcreated ⊢
  split
  · -- the format cannot write the configuration, so there is no file
    next henc =>
    rw [henc] at hcreated
    exact absurd hcreated hnone
  next text henc =>
  simp only [henc] at hcreated
  split
  · next t' hcreate =>
    refine ⟨rfl, ?_⟩
    simp only [load, readText_of_create hcreate, Format.decode_encode? henc]
  · next hcreate =>
    rw [hcreate] at hcreated
    exact absurd hcreated hnone

end FileTree

/-! ### Sources that are laid over their own result -/

/-- No optional setting holds an empty text. -/
def Config.HasNoEmptyText (c : Config) : Prop :=
  c.natsCreds ≠ some "" ∧ c.addr ≠ some "" ∧ c.headerAuth ≠ some "" ∧ c.allowOrigin ≠ some ""

namespace Config

theorem hasNoEmptyText_standard : standard.HasNoEmptyText := by
  unfold HasNoEmptyText
  decide

/-! ### Fields -/

/-- Filling a field twice is filling it once. -/
theorem filled_filled {α : Type} [DecidableEq α] {unset default : α} (h : default ≠ unset)
    (value : α) :
    filled unset default (filled unset default value) = filled unset default value := by
  unfold filled
  by_cases hv : value = unset
  · rw [if_pos hv, if_neg h]
  · rw [if_neg hv, if_neg hv]

/-- A field with a default. -/
private theorem filled_again {α : Type} [DecidableEq α] {unset default : α}
    (h : default ≠ unset) (given : Option α) (base base' : α) :
    filled unset default
        (firstGiven given (some (filled unset default (firstGiven given none base))) base') =
      filled unset default (firstGiven given none base) := by
  cases given with
  | none => exact filled_filled h base
  | some v => rfl

/-- A field without a default. -/
private theorem firstGiven_again {α : Type} (given : Option α) (base base' : α) :
    firstGiven given (some (firstGiven given none base)) base' = firstGiven given none base := by
  cases given <;> rfl

/-- A text that is not empty is kept. -/
theorem map_nonempty? {value : Option String} (h : value ≠ some "") :
    value.map nonempty? = value.map some := by
  cases value with
  | none => rfl
  | some v => exact congrArg some (if_neg fun hv => h (congrArg some hv))

theorem nonempty?_ne (v : String) : nonempty? v ≠ some "" := by
  unfold nonempty?
  split
  · nofun
  · next hv => exact fun h => hv (Option.some.inj h)

/-- What a field holds is no empty text if its base is none. -/
theorem firstGiven_ne {given file : Option String} {base : Option String} (h : base ≠ some "") :
    firstGiven (given.map nonempty?) (file.map nonempty?) base ≠ some "" := by
  cases given with
  | none =>
    cases file with
    | none => exact h
    | some v => exact nonempty?_ne v
  | some v => exact nonempty?_ne v

/-- A default that is no empty text brings none in. -/
theorem filled_ne {default : String} (h : default ≠ "") {value : Option String}
    (hvalue : value ≠ some "") : filled none (some default) value ≠ some "" := by
  unfold filled
  split
  · exact fun hd => h (Option.some.inj hd)
  · exact hvalue

/-! ### Timeouts -/

/-- A timeout in milliseconds is none in seconds. -/
theorem lt_milliseconds {t : UInt64} (h : t ≠ 0) : 10 < milliseconds t := by
  have hpos : t.toNat ≠ 0 := fun h0 => h (UInt64.toNat_inj.mp h0)
  unfold milliseconds
  split
  · next hsec =>
    have hle : t.toNat ≤ 10 := UInt64.le_iff_toNat_le.mp hsec.2
    rw [UInt64.lt_iff_toNat_lt, UInt64.toNat_mul]
    change 10 < t.toNat * 1000 % 2 ^ 64
    rw [Nat.mod_eq_of_lt (by omega)]
    omega
  · next hsec =>
    rw [UInt64.le_iff_toNat_le, UInt64.le_iff_toNat_le] at hsec
    change ¬ (1 ≤ t.toNat ∧ t.toNat ≤ 10) at hsec
    rw [UInt64.lt_iff_toNat_lt]
    change 10 < t.toNat
    omega

/-- Long timeouts are in milliseconds already. -/
theorem milliseconds_of_lt {t : UInt64} (h : 10 < t) : milliseconds t = t :=
  if_neg fun hsec => UInt64.not_le.mpr h hsec.2

theorem filled_of_lt {t : UInt64} (h : 10 < t) : filled 0 3000 t = t := by
  refine if_neg ?_
  rintro rfl
  exact absurd h (by decide)

/-- A timeout with its default, in milliseconds. -/
theorem lt_milliseconds_filled (t : UInt64) : 10 < milliseconds (filled 0 3000 t) := by
  refine lt_milliseconds ?_
  unfold filled
  split
  · decide
  · assumption

/-- A timeout that was settled. -/
private theorem timeout_again (given : Option UInt64) (base base' : UInt64) :
    milliseconds (filled 0 3000 (firstGiven given
        (some (milliseconds (filled 0 3000 (firstGiven given none base)))) base')) =
      milliseconds (filled 0 3000 (firstGiven given none base)) := by
  cases given with
  | none =>
    -- the file holds more than ten, so neither the default nor the factor applies again
    have hlt := lt_milliseconds_filled base
    change milliseconds (filled 0 3000 (milliseconds (filled 0 3000 base))) =
      milliseconds (filled 0 3000 base)
    rw [filled_of_lt hlt, milliseconds_of_lt hlt]
  | some t => rfl

/-- An optional field with a default. -/
private theorem filled_again_optional {default : String} (h : default ≠ "")
    (given : Option (Option String)) {base : Option String} (hbase : base ≠ some "")
    (base' : Option String) :
    filled none (some default) (firstGiven given
        ((filled none (some default) (firstGiven given none base)).map nonempty?) base') =
      filled none (some default) (firstGiven given none base) := by
  cases given with
  | none =>
    have hne : filled none (some default) base ≠ some "" := filled_ne h hbase
    have hsome : (filled none (some default) base).isSome = true := by
      unfold filled
      split
      · rfl
      · next hb => exact Option.isSome_iff_ne_none.mpr hb
    obtain ⟨v, hv⟩ := Option.isSome_iff_exists.mp hsome
    change filled none (some default)
      (firstGiven none ((filled none (some default) base).map nonempty?) base') =
        filled none (some default) base
    rw [map_nonempty? hne, hv]
    rfl
  | some v => rfl

/-- An optional field without a default. It is absent in the file if it was absent, and then the
second base is asked. -/
private theorem firstGiven_again_optional (given : Option (Option String)) {base : Option String}
    (hbase : base ≠ some "") (base' : Option String) :
    firstGiven given ((firstGiven given none base).map nonempty?) base' =
        firstGiven given none base ↔
      (given = none → base = none → base' = none) := by
  cases given with
  | none =>
    change firstGiven none (base.map nonempty?) base' = base ↔ _
    rw [map_nonempty? hbase]
    cases base with
    | none => exact ⟨fun h _ _ => h, fun h => h rfl rfl⟩
    | some v => exact iff_of_true rfl nofun
  | some v => exact iff_of_true rfl nofun

end Config

namespace CommandLine

open Config

/-! ### Whole configurations -/

/-- Where neither the command line nor a first base gives the credentials or the method of
authentication, a second base gives none either. -/
def Admits (cl : CommandLine) (base base' : Config) : Prop :=
  (cl.given .natsCreds = none → base.natsCreds = none → base'.natsCreds = none) ∧
    (cl.given .headerAuth = none → base.headerAuth = none → base'.headerAuth = none)

theorem admits_self (cl : CommandLine) (base : Config) : cl.Admits base base :=
  ⟨fun _ h => h, fun _ h => h⟩

/-- **A result is laid over a base without a trace**, between the command line and a base that it
admits, and only there. -/
theorem composed_composed (cl : CommandLine) {base : Config} (hbase : base.HasNoEmptyText)
    (base' : Config) :
    cl.composed (cl.composed .empty base).toLayer base' = cl.composed .empty base ↔
      cl.Admits base base' := by
  obtain ⟨hcreds, haddr, hauth, horigin⟩ := hbase
  have natsCreds := firstGiven_again_optional ((cl.given .natsCreds).map nonempty?) hcreds
    base'.natsCreds
  have headerAuth := firstGiven_again_optional ((cl.given .headerAuth).map nonempty?) hauth
    base'.headerAuth
  rw [Option.map_eq_none_iff] at natsCreds headerAuth
  constructor
  · intro h
    exact ⟨natsCreds.mp (congrArg Config.natsCreds h), headerAuth.mp (congrArg Config.headerAuth h)⟩
  · intro h
    refine eq_of_toLayer fun s => ?_
    cases s with
    | natsUrl | port | wsPath | apiPath | apiEncoding =>
      exact congrArg some (filled_again (by decide) _ _ _)
    | debug | trace | tls | tlsCert | tlsKey => exact congrArg some (firstGiven_again _ _ _)
    | requestTimeout => exact congrArg some (timeout_again _ _ _)
    | addr => exact filled_again_optional (by decide) _ haddr _
    | allowOrigin => exact filled_again_optional (by decide) _ horigin _
    | natsCreds => exact natsCreds.mpr h.1
    | headerAuth => exact headerAuth.mpr h.2

/-! ### The command line that names a file -/

/-- The command line that names a file and nothing else. -/
def naming (name : String) : CommandLine := ⟨some name, fun _ => none⟩

/-- That command line is what one argument is read as. -/
theorem parse_naming {name : String} (h : name ≠ "") :
    parse [Utf8.ofString "--config=" ++ Utf8.ofString name] = .ok (.run (naming name)) := by
  let os : List Occurrence := [⟨.config, name, trivial⟩]
  have hfront : "--config=" = "--" ++ Flag.config.entry.long ++ "=" := by decide
  have hspells : Spells os ["--" ++ Flag.config.entry.long ++ "=" ++ name] := .attached .nil
  have hvalues : readFlags [Utf8.ofString "--config=" ++ Utf8.ofString name] =
      .ok (Occurrence.values os) := by
    rw [hfront, ← Utf8.ofString_append]
    exact readFlags_of_spells hspells
  have hsetting (s : Setting) : Occurrence.values os (.setting s) = none := by cases s <;> rfl
  have hhelp : Occurrence.values os .help = none := rfl
  have hversion : Occurrence.values os .version = none := rfl
  have hself : Occurrence.values os .config = some name := rfl
  unfold parse
  rw [hvalues]
  simp only [ofFlags, hsetting, ofFlags.request, hhelp, hversion, hself]
  simp [naming, Config.nonempty?, h]

theorem portFits_naming (name : String) : (naming name).PortFits := nofun

/-- A result with nothing on top and no file below is what it was. -/
theorem composed_naming (name : String) (cl : CommandLine) (file : Layer) (base : Config) :
    (naming name).composed .empty (cl.composed file base) = cl.composed file base := by
  refine eq_of_toLayer fun s => ?_
  cases s with
  | natsUrl | port | wsPath | apiPath | apiEncoding =>
    exact congrArg some (filled_filled (by decide) _)
  | addr | allowOrigin => exact filled_filled (by decide) _
  | requestTimeout =>
    have hlt := lt_milliseconds_filled (cl.layered file base).requestTimeout
    change some (milliseconds (filled 0 3000 (milliseconds (filled 0 3000 _)))) =
      some (milliseconds (filled 0 3000 _))
    rw [filled_of_lt hlt, milliseconds_of_lt hlt]
  | natsCreds | headerAuth | debug | trace | tls | tlsCert | tlsKey => rfl

/-- A result holds no empty text if its base holds none. -/
theorem hasNoEmptyText_composed (cl : CommandLine) {file : Layer} {base : Config}
    (h : base.HasNoEmptyText) : (cl.composed file base).HasNoEmptyText := by
  obtain ⟨hcreds, haddr, hauth, horigin⟩ := h
  refine ⟨firstGiven_ne hcreds, filled_ne (by decide) (firstGiven_ne haddr), firstGiven_ne hauth,
    filled_ne (by decide) ?_⟩
  -- a list of origins is joined before it is looked at
  change firstGiven ((cl.given .allowOrigin).map fun origins =>
    nonempty? (Text.joinStrings ';' origins)) ((file .allowOrigin).map nonempty?)
      base.allowOrigin ≠ some ""
  rw [show (fun origins => nonempty? (Text.joinStrings ';' origins)) =
    nonempty? ∘ Text.joinStrings ';' from rfl, ← Option.map_map]
  exact firstGiven_ne horigin

/-- The timeout of a file that was created is in milliseconds, so nothing is said about it. -/
theorem composedWarnings_naming (name : String) (cl : CommandLine) (base base' : Config) :
    (naming name).composedWarnings (cl.composed .empty base).toLayer base' = [] := by
  have hlt := lt_milliseconds_filled (cl.layered .empty base).requestTimeout
  have htimeout : (naming name).composedTimeout (cl.composed .empty base).toLayer base' =
      milliseconds (cl.composedTimeout .empty base) := filled_of_lt hlt
  unfold composedWarnings
  rw [htimeout]
  exact if_neg fun hsec => UInt64.not_le.mpr hlt hsec.2

end CommandLine

/-! ### Runs after the first one -/

/-- Reading changes no tree. -/
theorem FileTree.load_world (path : Bytes) (t : FileTree) : (t.load path).world = t := by
  unfold load
  split
  · rfl
  · rfl
  · split <;> rfl

/-- A file tree in which the file is missing. -/
theorem resolve_of_missing_file {cl : CommandLine} (hport : cl.PortFits) {name : String}
    (hname : cl.configFile = some name) (base : Config) {t : FileTree}
    (hload : (fileStore.load (Utf8.ofString name) t).result = .ok none) :
    let saved := t.persistIfAbsent (Utf8.ofString name) (cl.composed .empty base)
    (resolve fileStore base cl t).result = saved.result.map (fun _ => cl.composed .empty base) ∧
      (resolve fileStore base cl t).world = saved.world := by
  have hworld : (fileStore.load (Utf8.ofString name) t).world = t := t.load_world _
  have hfirst := resolve_of_missing fileStore base t hport hname hload
  simp only [hworld] at hfirst
  rw [hfirst]
  exact ⟨rfl, rfl⟩

/-- **The first run** that names a missing file resolves the three sources without a file; if the
file was created, it is loaded with the result. -/
theorem load_of_resolve {cl : CommandLine} (hport : cl.PortFits) {name : String}
    (hname : cl.configFile = some name) {base : Config} {t : FileTree}
    (hload : (fileStore.load (Utf8.ofString name) t).result = .ok none) {c : Config}
    (hresult : (resolve fileStore base cl t).result = .ok c)
    (hcreated : (resolve fileStore base cl t).world.isRegular (Utf8.ofString name) = true) :
    c = cl.composed .empty base ∧
      fileStore.load (Utf8.ofString name) (resolve fileStore base cl t).world =
        ⟨.ok (some c.toLayer), [.fileLoaded (Utf8.ofString name)],
          (resolve fileStore base cl t).world⟩ := by
  obtain ⟨hfirst, hworld⟩ := resolve_of_missing_file hport hname base hload
  rw [hworld] at hcreated ⊢
  obtain ⟨hsaved, hreload⟩ := FileTree.load_of_created hload hcreated
  rw [hfirst, hsaved] at hresult
  obtain rfl := Except.ok.inj hresult
  exact ⟨rfl, hreload⟩

/-- **Restart stability.** Let a run name a file that is not there, resolve to `c` and create the
file, in the format of its extension. Later runs change nothing in the file tree. The same command
line on the same base gives `c` again; so does, on a base in which nothing is set and on the
standard one, the command line that names the file and nothing else, without a word about its
timeout. On another base the same command line gives `c` as well, unless that base brings in
credentials or a method of authentication where the first run had none. -/
theorem resolve_restart {arguments : List Bytes} {cl : CommandLine}
    (hcl : CommandLine.parse arguments = .ok (.run cl)) {name : String}
    (hname : cl.configFile = some name) {base : Config} (hbase : base.HasNoEmptyText)
    {t : FileTree} (hload : (fileStore.load (Utf8.ofString name) t).result = .ok none) {c : Config}
    (hresult : (resolve fileStore base cl t).result = .ok c)
    (hcreated : (resolve fileStore base cl t).world.isRegular (Utf8.ofString name) = true) :
    let after := (resolve fileStore base cl t).world
    (resolve fileStore base cl after).result = .ok c ∧
    (base = .unset ∨ base = .standard →
      resolve fileStore base (.naming name) after =
        ⟨.ok c, [.fileLoaded (Utf8.ofString name), .resolved []], after⟩) ∧
    (∀ other, (resolve fileStore other cl after).world = after ∧
      ((resolve fileStore other cl after).result = .ok c ↔ cl.Admits base other)) := by
  have hport := CommandLine.portFits_of_parse hcl
  obtain ⟨hc, hreload⟩ := load_of_resolve hport hname hload hresult hcreated
  have hlayer := congrArg Reply.result hreload
  have hworld := congrArg Reply.world hreload
  -- from now on the file is there, whatever the base
  have hagain (other : Config) := resolve_of_layer fileStore other
    (resolve fileStore base cl t).world hport hname hlayer
  have hiff (other : Config) :
      cl.composed c.toLayer other = c ↔ cl.Admits base other := by
    rw [hc]
    exact cl.composed_composed hbase other
  refine ⟨?_, fun hfixed => ?_, fun other => ?_⟩
  · rw [hagain base, (hiff base).mpr (cl.admits_self base)]
  · have hadmits : (CommandLine.naming name).Admits c base := by
      rcases hfixed with rfl | rfl <;> exact ⟨fun _ _ => rfl, fun _ _ => rfl⟩
    -- with nothing on top, the first result takes the part of the base
    have hstays : (CommandLine.naming name).composed c.toLayer base = c := by
      have h := (CommandLine.naming name).composed_composed
        (hc ▸ cl.hasNoEmptyText_composed hbase : c.HasNoEmptyText) base
      rw [hc, CommandLine.composed_naming, ← hc] at h
      exact h.mpr hadmits
    have hsilent := CommandLine.composedWarnings_naming name cl base base
    rw [← hc] at hsilent
    rw [resolve_of_layer fileStore base _ (CommandLine.portFits_naming name) rfl hlayer, hstays,
      hsilent, hreload]
    rfl
  · refine ⟨by rw [hagain other, hworld], ?_⟩
    rw [hagain other]
    exact ⟨fun h => (hiff other).mp (Except.ok.inj h), fun h => congrArg _ ((hiff other).mpr h)⟩

/-- A timeout in seconds and cleared credentials are written to a new file in TOML; naming the file
is enough for the second run. -/
theorem resolve_restart_seconds :
    let arguments := ["-c", "gw.toml", "-r5", "--creds="].map Utf8.ofString
    let c : Config := { Config.standard with requestTimeout := 5000 }
    ∃ cl, CommandLine.parse arguments = .ok (.run cl) ∧
      let after := (resolve fileStore .standard cl .empty).world
      (resolve fileStore .standard cl .empty).result = .ok c ∧
      resolve fileStore .standard (.naming "gw.toml") after =
        ⟨.ok c, [.fileLoaded (Utf8.ofString "gw.toml"), .resolved []], after⟩ := by
  intro arguments c
  obtain ⟨cl, hcl, hp⟩ := CommandLine.exists_run arguments
    (fun cl => decide (cl.configFile = some "gw.toml" ∧ cl.composed .empty .standard = c))
    (by decide +kernel)
  obtain ⟨hname, hc⟩ := of_decide_eq_true hp
  have hload : (fileStore.load (Utf8.ofString "gw.toml") .empty).result = .ok none := by cbv
  have hformat : Format.ofPath (Utf8.ofString "gw.toml") = .toml := by cbv
  have hfree : FileTree.empty.freePlace (Utf8.ofString "gw.toml") =
      .ok [Utf8.ofString "gw.toml"] := by cbv
  have htext : (Format.ofPath (Utf8.ofString "gw.toml")).encode? c =
      some (String.ofList (Setting.inFile.flatMap c.tomlLine)) := by
    rw [hformat]
    change c.toToml? = _
    rw [Config.toToml?, if_pos (by decide)]
  obtain ⟨t, hsaved, hregular⟩ := FileTree.persistIfAbsent_of_freePlace htext hfree
  obtain ⟨hfirst, hworld⟩ := resolve_of_missing_file (CommandLine.portFits_of_parse hcl) hname
    .standard hload
  rw [hc, hsaved] at hfirst hworld
  have hresult : (resolve fileStore .standard cl .empty).result = .ok c := hfirst
  have hcreated : (resolve fileStore .standard cl .empty).world.isRegular
      (Utf8.ofString "gw.toml") = true := by
    rw [hworld]
    exact hregular
  have h := resolve_restart hcl hname Config.hasNoEmptyText_standard hload hresult hcreated
  exact ⟨cl, hcl, hresult, h.2.1 (.inr rfl)⟩

end Gateway
