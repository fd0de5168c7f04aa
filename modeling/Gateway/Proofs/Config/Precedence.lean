import Gateway.Proofs.Config.Layers

/-!
# The precedence of the sources of a configuration

`CommandLine.composed` writes down, field by field, what a command line, a file and a base make of
a configuration: the first of the three that gives the field (`CommandLine.layered`), then the
default if the field is still unset, then milliseconds for a timeout in seconds. Every field
mentions nothing but its own three sources.

`CommandLine.settle` gets there another way: it lays whole layers over a whole configuration, fills
in all defaults, and then looks at the timeout. `settle_eq_composed` says that both agree on every
command line that the parser can return, and `resolve_precedence` carries this over to `resolve`
on any store that answers, with all that is logged on the way.
-/

namespace Gateway

namespace Config

/-! ### What one field goes through -/

/-- The first of the three sources that gives a value: command line, file, base. -/
def firstGiven {α : Type} (explicit file : Option α) (base : α) : α :=
  (explicit.or file).getD base

/-- A value, or the default if it is the one that counts as unset. -/
def filled {α : Type} [DecidableEq α] (unset default value : α) : α :=
  if value = unset then default else value

/-- A timeout in milliseconds. One from 1 to 10 was given in seconds. -/
def milliseconds (t : UInt64) : UInt64 := if 1 ≤ t ∧ t ≤ 10 then t * 1000 else t

end Config

namespace CommandLine

open Config (firstGiven filled milliseconds nonempty?)

/-! ### The reference -/

/-- What the three sources give, before defaults. An empty text on the command line or in the file
makes an optional field absent, as does a list of origins that amounts to one; a port of zero on
the command line is none. -/
def layered (cl : CommandLine) (file : Layer) (base : Config) : Config where
  natsUrl := firstGiven (cl.given .natsUrl) (file .natsUrl) base.natsUrl
  natsCreds := firstGiven ((cl.given .natsCreds).map nonempty?)
    ((file .natsCreds).map nonempty?) base.natsCreds
  requestTimeout :=
    firstGiven (cl.given .requestTimeout) (file .requestTimeout) base.requestTimeout
  debug := firstGiven (cl.given .debug) (file .debug) base.debug
  trace := firstGiven (cl.given .trace) (file .trace) base.trace
  addr := firstGiven ((cl.given .addr).map nonempty?) ((file .addr).map nonempty?) base.addr
  port := firstGiven (((cl.given .port).filter (· ≠ 0)).map UInt64.toUInt16) (file .port) base.port
  wsPath := firstGiven (cl.given .wsPath) (file .wsPath) base.wsPath
  apiPath := firstGiven (cl.given .apiPath) (file .apiPath) base.apiPath
  headerAuth := firstGiven ((cl.given .headerAuth).map nonempty?)
    ((file .headerAuth).map nonempty?) base.headerAuth
  allowOrigin := firstGiven
    ((cl.given .allowOrigin).map fun origins => nonempty? (Text.joinStrings ';' origins))
    ((file .allowOrigin).map nonempty?) base.allowOrigin
  apiEncoding := firstGiven (cl.given .apiEncoding) (file .apiEncoding) base.apiEncoding
  tls := firstGiven (cl.given .tls) (file .tls) base.tls
  tlsCert := firstGiven (cl.given .tlsCert) (file .tlsCert) base.tlsCert
  tlsKey := firstGiven (cl.given .tlsKey) (file .tlsKey) base.tlsKey

/-- The timeout with its default, before it is looked at whether it was given in seconds. -/
def composedTimeout (cl : CommandLine) (file : Layer) (base : Config) : UInt64 :=
  filled 0 3000 (cl.layered file base).requestTimeout

/-- **The reference.** The configuration that the three sources make, one field at a time. -/
def composed (cl : CommandLine) (file : Layer) (base : Config) : Config where
  natsUrl := filled "" "nats://127.0.0.1:4222" (cl.layered file base).natsUrl
  natsCreds := (cl.layered file base).natsCreds
  requestTimeout := milliseconds (cl.composedTimeout file base)
  debug := (cl.layered file base).debug
  trace := (cl.layered file base).trace
  addr := filled none (some "0.0.0.0") (cl.layered file base).addr
  port := filled 0 8080 (cl.layered file base).port
  wsPath := filled "" "/" (cl.layered file base).wsPath
  apiPath := filled "" "/api/" (cl.layered file base).apiPath
  headerAuth := (cl.layered file base).headerAuth
  allowOrigin := filled none (some "*") (cl.layered file base).allowOrigin
  apiEncoding := filled "" "json" (cl.layered file base).apiEncoding
  tls := (cl.layered file base).tls
  tlsCert := (cl.layered file base).tlsCert
  tlsKey := (cl.layered file base).tlsKey

/-- The warning about a timeout in seconds, with the timeout as given and as used. -/
def composedWarnings (cl : CommandLine) (file : Layer) (base : Config) : List Log.Event :=
  let t := cl.composedTimeout file base
  if 1 ≤ t ∧ t ≤ 10 then [.timeoutInSeconds t (t * 1000)] else []

/-- **No field depends on another.** What the reference holds for a setting is determined by what
the three sources give for that setting. -/
theorem toLayer_composed_congr {cl cl' : CommandLine} {file file' : Layer} {base base' : Config}
    {s : Setting} (hcl : cl.given s = cl'.given s) (hfile : file s = file' s)
    (hbase : base.toLayer s = base'.toLayer s) :
    (cl.composed file base).toLayer s = (cl'.composed file' base').toLayer s := by
  cases s <;>
    simp only [Config.toLayer, Option.some.injEq] at hbase <;>
    simp only [Config.toLayer, composed, composedTimeout, layered, hcl, hfile, hbase]

/-! ### What the parser promises -/

/-- A port that is given fits in sixteen bits. -/
def PortFits (cl : CommandLine) : Prop := ∀ p, cl.given .port = some p → p.toNat < UInt16.size

/-- A run asked for keeps the values of the flags. -/
theorem given_of_request {values : Flag.Values} {cl : CommandLine}
    (h : ofFlags.request values = .run cl) (s : Setting) : cl.given s = values (.setting s) := by
  unfold ofFlags.request at h
  split at h
  · cases h
  · split at h
    · cases h
    · cases h
      rfl

/-- Larger ports are refused before anything is asked for. -/
theorem portFits_of_parse {arguments : List Bytes} {cl : CommandLine}
    (h : parse arguments = .ok (.run cl)) : cl.PortFits := by
  unfold parse at h
  split at h
  · next values _ =>
    intro p hp
    unfold ofFlags at h
    split at h
    · next port hport =>
      split at h
      · cases h
      · next hlt =>
        have hp := (given_of_request (Except.ok.inj h) .port).symm.trans hp
        rw [hport] at hp
        obtain rfl := Option.some.inj hp
        exact Nat.lt_of_not_le hlt
    · next hport =>
      exact absurd ((given_of_request (Except.ok.inj h) .port).symm.trans hp) (hport p)
  · cases h

/-! ### The layers agree with the reference -/

/-- A field that is always there, under two layers. -/
private theorem elim_eq_firstGiven {α : Type} (explicit file : Option α) (base : α) :
    ((explicit.bind some).or file).elim (some base) some =
      some (firstGiven explicit file base) := by
  rw [Option.bind_fun_some, firstGiven]
  cases explicit.or file <;> rfl

/-- A field that may be absent, under two layers; `f` is what becomes of the explicit value. -/
private theorem elim_eq_firstGiven_optional {α : Type} (f : α → String) (explicit : Option α)
    (file base : Option String) :
    ((explicit.bind fun v => some (f v)).or file).elim base nonempty? =
      firstGiven (explicit.map fun v => nonempty? (f v)) (file.map nonempty?) base := by
  cases explicit with
  | none => cases file <;> rfl
  | some v => rfl

/-- A port that fits is what its flag gives, unless it is zero. -/
private theorem bind_content?_port {port : Option UInt64}
    (h : ∀ p, port = some p → p.toNat < UInt16.size) :
    port.bind (content? .port) = ((port.filter (· ≠ 0)).map UInt64.toUInt16).bind some := by
  rw [Option.bind_fun_some]
  cases port with
  | none => rfl
  | some p =>
    have hp := h p rfl
    rw [Option.bind_some, Option.filter_some]
    by_cases hz : p = 0
    · simp [content?, hz]
    · simp [content?, hz, hp]

/-- Two layers, one field at a time. -/
theorem applyTo_applyTo_eq_layered {cl : CommandLine} (hport : cl.PortFits) (file : Layer)
    (base : Config) : cl.toLayer.applyTo (file.applyTo base) = cl.layered file base := by
  refine Config.eq_of_toLayer fun s => ?_
  rw [Layer.toLayer_applyTo_applyTo]
  cases s with
  | port =>
    -- the one setting whose flag does not always give what it is given
    change Option.elim (Option.or ((cl.given .port).bind (content? .port)) (file .port)) _ _ = _
    rw [bind_content?_port hport]
    exact elim_eq_firstGiven _ _ _
  | natsCreds | addr | headerAuth => exact elim_eq_firstGiven_optional id _ _ _
  | allowOrigin => exact elim_eq_firstGiven_optional (Text.joinStrings ';') _ _ _
  | natsUrl | requestTimeout | debug | trace | wsPath | apiPath | apiEncoding | tls | tlsCert
  | tlsKey => exact elim_eq_firstGiven _ _ _

/-- Filling in an optional field. -/
private theorem some_getD_eq_filled (default : String) (value : Option String) :
    some (value.getD default) = filled none (some default) value := by
  cases value <;> rfl

/-- A timeout with its default is not zero, so it is in seconds as soon as it is at most ten. -/
private theorem isInSeconds_withDefaults (c : Config) :
    c.withDefaults.isInSeconds = true ↔
      1 ≤ filled 0 3000 c.requestTimeout ∧ filled 0 3000 c.requestTimeout ≤ 10 := by
  have hpos : 1 ≤ filled 0 3000 c.requestTimeout := by
    unfold filled
    split
    · decide
    · next h =>
      have hne : c.requestTimeout.toNat ≠ 0 := fun h0 => h (UInt64.toNat_inj.mp h0)
      rw [UInt64.le_iff_toNat_le]
      change 1 ≤ c.requestTimeout.toNat
      omega
  change decide (filled 0 3000 c.requestTimeout ≤ 10) = true ↔ _
  rw [decide_eq_true_iff]
  exact ⟨fun h => ⟨hpos, h⟩, And.right⟩

/-- The timeout in milliseconds, once there is one. -/
private theorem inMilliseconds_withDefaults (c : Config) :
    c.withDefaults.inMilliseconds =
      { c.withDefaults with requestTimeout := milliseconds (filled 0 3000 c.requestTimeout) } := by
  -- the default is above ten, so filling it in first makes no difference
  unfold Config.inMilliseconds milliseconds
  by_cases h : c.withDefaults.isInSeconds
  · rw [if_pos h, if_pos ((isInSeconds_withDefaults c).mp h)]
    rfl
  · rw [if_neg h, if_neg fun hc => h ((isInSeconds_withDefaults c).mpr hc)]
    rfl

/-- **The layers compose.** What settling makes of the three sources is the reference. -/
theorem settle_eq_composed {cl : CommandLine} (hport : cl.PortFits) (base : Config)
    (file : Layer) : cl.settle base file = cl.composed file base := by
  unfold settle merge
  rw [applyTo_applyTo_eq_layered hport, inMilliseconds_withDefaults]
  simp only [Config.withDefaults, some_getD_eq_filled]
  rfl

/-- The warning that settling gives is the one of the reference. -/
theorem warnings_eq_composedWarnings {cl : CommandLine} (hport : cl.PortFits) (base : Config)
    (file : Layer) : cl.warnings base file = cl.composedWarnings file base := by
  have hsec := isInSeconds_withDefaults (cl.layered file base)
  unfold warnings composedWarnings merge
  rw [applyTo_applyTo_eq_layered hport]
  by_cases h : (cl.layered file base).withDefaults.isInSeconds
  · have ht : 1 ≤ cl.composedTimeout file base ∧ cl.composedTimeout file base ≤ 10 := hsec.mp h
    simp only [if_pos h, if_pos ht, inMilliseconds_withDefaults]
    change [Log.Event.timeoutInSeconds (cl.composedTimeout file base)
      (milliseconds (cl.composedTimeout file base))] = _
    rw [milliseconds, if_pos ht]
  · have ht : ¬ (1 ≤ cl.composedTimeout file base ∧ cl.composedTimeout file base ≤ 10) :=
      fun hc => h (hsec.mpr hc)
    simp only [if_neg h, if_neg ht]

end CommandLine

/-! ### Resolution -/

section Resolution

open CommandLine

variable {σ : Type} (store : Store σ) (base : Config) {cl : CommandLine} (world : σ)

/-- Without a file the store is left alone. -/
theorem resolve_of_noFile (hport : cl.PortFits) (h : cl.configFile = none) :
    resolve store base cl world =
      ⟨.ok (cl.composed .empty base), cl.composedWarnings .empty base ++ [.resolved cl.explicit],
        world⟩ := by
  unfold resolve
  rw [h]
  simp only [settle_eq_composed hport, warnings_eq_composedWarnings hport]

/-- A file that gives a layer is only read. -/
theorem resolve_of_layer (hport : cl.PortFits) {name : String} (h : cl.configFile = some name)
    {layer : Layer} (hload : (store.load (Utf8.ofString name) world).result = .ok (some layer)) :
    let loaded := store.load (Utf8.ofString name) world
    resolve store base cl world =
      ⟨.ok (cl.composed layer base),
        loaded.log ++ cl.composedWarnings layer base ++ [.resolved cl.explicit],
        loaded.world⟩ := by
  unfold resolve
  rw [h]
  simp only [hload, settle_eq_composed hport, warnings_eq_composedWarnings hport]

/-- A file that is missing is created from the result. -/
theorem resolve_of_missing (hport : cl.PortFits) {name : String} (h : cl.configFile = some name)
    (hload : (store.load (Utf8.ofString name) world).result = .ok none) :
    let loaded := store.load (Utf8.ofString name) world
    let saved :=
      store.persistIfAbsent (Utf8.ofString name) (cl.composed .empty base) loaded.world
    resolve store base cl world =
      ⟨saved.result.map fun _ => cl.composed .empty base,
        loaded.log ++ cl.composedWarnings .empty base ++ saved.log ++
          if saved.result.isOk then [.resolved cl.explicit] else [],
        saved.world⟩ := by
  unfold resolve
  rw [h]
  simp only [hload, settle_eq_composed hport, warnings_eq_composedWarnings hport]
  split
  · next hsaved => simp [hsaved, Except.map, Except.isOk, Except.toBool]
  · next hsaved => simp [hsaved, Except.map, Except.isOk, Except.toBool]

/-- The layer that is loaded for a command line; the empty one if there is no file. -/
def CommandLine.fileLayer (cl : CommandLine) (store : Store σ) (world : σ) : Layer :=
  match cl.configFile with
  | none => .empty
  | some name =>
    match (store.load (Utf8.ofString name) world).result with
    | .ok (some layer) => layer
    | _ => .empty

/-- **Results** are made of the three sources, whatever the store answers. -/
theorem composed_of_resolve (hport : cl.PortFits) {c : Config}
    (h : (resolve store base cl world).result = .ok c) :
    c = cl.composed (cl.fileLayer store world) base := by
  unfold fileLayer
  cases hname : cl.configFile with
  | none =>
    rw [resolve_of_noFile store base world hport hname] at h
    exact (Except.ok.inj h).symm
  | some name =>
    cases hload : (store.load (Utf8.ofString name) world).result with
    | error fault =>
      unfold resolve at h
      rw [hname] at h
      simp only [hload] at h
      cases h
    | ok given =>
      cases given with
      | some layer =>
        rw [resolve_of_layer store base world hport hname hload] at h
        simp only [hload]
        exact (Except.ok.inj h).symm
      | none =>
        rw [resolve_of_missing store base world hport hname hload] at h
        simp only [hload]
        dsimp only at h
        generalize Reply.result _ = saved at h
        cases saved with
        | error fault => cases h
        | ok saved => exact (Except.ok.inj h).symm

end Resolution

/-- Whether an event is the warning about a timeout in seconds. -/
def Log.Event.isTimeoutWarning : Log.Event → Bool
  | .timeoutInSeconds _ _ => true
  | _ => false

/-- Files are read and created without a word about timeouts. -/
private theorem fileStore_silent (path : Bytes) (c : Config) (t : FileTree) :
    (fileStore.load path t).log.filter Log.Event.isTimeoutWarning = [] ∧
      (fileStore.persistIfAbsent path c t).log.filter Log.Event.isTimeoutWarning = [] := by
  constructor
  · change (t.load path).log.filter _ = []
    unfold FileTree.load
    split
    · rfl
    · rfl
    · split <;> rfl
  · change (t.persistIfAbsent path c).log.filter _ = []
    unfold FileTree.persistIfAbsent
    split
    · rfl
    · split <;> rfl

/-- **Precedence.** On every store that answers, and for every command line that the parser
returns, resolution yields the reference: each field is the value of the first source that gives
it, with its default if it is still unset, and a timeout in seconds becomes one in milliseconds. The
log holds, besides what the store logs, the warning about such a timeout once, or not at all if the
timeout is another one. No field of the reference depends on what is given for another. -/
theorem resolve_precedence {arguments : List Bytes} {cl : CommandLine}
    (hcl : CommandLine.parse arguments = .ok (.run cl)) {σ : Type} (store : Store σ)
    (base : Config) (world : σ) :
    (cl.configFile = none →
      resolve store base cl world =
        ⟨.ok (cl.composed .empty base),
          cl.composedWarnings .empty base ++ [.resolved cl.explicit], world⟩) ∧
    (∀ name, cl.configFile = some name →
      let loaded := store.load (Utf8.ofString name) world
      (∀ layer, loaded.result = .ok (some layer) →
        resolve store base cl world =
          ⟨.ok (cl.composed layer base),
            loaded.log ++ cl.composedWarnings layer base ++ [.resolved cl.explicit],
            loaded.world⟩) ∧
      (loaded.result = .ok none →
        let saved :=
          store.persistIfAbsent (Utf8.ofString name) (cl.composed .empty base) loaded.world
        resolve store base cl world =
          ⟨saved.result.map fun _ => cl.composed .empty base,
            loaded.log ++ cl.composedWarnings .empty base ++ saved.log ++
              if saved.result.isOk then [.resolved cl.explicit] else [],
            saved.world⟩)) ∧
    (∀ path c t, (fileStore.load path t).log.filter Log.Event.isTimeoutWarning = [] ∧
      (fileStore.persistIfAbsent path c t).log.filter Log.Event.isTimeoutWarning = []) ∧
    (∀ (other : CommandLine) (file otherFile : Layer) (otherBase : Config) (s : Setting),
      cl.given s = other.given s → file s = otherFile s → base.toLayer s = otherBase.toLayer s →
      (cl.composed file base).toLayer s = (other.composed otherFile otherBase).toLayer s) := by
  have hport := CommandLine.portFits_of_parse hcl
  refine ⟨resolve_of_noFile store base world hport, fun name hname => ⟨fun layer hload => ?_,
    fun hload => ?_⟩, fileStore_silent, fun other file otherFile otherBase s h hf hb => ?_⟩
  · exact resolve_of_layer store base world hport hname hload
  · exact resolve_of_missing store base world hport hname hload
  · exact CommandLine.toLayer_composed_congr h hf hb

/-- A command line that is read to the end can be looked at. -/
theorem CommandLine.exists_run (arguments : List Bytes) (p : CommandLine → Bool)
    (h : (match parse arguments with | .ok (.run cl) => p cl | _ => false) = true) :
    ∃ cl, parse arguments = .ok (.run cl) ∧ p cl = true := by
  split at h
  · next cl hcl => exact ⟨cl, hcl, h⟩
  · cases h

/-- A file clears the address, which takes its default, and its port of zero gives way to the
default; the command line clears the credentials of the file and leaves its port of zero aside, and
its timeout is in seconds. -/
theorem resolve_precedence_cleared :
    let arguments := ["-c", "gw.json", "--port", "0", "-r5", "--creds="].map Utf8.ofString
    let file : Layer := ((Layer.empty.set .port 0).set .addr "").set .natsCreds "/file.creds"
    let base : Config := { Config.standard with addr := some "10.0.0.1", port := 9000 }
    let store : Store Unit := ⟨fun _ w => ⟨.ok (some file), [], w⟩, fun _ _ w => ⟨.ok (), [], w⟩⟩
    ∃ cl, CommandLine.parse arguments = .ok (.run cl) ∧
      resolve store base cl () =
        ⟨.ok { Config.standard with requestTimeout := 5000 },
          [.timeoutInSeconds 5 5000, .resolved [.port, .requestTimeout, .natsCreds]], ()⟩ := by
  intro arguments file base store
  obtain ⟨cl, hcl, hp⟩ := CommandLine.exists_run arguments
    (fun cl => decide (cl.configFile = some "gw.json" ∧
      cl.composed file base = { Config.standard with requestTimeout := 5000 } ∧
      cl.composedWarnings file base = [.timeoutInSeconds 5 5000] ∧
      cl.explicit = [.port, .requestTimeout, .natsCreds])) (by decide +kernel)
  obtain ⟨hname, hc, hw, he⟩ := of_decide_eq_true hp
  refine ⟨cl, hcl, ?_⟩
  have h := ((resolve_precedence hcl store base ()).2.1 _ hname).1 file rfl
  rw [hc, hw, he] at h
  exact h

end Gateway
