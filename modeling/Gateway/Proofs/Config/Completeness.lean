import Gateway.Proofs.Config.Restart

/-!
# Resolved configurations are complete

`Config.IsComplete` says what a gateway may rely on in its configuration: the settings that it
needs are there and are not empty, the two that it can do without are absent or not empty, and the
timeout is too large to have been given in seconds. Every result of a resolution is complete,
whichever layer set or cleared a field (`isComplete_composed`).

A complete configuration has nothing left to be filled in or to be multiplied, so it is its own
result when it is resolved again with nothing on top (`composed_empty_of_isComplete`).
`resolve_complete` puts both together, and says that the timeout is worked out exactly: in 64 bits
it is what it is over the natural numbers.
-/

namespace Gateway

namespace Config

/-- What the configuration of a run holds, whatever it was put together from. -/
structure IsComplete (c : Config) : Prop where
  natsUrl : c.natsUrl ≠ ""
  wsPath : c.wsPath ≠ ""
  apiPath : c.apiPath ≠ ""
  apiEncoding : c.apiEncoding ≠ ""
  addr : ∃ address, c.addr = some address ∧ address ≠ ""
  allowOrigin : ∃ origins, c.allowOrigin = some origins ∧ origins ≠ ""
  natsCreds : c.natsCreds ≠ some ""
  headerAuth : c.headerAuth ≠ some ""
  port : 1 ≤ c.port
  requestTimeout : 10 < c.requestTimeout

/-- The timeout in milliseconds that is meant by a number, without any bound. -/
def exactTimeout (given : Nat) : Nat :=
  let timeout := if given = 0 then 3000 else given
  if timeout ≤ 10 then timeout * 1000 else timeout

/-! ### Fields that were filled in -/

section Fields

variable {α : Type} [DecidableEq α] {unset default value : α}

theorem filled_of_ne (h : value ≠ unset) : filled unset default value = value := if_neg h

/-- Whatever a field held, it is set once it is filled. -/
theorem filled_ne_unset (h : default ≠ unset) (value : α) : filled unset default value ≠ unset := by
  rw [filled]
  split
  · exact h
  · assumption

end Fields

/-- An optional field with a default is there. -/
theorem exists_filled {default : String} {value : Option String}
    (h : filled none (some default) value ≠ some "") :
    ∃ text, filled none (some default) value = some text ∧ text ≠ "" := by
  have hthere : filled none (some default) value ≠ none :=
    filled_ne_unset (Option.some_ne_none default) value
  obtain ⟨text, htext⟩ := Option.ne_none_iff_exists'.mp hthere
  refine ⟨text, htext, ?_⟩
  rintro rfl
  exact h htext

/-- The port is never zero. -/
theorem one_le_filled_port (port : UInt16) : 1 ≤ filled 0 8080 port := by
  have hne : filled 0 8080 port ≠ 0 := filled_ne_unset (by decide) port
  rw [UInt16.le_iff_toNat_le]
  exact Nat.one_le_iff_ne_zero.mpr fun h => hne (UInt16.toNat_inj.mp h)

theorem port_ne_zero {port : UInt16} (h : 1 ≤ port) : port ≠ 0 := by
  rintro rfl
  exact absurd h (by decide)

/-! ### Timeouts -/

/-- **Timeouts are exact.** Whatever 64-bit number is given, the factor does not overflow. -/
theorem toNat_milliseconds_filled (t : UInt64) :
    (milliseconds (filled 0 3000 t)).toNat = exactTimeout t.toNat := by
  by_cases hzero : t = 0
  · rw [hzero]
    decide
  · have hnat : t.toNat ≠ 0 := fun h => hzero (UInt64.toNat_inj.mp h)
    rw [filled_of_ne hzero, exactTimeout, if_neg hnat, milliseconds]
    simp only [UInt64.le_iff_toNat_le]
    change (if 1 ≤ t.toNat ∧ t.toNat ≤ 10 then t * 1000 else t).toNat = _
    by_cases hsec : t.toNat ≤ 10
    · -- ten seconds at most, so the product is far below the bound
      rw [if_pos ⟨Nat.one_le_iff_ne_zero.mpr hnat, hsec⟩, if_pos hsec, UInt64.toNat_mul]
      change t.toNat * 1000 % 2 ^ 64 = _
      omega
    · rw [if_neg fun h => hsec h.2, if_neg hsec]

end Config

namespace CommandLine

open Config

/-! ### Results -/

/-- **Results are complete**, whatever a layer overwrote or cleared. -/
theorem isComplete_composed (cl : CommandLine) (file : Layer) {base : Config}
    (h : base.HasNoEmptyText) : (cl.composed file base).IsComplete := by
  have hresult : (cl.composed file base).HasNoEmptyText := cl.hasNoEmptyText_composed h
  obtain ⟨hcreds, haddr, hauth, horigin⟩ := hresult
  exact
    { natsUrl := filled_ne_unset (by decide) _
      wsPath := filled_ne_unset (by decide) _
      apiPath := filled_ne_unset (by decide) _
      apiEncoding := filled_ne_unset (by decide) _
      addr := exists_filled haddr
      allowOrigin := exists_filled horigin
      natsCreds := hcreds
      headerAuth := hauth
      port := one_le_filled_port _
      requestTimeout := lt_milliseconds_filled _ }

/-! ### Complete configurations -/

/-- **Complete configurations stay as they are** when there is nothing on top. -/
theorem composed_empty_of_isComplete {c : Config} (h : c.IsComplete) :
    empty.composed .empty c = c := by
  refine eq_of_toLayer fun s => ?_
  cases s with
  | natsUrl => exact congrArg some (filled_of_ne h.natsUrl)
  | wsPath => exact congrArg some (filled_of_ne h.wsPath)
  | apiPath => exact congrArg some (filled_of_ne h.apiPath)
  | apiEncoding => exact congrArg some (filled_of_ne h.apiEncoding)
  | port => exact congrArg some (filled_of_ne (port_ne_zero h.port))
  | addr =>
    obtain ⟨address, haddress, -⟩ := h.addr
    exact filled_of_ne (haddress ▸ Option.some_ne_none address)
  | allowOrigin =>
    obtain ⟨origins, horigins, -⟩ := h.allowOrigin
    exact filled_of_ne (horigins ▸ Option.some_ne_none origins)
  | requestTimeout =>
    change some (milliseconds (filled 0 3000 c.requestTimeout)) = some c.requestTimeout
    rw [filled_of_lt h.requestTimeout, milliseconds_of_lt h.requestTimeout]
  | natsCreds | headerAuth | debug | trace | tls | tlsCert | tlsKey => rfl

/-- Nothing is said about the timeout of a complete configuration. -/
theorem composedWarnings_empty_of_isComplete {c : Config} (h : c.IsComplete) :
    empty.composedWarnings .empty c = [] := by
  have htimeout : empty.composedTimeout .empty c = c.requestTimeout :=
    filled_of_lt h.requestTimeout
  rw [composedWarnings, htimeout]
  exact if_neg fun hsec => UInt64.not_le.mpr h.requestTimeout hsec.2

theorem portFits_empty : empty.PortFits := nofun

/-- That is the command line without arguments. -/
theorem parse_nil : parse [] = .ok (.run empty) := rfl

end CommandLine

/-- **Completeness and stability.** Let a base hold no empty text for an optional setting. Whatever
command line is parsed and whatever the store answers, the configuration that is resolved is
complete, and its timeout is exactly the one that is meant by the number that the sources give.
Resolved again as the base of the command line without arguments, on any store, it comes out
unchanged, the store is left alone, and nothing is logged but that it is resolved. -/
theorem resolve_complete {arguments : List Bytes} {cl : CommandLine}
    (hcl : CommandLine.parse arguments = .ok (.run cl)) {σ : Type} (store : Store σ)
    {base : Config} (hbase : base.HasNoEmptyText) (world : σ) {c : Config}
    (hc : (resolve store base cl world).result = .ok c) :
    c.IsComplete ∧
    c.requestTimeout.toNat =
      Config.exactTimeout (cl.layered (cl.fileLayer store world) base).requestTimeout.toNat ∧
    ∀ again, CommandLine.parse [] = .ok (.run again) →
      ∀ {τ : Type} (store' : Store τ) (world' : τ),
        resolve store' c again world' = ⟨.ok c, [.resolved []], world'⟩ := by
  obtain rfl := composed_of_resolve store base world (CommandLine.portFits_of_parse hcl) hc
  have hcomplete := cl.isComplete_composed (cl.fileLayer store world) hbase
  refine ⟨hcomplete, Config.toNat_milliseconds_filled _, ?_⟩
  intro again hagain τ store' world'
  obtain rfl := Invocation.run.inj (Except.ok.inj (CommandLine.parse_nil.symm.trans hagain))
  rw [resolve_of_noFile store' _ world' CommandLine.portFits_empty rfl,
    CommandLine.composed_empty_of_isComplete hcomplete,
    CommandLine.composedWarnings_empty_of_isComplete hcomplete]
  rfl

/-- A base without paths, a file that clears the address and gives a port of zero, and a command
line with the largest timeout in seconds that clears the method of authentication. -/
theorem resolve_complete_cleared :
    let arguments := ["-c", "gw.json", "-r10", "--headauth="].map Utf8.ofString
    let file : Layer := ((Layer.empty.set .port 0).set .addr "").set .headerAuth "user.login"
    let base : Config := { Config.unset with natsCreds := some "/nats.creds", debug := true }
    let store : Store Unit := ⟨fun _ w => ⟨.ok (some file), [], w⟩, fun _ _ w => ⟨.ok (), [], w⟩⟩
    ∃ cl c, CommandLine.parse arguments = .ok (.run cl) ∧ base.HasNoEmptyText ∧
      (resolve store base cl ()).result = .ok c ∧ c.IsComplete ∧
      c.requestTimeout.toNat = 10000 ∧
      resolve store c .empty () = ⟨.ok c, [.resolved []], ()⟩ := by
  intro arguments file base store
  obtain ⟨cl, hcl, hp⟩ := CommandLine.exists_run arguments
    (fun cl => decide (cl.configFile = some "gw.json" ∧
      (cl.layered file base).requestTimeout = 10)) (by decide +kernel)
  obtain ⟨hname, htimeout⟩ := of_decide_eq_true hp
  have hbase : base.HasNoEmptyText := by
    rw [Config.HasNoEmptyText]
    decide
  have hresult := congrArg Reply.result
    (resolve_of_layer store base () (CommandLine.portFits_of_parse hcl) hname rfl)
  have hfile : cl.fileLayer store () = file := by
    rw [CommandLine.fileLayer, hname]
  obtain ⟨hcomplete, hexact, hagain⟩ := resolve_complete hcl store hbase () hresult
  rw [hfile, htimeout] at hexact
  exact ⟨cl, _, hcl, hbase, hresult, hcomplete, hexact,
    hagain .empty CommandLine.parse_nil store ()⟩

end Gateway
