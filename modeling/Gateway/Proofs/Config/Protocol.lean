import Gateway.Config.Resolve

/-!
# How resolution uses a store

A store that notes its calls answers as the store itself does, so what it has noted after a
resolution are the calls of that resolution (`resolve_recording`). Without a file there is none. A
file that is named is loaded, and only if nothing is there, the configuration that is returned is
also persisted under the same path. An error is always one that the store gave:
`resolve_protocol`.
-/

namespace Gateway

variable {σ : Type} (store : Store σ) (base : Config) (cl : CommandLine) (world : σ)

/-- The calls of a resolution, the latest last. -/
def resolutionCalls : List StoreCall :=
  match cl.configFile with
  | none => []
  | some name =>
    let path := Utf8.ofString name
    match (store.load path world).result with
    | .ok none => [.load path, .persist path (cl.settle base .empty)]
    | _ => [.load path]

/-- **Calls are noted and nothing else is changed.** -/
theorem resolve_recording (noted : List StoreCall) :
    resolve store.recording base cl (world, noted) =
      ⟨(resolve store base cl world).result, (resolve store base cl world).log,
        ((resolve store base cl world).world, noted ++ resolutionCalls store base cl world)⟩ := by
  unfold resolve resolutionCalls
  cases cl.configFile with
  | none => simp only [List.append_nil]
  | some name =>
    simp only [Store.recording]
    cases (store.load (Utf8.ofString name) world).result with
    | error fault => rfl
    | ok given =>
      cases given with
      | some layer => rfl
      | none =>
        simp only [List.append_assoc, List.cons_append, List.nil_append]
        split <;> rfl

/-- **Resolutions** are of three kinds: without a file, with an entry that is loaded or cannot be,
and with one that is missing, for which the result is persisted. -/
theorem resolve_cases :
    let calls := resolutionCalls store base cl world
    let reply := resolve store base cl world
    let c := cl.settle base .empty
    (cl.configFile = none ∧ calls = [] ∧ reply.world = world ∧ reply.result = .ok c) ∨
    ∃ name, cl.configFile = some name ∧
      let path := Utf8.ofString name
      let loaded := store.load path world
      let saved := store.persistIfAbsent path c loaded.world
      (loaded.result ≠ .ok none ∧ calls = [.load path] ∧ reply.world = loaded.world ∧
        ∀ fault, reply.result = .error fault ↔ loaded.result = .error fault) ∨
      (loaded.result = .ok none ∧ calls = [.load path, .persist path c] ∧
        reply.world = saved.world ∧ reply.result = saved.result.map fun _ => c) := by
  unfold resolve resolutionCalls
  cases hname : cl.configFile with
  | none => exact .inl ⟨rfl, rfl, rfl, rfl⟩
  | some name =>
    refine .inr ⟨name, rfl, ?_⟩
    simp only
    cases hload : (store.load (Utf8.ofString name) world).result with
    | error fault =>
      refine .inl ⟨nofun, rfl, rfl, fun fault' => ?_⟩
      rw [Except.error.injEq, Except.error.injEq]
    | ok given =>
      cases given with
      | some layer => exact .inl ⟨nofun, rfl, rfl, fun _ => iff_of_false nofun nofun⟩
      | none =>
        refine .inr ⟨rfl, rfl, ?_⟩
        dsimp only
        split
        · next hsaved => exact ⟨rfl, by rw [hsaved]; rfl⟩
        · next hsaved => exact ⟨rfl, by rw [hsaved]; rfl⟩

/-- **The protocol of a store.** Noting the calls changes no answer. Without a file no call is made
and resolution cannot fail. With one, the first call loads it. If that finds something or fails,
there is no other call, and resolution fails exactly with the error of the load. If nothing is
there, the second and last call persists a configuration under the same path; it is the one that
is returned, unless the store refuses it, whose error is then returned. -/
theorem resolve_protocol (noted : List StoreCall) :
    let run := resolve store.recording base cl (world, noted)
    (run.result = (resolve store base cl world).result ∧
      run.log = (resolve store base cl world).log ∧
      run.world.1 = (resolve store base cl world).world) ∧
    (cl.configFile = none → run.world = (world, noted) ∧ ∃ c, run.result = .ok c) ∧
    (∀ name, cl.configFile = some name →
      let path := Utf8.ofString name
      let loaded := store.load path world
      (loaded.result ≠ .ok none →
        run.world = (loaded.world, noted ++ [.load path]) ∧
        ∀ fault, run.result = .error fault ↔ loaded.result = .error fault) ∧
      (loaded.result = .ok none → ∃ c,
        let saved := store.persistIfAbsent path c loaded.world
        run.world = (saved.world, noted ++ [.load path, .persist path c]) ∧
        run.result = saved.result.map fun _ => c)) := by
  intro run
  have hrun : run = _ := resolve_recording store base cl world noted
  rw [hrun]
  refine ⟨⟨rfl, rfl, rfl⟩, ?_⟩
  obtain ⟨hnone, hcalls, hworld, hresult⟩ | ⟨name, hname, hcases⟩ :=
    resolve_cases store base cl world
  · rw [hcalls, hworld, List.append_nil]
    exact ⟨fun _ => ⟨rfl, _, hresult⟩, fun name hname => nomatch hnone.symm.trans hname⟩
  · refine ⟨fun hnone => (nomatch hnone.symm.trans hname), fun name' hname' => ?_⟩
    obtain rfl : name = name' := Option.some.inj (hname.symm.trans hname')
    obtain ⟨hload, hcalls, hworld, hresult⟩ | ⟨hload, hcalls, hworld, hresult⟩ := hcases
    · rw [hcalls, hworld]
      exact ⟨fun _ => ⟨rfl, hresult⟩, fun hmissing => absurd hmissing hload⟩
    · rw [hcalls, hworld]
      exact ⟨fun hpresent => absurd hload hpresent, fun _ => ⟨_, rfl, hresult⟩⟩

/-- A store that finds nothing, fails from then on and counts its calls: it is called twice, and its
refusal is what is returned. -/
theorem resolve_protocol_refused :
    let store : Store Nat :=
      ⟨fun _ n => ⟨if n = 0 then .ok none else .error .unwritable, [], n + 1⟩,
        fun _ _ n => ⟨.error .unwritable, [], n + 1⟩⟩
    let cl : CommandLine := { CommandLine.empty with configFile := some "gw.toml" }
    let path := Utf8.ofString "gw.toml"
    let run := resolve store.recording .standard cl (0, [])
    run.result = .error .unwritable ∧
      ∃ c, run.world = (2, [.load path, .persist path c]) := by
  intro store cl path run
  obtain ⟨-, -, hnamed⟩ := resolve_protocol store .standard cl 0 []
  obtain ⟨c, hworld, hresult⟩ := (hnamed "gw.toml" rfl).2 rfl
  exact ⟨hresult, c, hworld⟩

end Gateway
