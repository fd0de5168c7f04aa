import Gateway.Config.Store

/-!
# Resolving configurations

The configuration of a run is put together from layers: a base, the file that the command line
names, and the command line itself, each over the ones before. Values that are still unset take
their defaults, and a timeout in seconds is turned into milliseconds. If the file was not there,
it is created from the result.
-/

namespace Gateway

/-- The base with the layers of the file and of the command line on top, and defaults for what
is still unset. -/
def CommandLine.merge (cl : CommandLine) (base : Config) (file : Layer) : Config :=
  (cl.toLayer.applyTo (file.applyTo base)).withDefaults

/-- The configuration that a base, a file and a command line make. -/
def CommandLine.settle (cl : CommandLine) (base : Config) (file : Layer) : Config :=
  (cl.merge base file).inMilliseconds

/-- What is logged when the configuration is put together. -/
def CommandLine.warnings (cl : CommandLine) (base : Config) (file : Layer) : List Log.Event :=
  let merged := cl.merge base file
  if merged.isInSeconds then
    [.timeoutInSeconds merged.requestTimeout merged.inMilliseconds.requestTimeout]
  else []

/-- Resolves the configuration of a run. -/
def resolve {σ : Type} (store : Store σ) (base : Config) (cl : CommandLine) (world : σ) :
    Reply σ Config :=
  let finished : Log.Event := .resolved cl.explicit
  match cl.configFile with
  | none =>
    ⟨.ok (cl.settle base .empty), cl.warnings base .empty ++ [finished], world⟩
  | some file =>
    let path := Utf8.ofString file
    let loaded := store.load path world
    match loaded.result with
    | .error fault => ⟨.error fault, loaded.log, loaded.world⟩
    | .ok (some layer) =>
      ⟨.ok (cl.settle base layer), loaded.log ++ cl.warnings base layer ++ [finished],
        loaded.world⟩
    | .ok none =>
      let c := cl.settle base .empty
      let log := loaded.log ++ cl.warnings base .empty
      let saved := store.persistIfAbsent path c loaded.world
      match saved.result with
      | .error fault => ⟨.error fault, log ++ saved.log, saved.world⟩
      | .ok () => ⟨.ok c, log ++ saved.log ++ [finished], saved.world⟩

end Gateway
