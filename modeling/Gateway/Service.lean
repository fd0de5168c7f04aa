import Gateway.Lifecycle.Run
import Gateway.Network
import Gateway.Tls.Material
import Gateway.Uplink

/-!
# The service

The gateway as a service that is built from a configuration, started, and stopped. What can be
checked without the network is checked when the service is built: first the settings of the server,
then the link to the message server, then the certificate. Nothing is listened at before the start.
-/

namespace Gateway

/-- Why the service cannot be built or started. -/
inductive ServiceFault where
  /-- A setting of the server cannot be used. -/
  | setting (fault : SettingFault)
  /-- There can be no link to the message server. -/
  | uplink (fault : UplinkFault)
  /-- The server cannot show itself. -/
  | tls (fault : TlsFault)
  /-- The server cannot listen. -/
  | listen (fault : ListenFault)
  deriving DecidableEq

/-- The wording of a fault. -/
def ServiceFault.message : ServiceFault → String
  | setting fault => fault.message
  | uplink fault => fault.message
  | tls fault => "failed to load TLS material: " ++ fault.message
  | listen fault => fault.message

/-- The gateway, ready to be started. -/
structure Service where
  /-- The settings of the server. -/
  settings : ServerSettings
  /-- The settings of the link to the message server. -/
  uplink : Uplink
  /-- The certificate and its key, if connections are secured. -/
  material : Option TlsMaterial
  deriving DecidableEq

namespace Service

/-- The material that settings ask for. -/
def material? (t : FileTree) (s : ServerSettings) : Except TlsFault (Option TlsMaterial) :=
  match s.tls with
  | none => .ok none
  | some files => (TlsMaterial.load? t files).map some

/-- Builds the service of a configuration, with the files that are there. -/
def build? (t : FileTree) (c : Config) : Except ServiceFault Service := do
  let settings ← (ServerSettings.ofConfig? c).mapError .setting
  let uplink ← (Uplink.ofConfig? t c).mapError .uplink
  let material ← (material? t settings).mapError .tls
  .ok ⟨settings, uplink, material⟩

/-- Starts the service: the machine with its listener. -/
def start? (m : Machine) (s : Service) : Except ServiceFault Machine :=
  ((m.listen? s.settings.endpoint).map (·.2)).mapError .listen

/-! ### Running -/

/-- How long open connections may go on when the service stops, in milliseconds. -/
def drainTimeout : Nat := 5000

/-- What a service meets when it runs. -/
structure Surroundings where
  /-- The machine that it runs on. -/
  machine : Machine
  /-- When a signal comes, counted from the start, if one comes. -/
  signal : Option Nat
  /-- How long open connections would go on. -/
  busy : Nat

/-- The fault in place of a value. -/
def faultOf? {ε α : Type} : Except ε α → Option ε
  | .error e => some e
  | .ok _ => none

/-- The behaviour of the service of a configuration. It does not end by itself. -/
def script (t : FileTree) (around : Surroundings) (c : Config) : Lifecycle.Script ServiceFault :=
  let built := build? t c
  { build := ⟨0, faultOf? built⟩
    start := ⟨0, faultOf? (built.bind (start? around.machine))⟩
    wait := .forEither around.signal none
    stop := .takes (min around.busy drainTimeout)
    deadline := Lifecycle.defaultDeadline
    linger := none }

/-- The run of the service of a configuration. -/
def run (t : FileTree) (around : Surroundings) (c : Config) : Lifecycle.Run ServiceFault :=
  Lifecycle.run (script t around c)

end Service

end Gateway
