import Gateway.Ip

/-!
# Listening

A server listens at an endpoint, which is an address and a port. No two listeners of a network may
share a port unless their addresses lie apart: the unspecified address of a version stands for all
addresses of that version, and that of version 6 for those of version 4 as well. Port zero asks for
any free port.

A machine may refuse an endpoint for reasons of its own: it has no such address, or it keeps the
port for others. A listener that was bound has to be made ready before it is used, which may fail
too.
-/

namespace Gateway

namespace Ip

/-- The unspecified address of version 4. -/
def anyV4 : Ip := .v4 ⟨0, 0, 0, 0⟩

/-- The unspecified address of version 6. -/
def anyV6 : Ip := .v6 ⟨List.replicate 8 0, rfl⟩

/-- Whether an address stands for another one. -/
def covers (a b : Ip) : Bool :=
  a = b || a = anyV6 ||
    match a, b with
    | .v4 _, .v4 _ => a = anyV4
    | _, _ => false

end Ip

/-- An address and a port. -/
structure Endpoint where
  /-- The address. -/
  ip : Ip
  /-- The port. -/
  port : UInt16
  deriving DecidableEq

namespace Endpoint

/-- The written form of an endpoint. -/
def toString (e : Endpoint) : String := e.ip.withPort e.port

/-- The endpoint that a text writes; an address of version 6 stands in brackets. -/
def ofText? (cs : List Char) : Option Endpoint :=
  match Text.cutAtLast? ':' cs with
  | none => none
  | some (front, digits) =>
    let ip : Option Ip :=
      match front with
      | '[' :: rest =>
        if rest.getLast? = some ']' then (Ipv6.ofText? rest.dropLast).map .v6 else none
      | _ => (Ipv4.ofText? front).map .v4
    match ip, Decimal.read? 65535 digits with
    | some ip, some port => some ⟨ip, .ofNat port⟩
    | _, _ => none

/-- The endpoint that a string writes. -/
def ofString? (s : String) : Option Endpoint := ofText? s.toList

/-- Whether two endpoints cannot both be listened at. -/
def clashes (a b : Endpoint) : Bool :=
  a.port = b.port && (a.ip.covers b.ip || b.ip.covers a.ip)

end Endpoint

/-- The endpoints that are listened at. -/
structure Network where
  /-- The endpoints. -/
  listening : List Endpoint

/-- An error that a system reports, in words and as a number. -/
structure SystemError where
  /-- The words. -/
  text : String
  /-- The number. -/
  number : Nat
  deriving DecidableEq, Repr

namespace SystemError

/-- The wording of an error. -/
def message (e : SystemError) : String :=
  e.text ++ " (os error " ++ Decimal.toString e.number ++ ")"

/-- The endpoint is taken. -/
def addressInUse : SystemError := ⟨"Address already in use", 98⟩

end SystemError

/-- Why an endpoint cannot be listened at. -/
inductive ListenFault where
  /-- It cannot be bound. -/
  | bind (e : Endpoint) (reason : SystemError)
  /-- Its listener cannot be made ready. -/
  | configure (reason : SystemError)
  deriving DecidableEq

/-- The wording of a fault. -/
def ListenFault.message : ListenFault → String
  | bind e reason => "Failed to bind " ++ e.toString ++ ": " ++ reason.message
  | configure reason => "Failed to configure listener: " ++ reason.message

namespace Network

/-- The network without listeners. -/
def idle : Network := ⟨[]⟩

/-- The ports that are given to those who ask for any. -/
def spares : List UInt16 := (List.range' 49152 16384).map UInt16.ofNat

/-- The endpoint that is listened at when one is asked for. -/
def choose? (n : Network) (e : Endpoint) : Option Endpoint :=
  let isFree (e : Endpoint) : Bool := !n.listening.any e.clashes
  if e.port = 0 then (spares.map (⟨e.ip, ·⟩)).find? isFree
  else if isFree e then some e
  else none

/-- Listens at an endpoint: the endpoint with its port, and the network with the new listener. -/
def listen? (n : Network) (e : Endpoint) : Except ListenFault (Endpoint × Network) :=
  match n.choose? e with
  | some e => .ok (e, ⟨e :: n.listening⟩)
  | none => .error (.bind e .addressInUse)

end Network

/-- A machine: its network, and what it refuses. -/
structure Machine where
  /-- The network. -/
  network : Network
  /-- Why an endpoint may not be bound, whether it is taken or not. -/
  refusal? : Endpoint → Option SystemError
  /-- Why a listener at an endpoint cannot be made ready. -/
  unready? : Endpoint → Option SystemError

/-- A network alone is that of a machine that refuses nothing. -/
instance : Coe Network Machine := ⟨fun n => ⟨n, fun _ => none, fun _ => none⟩⟩

/-- Listens at an endpoint: the endpoint with its port, and the machine with the new listener. -/
def Machine.listen? (m : Machine) (e : Endpoint) : Except ListenFault (Endpoint × Machine) :=
  match m.refusal? e with
  | some reason => .error (.bind e reason)
  | none =>
    match m.network.listen? e with
    | .error fault => .error fault
    | .ok (bound, n) =>
      match m.unready? bound with
      | some reason => .error (.configure reason)
      | none => .ok (bound, { m with network := n })

end Gateway
