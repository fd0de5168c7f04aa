import Gateway.Http.Digest
import Gateway.Http.Message
import Gateway.Text.Base64

/-!
# The handshake of the socket endpoint

A request that wants a socket asks for an upgrade of its connection in a fixed way. The first of
the conditions that it does not meet is named. The last condition is that the connection can be
upgraded; a request that meets all of them gets its socket, and up to version 1.1 of the protocol
is told so by an answer to its key.
-/

namespace Gateway.Http

/-- A condition on a request for a socket. -/
inductive Condition where
  /-- The method is `GET`. -/
  | get
  /-- The method is `CONNECT`. -/
  | connect
  /-- The connection is to be upgraded. -/
  | connection
  /-- The upgrade is to a socket. -/
  | upgrade
  /-- There is a key. -/
  | key
  /-- The version of the socket protocol is 13. -/
  | version
  /-- The connection can be upgraded. -/
  | upgradable
  deriving DecidableEq, Repr

namespace Condition

/-- The response to a request that does not meet a condition. -/
def refusal : Condition → Response
  | get => .plain 405 "Request method must be \x60GET\x60"
  | connect => .plain 405 "Request method must be \x60CONNECT\x60"
  | connection => .plain 400 "Connection header did not include 'upgrade'"
  | upgrade => .plain 400 "\x60Upgrade\x60 header did not include 'websocket'"
  | key => .plain 400 "\x60Sec-WebSocket-Key\x60 header missing"
  | version => .plain 400 "\x60Sec-WebSocket-Version\x60 header did not include '13'"
  | upgradable =>
    .plain 426 "WebSocket request couldn't be upgraded since no upgrade state was present"

/-- Whether a text holds another one. -/
def holds (part : List Char) : List Char → Bool
  | [] => part.isEmpty
  | c :: cs => (Text.after? part (c :: cs)).isSome || holds part cs

/-- Whether a value is a text, up to letter case. -/
def isText (text : String) (value : Bytes) : Bool :=
  value.map (fun b => (Char.ofNat b.toNat).toLower) == text.toList

/-- Whether a request meets a condition. -/
def isMet (r : Request) : Condition → Bool
  | get => r.method == "GET"
  | connect => r.method == "CONNECT"
  | connection =>
    match (r.header? "connection").bind Utf8.decode? with
    | none => false
    | some value => holds "upgrade".toList (Text.lower value)
  | upgrade => (r.header? "upgrade").any (isText "websocket")
  | key => (r.header? "sec-websocket-key").isSome
  | version => (r.header? "sec-websocket-version").any (isText "13")
  | upgradable => r.isUpgradable

/-- The conditions on a request in a version of the protocol, in the order of their checks. -/
def all : Version → List Condition
  | .one => [get, connection, upgrade, key, version, upgradable]
  | .later => [connect, version, upgradable]

end Condition

/-- What a key is answered with: the digest of the key and of a text that stands for the protocol of
sockets. -/
def acceptOf (key : Bytes) : String :=
  let marked := key ++ Utf8.ofString "258EAFA5-E914-47DA-95CA-C5AB0DC85B11"
  String.ofList (Base64.encode (Sha1.digest marked))

/-- The response to a request that gets a socket. -/
def upgraded (r : Request) : Response :=
  match r.version with
  | .one =>
    let key := (r.header? "sec-websocket-key").getD []
    ⟨101, [("connection", Utf8.ofString "upgrade"), ("upgrade", Utf8.ofString "websocket"),
      ("sec-websocket-accept", Utf8.ofString (acceptOf key)),
      ("content-length", Utf8.ofString "0")], ""⟩
  | .later => ⟨200, [], ""⟩

/-- The response to a request for a socket. -/
def handshake (r : Request) : Response :=
  match (Condition.all r.version).find? fun c => !c.isMet r with
  | some c => c.refusal
  | none => upgraded r

end Gateway.Http
