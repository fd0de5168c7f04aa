import Gateway.Config.Basic
import Gateway.Network
import Gateway.Origin

/-!
# Settings of the server

Before the gateway serves, the part of the configuration that faces its clients is checked and
brought into the form in which it is used: the address to listen at, the method that authenticates
requests, the policy for origins, the encoding of resources, the certificate, and the paths. The
first setting that cannot be used is named.
-/

namespace Gateway

/-- The method of a resource that authenticates requests by their headers. -/
structure HeaderAuth where
  /-- The resource. -/
  resource : String
  /-- The method. -/
  method : String
  deriving DecidableEq, Repr

/-- How resources are encoded. -/
inductive Encoding where
  /-- With the resources that a resource refers to. -/
  | nested
  /-- Each by itself. -/
  | flat
  deriving DecidableEq, Repr

/-- The files that a server shows itself with. -/
structure TlsFiles where
  /-- The file of the certificate. -/
  certificate : String
  /-- The file of the private key. -/
  key : String
  deriving DecidableEq, Repr

/-- The checked settings of the server. -/
structure ServerSettings where
  /-- The address to listen at. -/
  ip : Ip
  /-- The port to listen at. -/
  port : UInt16
  /-- The path of the socket endpoint. -/
  socketPath : String
  /-- What the paths of resources begin with. -/
  resourcePath : String
  /-- The method that authenticates requests. -/
  headerAuth : Option HeaderAuth
  /-- The policy for origins. -/
  origins : OriginPolicy
  /-- The encoding of resources. -/
  encoding : Encoding
  /-- The files of the certificate, if connections are secured. -/
  tls : Option TlsFiles
  deriving DecidableEq

/-- Why a setting cannot be used. -/
inductive SettingFault where
  /-- The text is no internet address. -/
  | address (value : String)
  /-- The text is no method of a resource. -/
  | headerAuth (value : String)
  /-- The text is no policy for origins. -/
  | origins (fault : OriginPolicy.Fault)
  /-- The text names no encoding. -/
  | encoding (value : String)
  /-- Connections are to be secured without a certificate. -/
  | noCertificate
  /-- Connections are to be secured without a key. -/
  | noKey
  deriving DecidableEq, Repr

namespace SettingFault

/-- The wording of a fault of a setting with a text. -/
def wording (setting : Setting) (value reason : String) : String :=
  "invalid " ++ setting.key ++ " setting (" ++ value ++ "): " ++ reason

/-- The wording of a fault. -/
def message : SettingFault → String
  | address value => wording .addr value "not a valid IP address"
  | headerAuth value => wording .headerAuth value "must be a resource method (rid.method)"
  | origins (.combined value) =>
    wording .allowOrigin value "'*' and 'sop' must not be combined with other origins"
  | origins (.notOrigin entry) => wording .allowOrigin entry "not a valid origin"
  | encoding value => wording .apiEncoding value "must be json or jsonflat"
  | noCertificate => "certificate file not set"
  | noKey => "private key file not set"

end SettingFault

/-! ### Checking -/

/-- The method that a text writes behind the last dot, which holds no slash. -/
def HeaderAuth.ofString? (value : String) : Option HeaderAuth :=
  match Text.cutAtLast? '.' value.toList with
  | some (resource, method) =>
    if resource ≠ [] ∧ method ≠ [] ∧ '/' ∉ method then
      some ⟨String.ofList resource, String.ofList method⟩
    else none
  | none => none

/-- The encoding that a text names, in any letter case. -/
def Encoding.ofString? (value : String) : Option Encoding :=
  if Text.sameIgnoringCase value "json" then some .nested
  else if Text.sameIgnoringCase value "jsonflat" then some .flat
  else none

/-- A path with a slash in front. -/
def withSlashBefore (path : String) : String :=
  if path.toList.head? = some '/' then path else "/" ++ path

/-- A path with a slash at its end. -/
def withSlashBehind (path : String) : String :=
  if path.toList.getLast? = some '/' then path else path ++ "/"

namespace ServerSettings

/-- The files of the certificate of a configuration, if connections are secured. -/
def tlsOf? (c : Config) : Except SettingFault (Option TlsFiles) :=
  if !c.tls then .ok none
  else if c.tlsCert.isEmpty then .error .noCertificate
  else if c.tlsKey.isEmpty then .error .noKey
  else .ok (some ⟨c.tlsCert, c.tlsKey⟩)

/-- The value, or the fault if there is none. -/
def orFault {α : Type} (fault : SettingFault) (o : Option α) : Except SettingFault α :=
  match o with
  | some a => .ok a
  | none => .error fault

/-- The settings of a configuration. -/
def ofConfig? (c : Config) : Except SettingFault ServerSettings := do
  let address := c.addr.getD Config.defaultAddr
  let ip ← orFault (.address address) (Ip.ofString? address)
  let headerAuth ← match c.headerAuth with
    | none => .ok none
    | some value => (orFault (.headerAuth value) (HeaderAuth.ofString? value)).map some
  let origins ← match c.allowOrigin with
    | none => .ok .any
    | some value => (OriginPolicy.ofString? value).mapError .origins
  let encoding ← orFault (.encoding c.apiEncoding) (Encoding.ofString? c.apiEncoding)
  let tls ← tlsOf? c
  .ok
    { ip := ip
      port := c.port
      socketPath := withSlashBefore c.wsPath
      resourcePath := withSlashBehind (withSlashBefore c.apiPath)
      headerAuth := headerAuth
      origins := origins
      encoding := encoding
      tls := tls }

/-- The scheme of the server's addresses. -/
def scheme (s : ServerSettings) : String := if s.tls.isSome then "https" else "http"

/-- The endpoint to listen at. -/
def endpoint (s : ServerSettings) : Endpoint := ⟨s.ip, s.port⟩

end ServerSettings

end Gateway
