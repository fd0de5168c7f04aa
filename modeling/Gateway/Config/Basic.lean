import Gateway.Setting

/-!
# Configurations

A `Config` holds something for every setting; four settings may be absent. `Layer.applyTo` lays
contents over a configuration: an empty text makes an optional setting absent. Values that are
still unset are filled in by `Config.withDefaults`.

Request timeouts are given in milliseconds. They used to be given in seconds, and so a timeout of
at most `Config.secondsLimit` is read as seconds by `Config.inMilliseconds`.
-/

namespace Gateway

/-- A configuration of the gateway. -/
structure Config where
  /-- Address of the message server. -/
  natsUrl : String
  /-- File with credentials for the message server. -/
  natsCreds : Option String
  /-- How long to wait for an answer of the message server, in milliseconds. -/
  requestTimeout : UInt64
  /-- Whether debugging events are logged. -/
  debug : Bool
  /-- Whether tracing events are logged. -/
  trace : Bool
  /-- Address to accept connections on. -/
  addr : Option String
  /-- Port to accept connections on. -/
  port : UInt16
  /-- Path of the socket endpoint. -/
  wsPath : String
  /-- Path under which resources are served. -/
  apiPath : String
  /-- Resource method that authenticates by headers. -/
  headerAuth : Option String
  /-- Origins that are allowed, separated by semicolons. -/
  allowOrigin : Option String
  /-- Encoding of served resources. -/
  apiEncoding : String
  /-- Whether connections are secured. -/
  tls : Bool
  /-- File of the certificate. -/
  tlsCert : String
  /-- File of the private key. -/
  tlsKey : String
  deriving DecidableEq, Repr

namespace Config

/-! ### Defaults -/

/-- The configuration in which nothing is set. -/
def unset : Config where
  natsUrl := ""
  natsCreds := none
  requestTimeout := 0
  debug := false
  trace := false
  addr := none
  port := 0
  wsPath := ""
  apiPath := ""
  headerAuth := none
  allowOrigin := none
  apiEncoding := ""
  tls := false
  tlsCert := ""
  tlsKey := ""

/-- The address to accept connections on if none is given. -/
def defaultAddr : String := "0.0.0.0"

/-- The configuration with defaults for the values that are unset. -/
def withDefaults (c : Config) : Config :=
  { c with
    natsUrl := if c.natsUrl = "" then "nats://127.0.0.1:4222" else c.natsUrl
    requestTimeout := if c.requestTimeout = 0 then 3000 else c.requestTimeout
    addr := some (c.addr.getD defaultAddr)
    port := if c.port = 0 then 8080 else c.port
    wsPath := if c.wsPath = "" then "/" else c.wsPath
    apiPath := if c.apiPath = "" then "/api/" else c.apiPath
    apiEncoding := if c.apiEncoding = "" then "json" else c.apiEncoding
    allowOrigin := some (c.allowOrigin.getD "*") }

/-- The configuration of a gateway that is told nothing. -/
def standard : Config := unset.withDefaults

/-! ### Timeouts in seconds -/

/-- Timeouts up to this one are taken for seconds. -/
def secondsLimit : UInt64 := 10

/-- Whether the request timeout is taken for seconds. -/
def isInSeconds (c : Config) : Bool := c.requestTimeout ≤ secondsLimit

/-- The configuration with its request timeout in milliseconds. -/
def inMilliseconds (c : Config) : Config :=
  if c.isInSeconds then { c with requestTimeout := c.requestTimeout * 1000 } else c

/-! ### Contents of settings -/

/-- An empty text stands for an absent one. -/
def nonempty? (s : String) : Option String := if s = "" then none else some s

/-- The configuration with new contents for one setting. -/
def put (c : Config) : (s : Setting) → s.Content → Config
  | .natsUrl, v => { c with natsUrl := v }
  | .natsCreds, v => { c with natsCreds := nonempty? v }
  | .requestTimeout, v => { c with requestTimeout := v }
  | .debug, v => { c with debug := v }
  | .trace, v => { c with trace := v }
  | .addr, v => { c with addr := nonempty? v }
  | .port, v => { c with port := v }
  | .wsPath, v => { c with wsPath := v }
  | .apiPath, v => { c with apiPath := v }
  | .headerAuth, v => { c with headerAuth := nonempty? v }
  | .allowOrigin, v => { c with allowOrigin := nonempty? v }
  | .apiEncoding, v => { c with apiEncoding := v }
  | .tls, v => { c with tls := v }
  | .tlsCert, v => { c with tlsCert := v }
  | .tlsKey, v => { c with tlsKey := v }

/-- The layer that gives all that the configuration holds. -/
def toLayer (c : Config) : Layer
  | .natsUrl => some c.natsUrl
  | .natsCreds => c.natsCreds
  | .requestTimeout => some c.requestTimeout
  | .debug => some c.debug
  | .trace => some c.trace
  | .addr => c.addr
  | .port => some c.port
  | .wsPath => some c.wsPath
  | .apiPath => some c.apiPath
  | .headerAuth => c.headerAuth
  | .allowOrigin => c.allowOrigin
  | .apiEncoding => some c.apiEncoding
  | .tls => some c.tls
  | .tlsCert => some c.tlsCert
  | .tlsKey => some c.tlsKey

end Config

/-- Lays the contents of a layer over a configuration. -/
def Layer.applyTo (l : Layer) (c : Config) : Config :=
  Setting.all.foldl (fun c s => match l s with | some v => c.put s v | none => c) c

end Gateway
