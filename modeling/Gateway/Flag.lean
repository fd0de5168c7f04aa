import Gateway.Setting

/-!
# Command-line flags

Each setting has a flag, and three more flags ask for the usage text, ask for the version and
name a configuration file. A flag has a long spelling, for some flags a short one of a single
letter, and a kind, which fixes what values it takes. All that the parser and the usage text know
of a flag stands in its `Flag.entry`.
-/

namespace Gateway

/-- The kinds of values that flags take. -/
inductive Kind where
  /-- One string. -/
  | text
  /-- On or off; the bare flag means on. -/
  | switch
  /-- One natural number below 2^64. -/
  | number
  /-- A string for each time the flag is given. -/
  | repeated
  deriving DecidableEq, Repr

/-- What a flag of some kind gives. -/
abbrev Kind.Value : Kind → Type
  | text => String
  | switch => Bool
  | number => UInt64
  | repeated => List String

/-- What the command line can mention. -/
inductive Flag where
  /-- Asks for the usage text. -/
  | help
  /-- Asks for the version. -/
  | version
  /-- Names the configuration file. -/
  | config
  /-- Gives a value for a setting. -/
  | setting (s : Setting)
  deriving DecidableEq, Repr

/-- The groups of the usage text. -/
inductive Flag.Group where
  | server
  | logging
  | common
  deriving DecidableEq, Repr

/-- The heading of a group. -/
def Flag.Group.title : Flag.Group → String
  | server => "Server Options"
  | logging => "Logging Options"
  | common => "Common Options"

/-- What is known of a flag. -/
structure Flag.Entry where
  /-- The long spelling, without its hyphens. -/
  long : String
  /-- The short spelling, without its hyphen. -/
  short : Option Char
  /-- How the usage text calls the value, for flags that need one. -/
  placeholder : Option String
  /-- What the usage text says about the flag. -/
  help : String
  /-- The group under which it says so. -/
  group : Flag.Group

namespace Flag

/-- The kind of a flag's values. -/
@[reducible] def kind : Flag → Kind
  | help | version => .switch
  | config => .text
  | setting s =>
    match s with
    | .debug | .trace | .tls => .switch
    | .port | .requestTimeout => .number
    | .allowOrigin => .repeated
    | .natsUrl | .addr | .wsPath | .apiPath | .headerAuth | .tlsCert | .tlsKey | .apiEncoding
    | .natsCreds => .text

/-- What a flag gives. -/
abbrev Value (f : Flag) : Type := f.kind.Value

/-- The entry of a flag. -/
def entry : Flag → Entry
  | help => ⟨"help", 'h', none, "Show this message", .common⟩
  | version => ⟨"version", 'v', none, "Show version", .common⟩
  | config => ⟨"config", 'c', "file", "Configuration file", .server⟩
  | setting s =>
    match s with
    | .natsUrl =>
      ⟨"nats", 'n', "url", "NATS Server URL (default: nats://127.0.0.1:4222)", .server⟩
    | .addr => ⟨"addr", 'i', "host", "Bind to HOST address (default: 0.0.0.0)", .server⟩
    | .port => ⟨"port", 'p', "port", "HTTP port for client connections (default: 8080)", .server⟩
    | .wsPath => ⟨"wspath", 'w', "path", "WebSocket path for clients (default: /)", .server⟩
    | .apiPath =>
      ⟨"apipath", 'a', "path", "Web resource path for clients (default: /api/)", .server⟩
    | .headerAuth =>
      ⟨"headauth", 'u', "method", "Resource method for header authentication", .server⟩
    | .tls => ⟨"tls", none, none, "Enable TLS for HTTP (default: false)", .server⟩
    | .tlsCert => ⟨"tlscert", none, "file", "HTTP server certificate file", .server⟩
    | .tlsKey => ⟨"tlskey", none, "file", "Private key for HTTP server certificate", .server⟩
    | .apiEncoding =>
      ⟨"apiencoding", none, "type", "Encoding for web resources: json, jsonflat (default: json)",
        .server⟩
    | .requestTimeout =>
      ⟨"reqtimeout", 'r', "milliseconds", "Timeout duration for NATS requests (default: 3000)",
        .server⟩
    | .natsCreds => ⟨"creds", none, "file", "NATS User Credentials file", .server⟩
    | .allowOrigin =>
      ⟨"alloworigin", none, "origin", "Allowed origin(s) for CORS: *, sop, <origin> (default: *)",
        .server⟩
    | .debug => ⟨"debug", 'D', none, "Enable debugging output", .logging⟩
    | .trace => ⟨"trace", 'V', none, "Enable trace logging", .logging⟩

/-- The name under which tools list the flag. -/
def name : Flag → String
  | help => "Help"
  | version => "Version"
  | config => "ConfigFile"
  | setting s => s.name

/-- The flags in the order of the usage text. -/
def all : List Flag :=
  [setting .natsUrl, setting .addr, setting .port, setting .wsPath, setting .apiPath,
    setting .requestTimeout, setting .headerAuth, setting .tls, setting .tlsCert,
    setting .tlsKey, setting .apiEncoding, setting .natsCreds, setting .allowOrigin, config,
    setting .debug, setting .trace, help, version]

theorem mem_all (f : Flag) : f ∈ all := by
  cases f with
  | setting s => cases s <;> decide
  | _ => decide

/-- The flag with a long spelling. -/
def ofLong? (long : String) : Option Flag := all.find? fun f => f.entry.long == long

/-- The flag with a short spelling. -/
def ofShort? (short : Char) : Option Flag := all.find? fun f => f.entry.short == some short

/-- A flag is found by its long spelling. -/
theorem ofLong?_long (f : Flag) : ofLong? f.entry.long = some f := by
  cases f with
  | setting s => cases s <;> decide
  | _ => decide

/-- A flag is found by its short spelling, if it has one. -/
theorem ofShort?_short {f : Flag} {c : Char} (h : f.entry.short = some c) :
    ofShort? c = some f := by
  revert c
  cases f with
  | setting s => cases s <;> simp only [entry] <;> intro c h <;> cases h <;> rfl
  | _ => simp only [entry]; intro c h; cases h; rfl

/-- How messages write the flag: with its placeholder, or with its name where a value is rare. -/
def usage (f : Flag) : String :=
  match f.entry.placeholder with
  | some p => "--" ++ f.entry.long ++ " <" ++ p ++ ">"
  | none => "--" ++ f.entry.long ++ "[=<" ++ f.entry.long ++ ">]"

end Flag

end Gateway
