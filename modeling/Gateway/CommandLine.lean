import Gateway.CommandLine.Reader
import Gateway.Config.Basic
import Gateway.Text.Ascii

/-!
# Command lines

What a command line asks for: the usage text, the version, or a run of the gateway under some
`CommandLine`, which is a configuration file, maybe, and values for some of the settings. These
values form a layer that goes on top of what the file gives.

Of the requests, the usage text comes before the version and the version before a run; a port
that is too large is refused before any of them.
-/

namespace Gateway

/-- What a command line says about the configuration. -/
structure CommandLine where
  /-- The configuration file, if one is named. -/
  configFile : Option String
  /-- The values given for settings. -/
  given : (s : Setting) → Option (Flag.setting s).Value

/-- What a command line asks for. -/
inductive Invocation where
  /-- The usage text. -/
  | help
  /-- The version. -/
  | version
  /-- A run of the gateway. -/
  | run (commandLine : CommandLine)

namespace CommandLine

/-- The command line without arguments. -/
def empty : CommandLine := ⟨none, fun _ => none⟩

/-- The settings that have values, in the order of the log. -/
def explicit (cl : CommandLine) : List Setting :=
  Setting.all.filter fun s => (cl.given s).isSome

/-- What a flag gives for its setting. A port of zero gives nothing. -/
def content? : (s : Setting) → (Flag.setting s).Value → Option s.Content
  | .natsUrl, v => some v
  | .addr, v => some v
  | .port, v => if v.toNat < UInt16.size ∧ v ≠ 0 then some v.toUInt16 else none
  | .wsPath, v => some v
  | .apiPath, v => some v
  | .headerAuth, v => some v
  | .tls, v => some v
  | .tlsCert, v => some v
  | .tlsKey, v => some v
  | .apiEncoding, v => some v
  | .requestTimeout, v => some v
  | .natsCreds, v => some v
  | .allowOrigin, v => some (Text.joinStrings ';' v)
  | .debug, v => some v
  | .trace, v => some v

/-- The layer that the command line gives. -/
def toLayer (cl : CommandLine) : Layer := fun s => (cl.given s).bind (content? s)

/-- What the values given for flags ask for. -/
def ofFlags (values : Flag.Values) : Except Fault Invocation :=
  if let some port := values (.setting .port) then
    if UInt16.size ≤ port.toNat then .error (.portTooLarge port) else .ok (request values)
  else .ok (request values)
where
  /-- What is asked for when the port is not too large. -/
  request (values : Flag.Values) : Invocation :=
    if values .help = some true then .help
    else if values .version = some true then .version
    else .run ⟨(values .config).bind Config.nonempty?, fun s => values (.setting s)⟩

/-- Reads a command line, given without the name of the program. -/
def parse (arguments : List Bytes) : Except Fault Invocation :=
  match readFlags arguments with
  | .ok values => ofFlags values
  | .error fault => .error fault

end CommandLine

end Gateway
