import Gateway.Config.Basic
import Gateway.FileTree.Basic
import Gateway.Number.Decimal
import Gateway.Text.Ascii

/-!
# The log

The events that the gateway logs while it works out its configuration, and the levels up to which
it logs. Debugging and tracing raise the level for the gateway itself; for what it is built on
the level stays at `info`, except that HTTP traffic is logged down to `debug` or `trace` as well.
-/

namespace Gateway.Log

/-- How important an event is. -/
inductive Level where
  | trace
  | debug
  | info
  | warn
  deriving DecidableEq, Repr

/-- The wording of a level. -/
def Level.name : Level → String
  | trace => "trace"
  | debug => "debug"
  | info => "info"
  | warn => "warn"

/-- How much is shown where all of a level is: the greater, the less important. -/
def Level.depth : Level → Nat
  | trace => 3
  | debug => 2
  | info => 1
  | warn => 0

/-- Whether an event of a level is shown where all events down to another one are. -/
def Level.admits (limit level : Level) : Bool := level.depth ≤ limit.depth

/-- What is logged. -/
inductive Event where
  /-- A configuration file was read. -/
  | fileLoaded (path : Bytes)
  /-- A configuration file was created. -/
  | fileCreated (path : Bytes)
  /-- A configuration file could not be created. -/
  | fileNotCreated (path : Bytes) (problem : FileTree.Problem)
  /-- A timeout was taken for seconds. -/
  | timeoutInSeconds (given used : UInt64)
  /-- The configuration is complete; some settings came from the command line. -/
  | resolved (explicit : List Setting)
  deriving DecidableEq, Repr

/-- The level of an event. -/
def Event.level : Event → Level
  | fileLoaded _ => .debug
  | fileCreated _ => .info
  | fileNotCreated _ _ => .warn
  | timeoutInSeconds _ _ => .warn
  | resolved _ => .debug

/-- The wording of an event. -/
def Event.text : Event → String
  | fileLoaded path => "Config file loaded path=" ++ Utf8.stringLossy path
  | fileCreated path => "Created config file with defaults path=" ++ Utf8.stringLossy path
  | fileNotCreated path problem =>
    "Failed to write config file path=" ++ Utf8.stringLossy path ++ " error=" ++ problem.message
  | timeoutInSeconds given used =>
    "[DEPRECATED] Request timeout should be in milliseconds. Change your requestTimeout from " ++
      Decimal.toString given.toNat ++ " to " ++ Decimal.toString used.toNat ++
      ", and you won't be bothered anymore."
  | resolved explicit =>
    "Configuration resolved overrides=[" ++
      ", ".intercalate (explicit.map Setting.name) ++ "]"

/-- The level in capital letters, and the wording. A line has no blanks at its end. -/
def Event.line (e : Event) : String :=
  String.ofList (Text.trimEnd (e.level.name.toUpper ++ " " ++ e.text).toList)

/-! ### Levels -/

/-- The levels up to which is logged. -/
structure Levels where
  /-- For the gateway itself. -/
  gateway : Level
  /-- For the traffic of its server. -/
  traffic : Level
  /-- For everything else. -/
  other : Level
  deriving DecidableEq, Repr

/-- The levels that debugging and tracing ask for; tracing includes debugging. -/
def Levels.of (debug trace : Bool) : Levels :=
  if trace then ⟨.trace, .trace, .info⟩
  else if debug then ⟨.debug, .debug, .info⟩
  else ⟨.info, .info, .info⟩

/-- The levels as they are written: the one for everything else, and those that differ. -/
def Levels.directive (l : Levels) : String :=
  l.other.name ++
    (if l.gateway = l.other then "" else ",resgate=" ++ l.gateway.name) ++
    (if l.traffic = l.other then "" else ",tower_http=" ++ l.traffic.name)

/-- Whether debugging output of the gateway is shown. -/
def Levels.showsDebug (l : Levels) : Bool := l.gateway.admits .debug

end Gateway.Log
