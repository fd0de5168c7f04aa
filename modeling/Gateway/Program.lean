import Gateway.Config.Resolve
import Gateway.Service
import Gateway.Usage

/-!
# The program

The program does what its command line asks for. It prints the usage text or the versions, or it
runs the gateway until a signal ends it. What goes wrong is reported in one message, with the usage
text behind it where the command line itself is at fault, and the program fails. Until the
configuration is there, the log shows what is shown without debugging.
-/

namespace Gateway.Program

/-- The version of the program. -/
def version : String := "1.8.0"

/-- The version of the protocol that clients speak. -/
def protocol : String := "1.2.3"

/-- The text about the versions. -/
def versionText : String := "resgate  v" ++ version ++ "\nprotocol v" ++ protocol

/-! ### Preparing -/

/-- What is known before the gateway is started. -/
structure Prepared where
  /-- The configuration. -/
  config : Config
  /-- The levels up to which is logged from now on. -/
  levels : Log.Levels
  /-- The service, or why there is none. -/
  service : Except ServiceFault Service

/-- Resolves the configuration of a run and builds its service. -/
def prepare (t : FileTree) (cl : CommandLine) : Reply FileTree Prepared :=
  let r := resolve fileStore .standard cl t
  ⟨r.result.map fun c => ⟨c, .of c.debug c.trace, Service.build? r.world c⟩, r.log, r.world⟩

/-! ### Running -/

/-- What comes of a run of the program. -/
structure Report where
  /-- The exit code, if the run ends. -/
  exit : Option Nat
  /-- What is printed. -/
  output : String
  /-- What is reported about failures. -/
  errors : String
  /-- Whether the gateway was listening. -/
  served : Bool
  /-- What is logged before the levels are set, as far as it is shown. -/
  log : List Log.Event
  /-- The levels up to which is logged in the end. -/
  levels : Log.Levels
  /-- The files in the end. -/
  files : FileTree

/-- The levels until the configuration is there. -/
def firstLevels : Log.Levels := .of false false

/-- The report of a run that prints something. -/
def Report.printing (t : FileTree) (text : String) : Report :=
  { exit := some 0, output := text ++ "\n", errors := "", served := false, log := []
    levels := firstLevels, files := t }

/-- The report of a run without a configuration. -/
def Report.refusing (t : FileTree) (log : List Log.Event) (fault : ConfigFault) : Report :=
  let usage := if fault.showsUsage then Usage.text ++ "\n" else ""
  { exit := some 1, output := "", errors := fault.message ++ "\n" ++ usage, served := false
    log := log, levels := firstLevels, files := t }

/-- The report of a run that got to the service. -/
def Report.serving (t : FileTree) (log : List Log.Event) (levels : Log.Levels)
    (outcome : Option (Lifecycle.Outcome ServiceFault)) : Report :=
  let ended (exit : Option Nat) (errors : String) (served : Bool) : Report :=
    { exit := exit, output := "", errors := errors, served := served, log := log
      levels := levels, files := t }
  match outcome with
  | none => ended none "" true
  | some .clean => ended (some 0) "" true
  | some (.timeout _) => ended (some 134) "Shutdown timed out\n" true
  | some (.runtime e) =>
    ended (some 1) ((Lifecycle.Outcome.runtime e).message ServiceFault.message ++ "\n") true
  | some o => ended (some 1) (o.message ServiceFault.message ++ "\n") false

/-- The events that are shown before the levels are set. -/
def shown (log : List Log.Event) : List Log.Event :=
  log.filter fun e => firstLevels.gateway.admits e.level

/-- Runs the program. -/
def run (t : FileTree) (around : Service.Surroundings) (arguments : List Bytes) : Report :=
  match CommandLine.parse arguments with
  | .error fault => .refusing t [] (.commandLine fault)
  | .ok .help => .printing t Usage.text
  | .ok .version => .printing t versionText
  | .ok (.run cl) =>
    let r := prepare t cl
    match r.result with
    | .error fault => .refusing r.world (shown r.log) fault
    | .ok p =>
      .serving r.world (shown r.log) p.levels (Service.run r.world around p.config).outcome

end Gateway.Program
