import Gateway.CommandLine
import Gateway.Config.Json
import Gateway.Config.Toml
import Gateway.Log

/-!
# Where configurations are kept

A `Store` reads the layer that a file gives and creates a file from a configuration. Its two
operations act on a world of any kind, so that the resolution of a configuration can be looked at
over every store. `fileStore` is the store whose world is a file tree. It writes the format that
the extension of a file names, and never over anything that is there.
-/

namespace Gateway

/-! ### Formats -/

/-- The formats of configuration files. -/
inductive Format where
  | json
  | toml
  deriving DecidableEq, Repr

/-- The last name on a path, unless it is the name of the directory above. -/
def FileTree.lastName? (path : Bytes) : Option FileTree.Name :=
  match ((pieces path).filter fun n => n ≠ [] ∧ n ≠ here).getLast? with
  | none => none
  | some n => if n = above then none else some n

/-- The extension of a name: what follows its last dot, unless the name begins with that dot. -/
def FileTree.extension? (n : FileTree.Name) : Option Bytes :=
  let dot : UInt8 := 0x2E
  let reversed := n.reverse
  let extension := (reversed.takeWhile (· ≠ dot)).reverse
  match reversed.dropWhile (· ≠ dot) with
  | [] => none
  | [_] => none
  | _ => some extension

/-- The format of the file that a path names. -/
def Format.ofPath (path : Bytes) : Format :=
  match ((FileTree.lastName? path).bind FileTree.extension?).bind Utf8.decode? with
  | some extension =>
    if Text.sameLetters extension ['t', 'o', 'm', 'l'] then .toml else .json
  | none => .json

/-- Why a file holds no layer. -/
inductive DocumentFault where
  /-- A text in JSON is refused. -/
  | json (text : String) (fault : Json.Fault)
  /-- A text in TOML is refused. -/
  | toml (text : String) (fault : Toml.Fault)
  deriving DecidableEq, Repr

/-- The wording of a `DocumentFault`. -/
def DocumentFault.message : DocumentFault → String
  | json text fault => fault.message text.toList
  | toml text fault => fault.message text.toList

/-- Reads a layer. -/
def Format.decode (format : Format) (text : String) : Except DocumentFault Layer :=
  match format with
  | .json => (Layer.ofJson text).mapError (.json text)
  | .toml => (Layer.ofToml text).mapError (.toml text)

/-- Writes a configuration, if the format can. -/
def Format.encode? (format : Format) (c : Config) : Option String :=
  match format with
  | .json => some c.toJson
  | .toml => c.toToml?

/-! ### Stores -/

/-- Why there is no configuration. -/
inductive ConfigFault where
  /-- The command line is refused. -/
  | commandLine (fault : CommandLine.Fault)
  /-- The file cannot be read. -/
  | unreadable (path : Bytes) (problem : FileTree.Problem)
  /-- The file holds no layer. -/
  | malformed (path : Bytes) (fault : DocumentFault)
  /-- The configuration cannot be written in the format of the file. -/
  | unwritable
  deriving DecidableEq, Repr

namespace ConfigFault

/-- The message for the user. -/
def message : ConfigFault → String
  | commandLine fault => fault.message
  | unreadable path problem =>
    "Error loading config file " ++ Utf8.stringLossy path ++ ": " ++ problem.message
  | malformed path fault =>
    "Error parsing config file " ++ Utf8.stringLossy path ++ ": " ++ fault.message
  | unwritable => "Error encoding config: out-of-range value for u64 type"

/-- Whether the usage text goes with the message. -/
def showsUsage : ConfigFault → Bool
  | commandLine _ => true
  | _ => false

end ConfigFault

/-- What comes of an operation on a world: a result, what was logged, and the world after. -/
structure Reply (σ α : Type) where
  /-- The result. -/
  result : Except ConfigFault α
  /-- What was logged. -/
  log : List Log.Event
  /-- The world after the operation. -/
  world : σ

/-- A place where layers are read from and configurations are written to. -/
structure Store (σ : Type) where
  /-- Reads the layer under a path; nothing if there is no file. -/
  load : Bytes → σ → Reply σ (Option Layer)
  /-- Writes a configuration under a path, unless something is there. -/
  persistIfAbsent : Bytes → Config → σ → Reply σ Unit

/-- Reads the layer that a file gives. -/
def FileTree.load (path : Bytes) (t : FileTree) : Reply FileTree (Option Layer) :=
  match t.readText path with
  | .error .notFound => ⟨.ok none, [], t⟩
  | .error problem => ⟨.error (.unreadable path problem), [], t⟩
  | .ok text =>
    match (Format.ofPath path).decode text with
    | .error fault => ⟨.error (.malformed path fault), [], t⟩
    | .ok layer => ⟨.ok (some layer), [.fileLoaded path], t⟩

/-- Creates a file from a configuration. That the file cannot be created is logged, and is no
failure. As with `create`, a file that is created is written in full. -/
def FileTree.persistIfAbsent (path : Bytes) (c : Config) (t : FileTree) : Reply FileTree Unit :=
  match (Format.ofPath path).encode? c with
  | none => ⟨.error .unwritable, [], t⟩
  | some text =>
    match t.create path (Utf8.ofString text) with
    | .ok t' => ⟨.ok (), [.fileCreated path], t'⟩
    | .error problem => ⟨.ok (), [.fileNotCreated path problem], t⟩

/-- The store of a file tree. -/
def fileStore : Store FileTree := ⟨FileTree.load, FileTree.persistIfAbsent⟩

/-! ### Recorded calls -/

/-- A call of a store. -/
inductive StoreCall where
  /-- The layer under a path is read. -/
  | load (path : Bytes)
  /-- A configuration is written under a path. -/
  | persist (path : Bytes) (c : Config)
  deriving DecidableEq, Repr

/-- A store that notes its calls, the latest last. -/
def Store.recording {σ : Type} (store : Store σ) : Store (σ × List StoreCall) where
  load path world :=
    let r := store.load path world.1
    ⟨r.result, r.log, (r.world, world.2 ++ [.load path])⟩
  persistIfAbsent path c world :=
    let r := store.persistIfAbsent path c world.1
    ⟨r.result, r.log, (r.world, world.2 ++ [.persist path c])⟩

end Gateway
