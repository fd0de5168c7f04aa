import Gateway.CommandLine.Value

/-!
# Reading arguments

The arguments are read from left to right. A long flag brings its value attached with an equals
sign or takes it from the next argument; several short switches may stand in one argument, in
front of at most one short flag whose value is the rest of the argument or the next one. A value
is examined when the flag after it is met, or at the end, so of two faults the one that is met
first in this sense is the one that is reported. `--` ends the flags, and since the gateway takes
no other arguments, nothing may follow it.
-/

namespace Gateway.CommandLine

/-- A flag that is not settled yet. -/
inductive Pending where
  /-- No flag waits. -/
  | nothing
  /-- The flag waits for the argument that is its value. -/
  | awaiting (flag : Flag)
  /-- The flag has its value, which is not examined yet. -/
  | holding (flag : Flag) (value : Bytes)

/-- What has been read of a command line. -/
structure Reader where
  /-- The values that are settled. -/
  values : Flag.Values
  /-- The flag that is not. -/
  pending : Pending
  /-- Whether `--` was read. -/
  isClosed : Bool

namespace Reader

/-- Nothing has been read. -/
def start : Reader := ⟨.empty, .nothing, false⟩

/-- Records a value for a flag. -/
def record (r : Reader) (f : Flag) (given : Bytes) : Except Fault Reader :=
  match readValue f given f.kind with
  | .ok value => .ok { r with values := r.values.record f value, pending := .nothing }
  | .error fault => .error fault

/-- Settles the flag that waits. -/
def settle (r : Reader) : Except Fault Reader :=
  match r.pending with
  | .nothing => .ok r
  | .awaiting f => .error (.missingValue f)
  | .holding f given => r.record f given

/-- Meets a flag with its value attached. -/
def attach (r : Reader) (f : Flag) (given : Bytes) : Except Fault Reader :=
  match r.settle with
  | .ok r => r.record f given
  | .error fault => .error fault

/-- Meets a flag without a value: a switch is on, any other flag waits. -/
def meet (r : Reader) (f : Flag) : Except Fault Reader :=
  match r.settle with
  | .error fault => .error fault
  | .ok r =>
    if f.kind = .switch then r.record f (Utf8.ofString "true")
    else .ok { r with pending := .awaiting f }

/-- Reads the text after `--`: a long name, and what is attached to it. -/
def readLong (r : Reader) (body : Bytes) : Except Fault Reader :=
  let equals : UInt8 := 0x3D
  let long := body.takeWhile (· ≠ equals)
  match (Utf8.string? long).bind Flag.ofLong? with
  | none => .error (.unexpected ("--" ++ Utf8.stringLossy long))
  | some f =>
    match body.dropWhile (· ≠ equals) with
    | [] => r.meet f
    | _ :: given => r.attach f given

/-- Reads the text after a single hyphen: the characters of its well-formed part are short names
up to the first that takes the rest as its value; `invalid` follows the well-formed part. -/
def readShorts (r : Reader) (invalid : Bytes) : List Char → Except Fault Reader
  | [] =>
    if invalid = [] then .ok r else .error (.unexpected ("-" ++ Utf8.stringLossy invalid))
  | c :: cs =>
    match Flag.ofShort? c with
    | none => .error (.unexpected ("-" ++ String.ofList [c]))
    | some f =>
      match cs with
      | '=' :: given => r.attach f (Utf8.encode given ++ invalid)
      | _ =>
        if f.kind = .switch then
          match r.meet f with
          | .ok r => r.readShorts invalid cs
          | .error fault => .error fault
        else if cs = [] ∧ invalid = [] then r.meet f
        else r.attach f (Utf8.encode cs ++ invalid)

/-- Meets an argument that is no flag: the value of the flag that waits for one. -/
def takeValue (r : Reader) (argument : Bytes) : Except Fault Reader :=
  match r.pending with
  | .awaiting f => .ok { r with pending := .holding f argument }
  | _ => .error (.unexpected (Utf8.stringLossy argument))

/-- Reads one argument. -/
def step (r : Reader) (argument : Bytes) : Except Fault Reader :=
  let hyphen : UInt8 := 0x2D
  if r.isClosed then .error (.unexpected (Utf8.stringLossy argument))
  else if argument = [hyphen, hyphen] then .ok { r with isClosed := true }
  else
    match argument with
    | a :: b :: rest =>
      if a = hyphen ∧ b = hyphen then r.readLong rest
      else if a = hyphen then
        let front := Utf8.wellFormedFront (b :: rest)
        r.readShorts front.2 front.1
      else r.takeValue argument
    | _ => r.takeValue argument

/-- Reads arguments. -/
def run (r : Reader) : List Bytes → Except Fault Reader
  | [] => .ok r
  | argument :: rest =>
    match r.step argument with
    | .ok r => r.run rest
    | .error fault => .error fault

end Reader

/-- The values that arguments give for flags. -/
def readFlags (arguments : List Bytes) : Except Fault Flag.Values :=
  match Reader.start.run arguments with
  | .error fault => .error fault
  | .ok r =>
    match r.settle with
    | .ok r => .ok r.values
    | .error fault => .error fault

end Gateway.CommandLine
