import Gateway.Flag
import Gateway.Number.Decimal
import Gateway.Text.Terminal

/-!
# Values of flags

How the bytes given for a flag become a value, and why they may be refused. A switch takes the
words `true` and `false`, a number is a string of digits below 2^64 that may begin with a plus
sign, and text is any well-formed UTF-8. When a flag is given more than once, `Kind.combine`
keeps the last value, except that the values of a repeated flag are collected.

`CommandLine.Fault` lists the reasons for which a command line is refused, and
`CommandLine.Fault.message` words them.
-/

namespace Gateway

namespace CommandLine

/-- Why a string of characters is not a number. -/
inductive NumberFault where
  /-- There is no character. -/
  | empty
  /-- A character is no digit. -/
  | badDigit
  /-- The number does not fit into 64 bits. -/
  | tooLarge
  deriving DecidableEq, Repr

/-- The wording of a `NumberFault`. -/
def NumberFault.message : NumberFault → String
  | empty => "cannot parse integer from empty string"
  | badDigit => "invalid digit found in string"
  | tooLarge => "number too large to fit in target type"

/-- Why a command line is refused. -/
inductive Fault where
  /-- An argument that is no flag, or no known one, and no value either. -/
  | unexpected (argument : String)
  /-- A flag that needs a value stands without one. -/
  | missingValue (flag : Flag)
  /-- A text value is not well-formed UTF-8. -/
  | notText
  /-- The value of a switch is neither of the two words. -/
  | notSwitch (flag : Flag) (given : String)
  /-- The value of a number flag is not a number. -/
  | notNumber (flag : Flag) (given : String) (why : NumberFault)
  /-- The port number does not fit in sixteen bits. -/
  | portTooLarge (port : UInt64)
  deriving DecidableEq, Repr

namespace Fault

/-- What is wrong with the arguments, before terminal control is taken out. -/
def summary : Fault → String
  | unexpected argument => "unexpected argument '" ++ argument ++ "' found"
  | missingValue f => "a value is required for '" ++ f.usage ++ "' but none was supplied"
  | notText => "invalid UTF-8 was detected in one or more arguments"
  | notSwitch f given => "invalid value '" ++ given ++ "' for '" ++ f.usage ++ "'"
  | notNumber f given why =>
    "invalid value '" ++ given ++ "' for '" ++ f.usage ++ "': " ++ why.message
  | portTooLarge port =>
    "Invalid port \"" ++ Decimal.toString port.toNat ++ "\": must be less than 65536"

/-- The message for the user. All but the complaint about the port is a single line without
terminal control. -/
def message (fault : Fault) : String :=
  match fault with
  | portTooLarge _ => fault.summary
  | _ =>
    "Error parsing command arguments: " ++
      String.ofList (Terminal.firstLine (Terminal.strip fault.summary).toList)

end Fault

/-- Reads digits after a number read so far; the first fault in reading order counts. -/
def readDigits (n : Nat) : List Char → Except NumberFault Nat
  | [] => .ok n
  | c :: cs =>
    if !Decimal.isDigit c then .error .badDigit
    else if UInt64.size ≤ n * 10 + Decimal.digitValue c then .error .tooLarge
    else readDigits (n * 10 + Decimal.digitValue c) cs

/-- Reads a number: digits, after a plus sign or not. -/
def readNumber : List Char → Except NumberFault Nat
  | [] => .error .empty
  | ['+'] => .error .badDigit
  | '+' :: cs => readDigits 0 cs
  | cs => readDigits 0 cs

/-- Reads the bytes given for a flag. -/
def readValue (f : Flag) (given : Bytes) : (k : Kind) → Except Fault k.Value
  | .text =>
    match Utf8.string? given with
    | some s => .ok s
    | none => .error .notText
  | .switch =>
    let s := Utf8.stringLossy given
    if s = "true" then .ok true
    else if s = "false" then .ok false
    else if s = "" then .error (.missingValue f)
    else .error (.notSwitch f s)
  | .number =>
    match Utf8.string? given with
    | some s =>
      match readNumber s.toList with
      | .ok n => .ok (UInt64.ofNat n)
      | .error why => .error (.notNumber f s why)
    | none => .error .notText
  | .repeated =>
    match Utf8.string? given with
    | some s => .ok [s]
    | none => .error .notText

end CommandLine

/-- What a flag gives when it is given again. -/
def Kind.combine (k : Kind) (before : Option k.Value) (now : k.Value) : k.Value :=
  match k, before with
  | .repeated, some ss => ss ++ now
  | _, _ => now

/-! ### Values of several flags -/

/-- The values given for some of the flags. -/
def Flag.Values : Type := (f : Flag) → Option f.Value

namespace Flag.Values

/-- No values. -/
def empty : Values := fun _ => none

/-- The values after a flag is given, maybe again. -/
def record (vs : Values) (f : Flag) (value : f.Value) : Values := fun g =>
  if h : f = g then some (h ▸ f.kind.combine (vs f) value) else vs g

@[simp] theorem empty_apply (f : Flag) : empty f = none := rfl

@[simp] theorem record_self (vs : Values) (f : Flag) (value : f.Value) :
    vs.record f value f = some (f.kind.combine (vs f) value) := by
  simp [record]

theorem record_of_ne (vs : Values) {f g : Flag} (value : f.Value) (h : f ≠ g) :
    vs.record f value g = vs g := by
  simp [record, h]

end Flag.Values

end Gateway
