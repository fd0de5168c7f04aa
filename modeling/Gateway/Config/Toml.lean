import Gateway.Config.Fields
import Gateway.Toml.Document
import Gateway.Toml.Fault

/-!
# Configurations in TOML

A configuration document gives the settings under their keys at its top level. The document is
read as a whole before its entries are looked at, in the order in which they stand; entries with
other keys are skipped.

`Config.toToml` writes one line for each setting that is not absent. Numbers of a document lie
below 2^63, so a configuration with a larger timeout cannot be written.
-/

namespace Gateway

namespace Toml

open Document (Found Mismatch Wanted)

/-- What is found where some other value is wanted. -/
def Value.found : Value → Found
  | text s => .text s
  | integer n => .integer n
  | real x => .real x
  | switch b => .switch b
  | moment => .map
  | array => .sequence
  | inlineTable => .map

/-- What stands under a key: what is found there, and where. -/
def Node.found (key : Key) : Node → Found × Span
  | value v span => (v.found, span)
  | table _ _ span _ => (.map, span.getD key.span)
  | tables span _ => (.sequence, span)

/-- The contents of some shape that are found in a document. -/
def content? (shape : Setting.Shape) (found : Found) : Except Mismatch shape.Content :=
  match shape, found with
  | .text, .text s => .ok s
  | .switch, .switch b => .ok b
  | .port, .integer n =>
    if 0 ≤ n ∧ n < UInt16.size then .ok (UInt16.ofNat n.toNat)
    else .error (.range n (.content .port))
  | .duration, .integer n =>
    if 0 ≤ n then .ok (UInt64.ofNat n.toNat) else .error (.range n (.content .duration))
  | shape, found => .error (.kind found (.content shape))

/-- The layer with what the entries of a document give. -/
def readLayer (l : Layer) : Entries → Except Fault Layer
  | [] => .ok l
  | (key, node) :: rest =>
    match Setting.ofKey? key.name with
    | none => readLayer l rest
    | some s =>
      let (found, span) := node.found key
      match content? s.shape found with
      | .ok content => readLayer (l.set s content) rest
      | .error m => .error (.mismatch m span)

end Toml

/-- Reads a layer. -/
def Layer.ofToml (text : String) : Except Toml.Fault Layer :=
  match Toml.readDocument text.toList with
  | none => .error .malformed
  | some entries => Toml.readLayer .empty entries

/-- Contents as they stand in a document. -/
def Setting.Shape.toToml : (shape : Setting.Shape) → shape.Content → List Char
  | .text, s => Toml.writeText s.toList
  | .switch, b => if b then ['t', 'r', 'u', 'e'] else ['f', 'a', 'l', 's', 'e']
  | .port, n => Decimal.digits n.toNat
  | .duration, n => Decimal.digits n.toNat

/-- The line for a setting; none for an absent one. -/
def Config.tomlLine (c : Config) (s : Setting) : List Char :=
  match c.toLayer s with
  | some content => s.key.toList ++ ' ' :: '=' :: ' ' :: s.shape.toToml content ++ ['\n']
  | none => []

/-- A configuration as a document, if its timeout can be written. -/
def Config.toToml? (c : Config) : Option String :=
  if c.requestTimeout.toNat < Toml.integerLimit then
    some (String.ofList (Setting.inFile.flatMap c.tomlLine))
  else none

end Gateway
