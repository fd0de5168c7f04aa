import Gateway.Text.Utf8

/-!
# Terminal control sequences

Messages that quote what a user typed are written without terminal control: `strip` drops escape
sequences, control strings and control characters, and keeps tabs, line feeds, form feeds and
carriage returns. The sequences are those of ECMA-48 as a byte automaton reads them; a state says
what the bytes read so far have begun.
-/

namespace Gateway.Terminal

/-- What the bytes read so far have begun. -/
inductive State where
  /-- Plain text; `shown` tells whether the byte before was kept. -/
  | ground (shown : Bool)
  /-- An escape character. -/
  | escape
  /-- An escape sequence that waits for its final byte. -/
  | intermediate
  /-- A control sequence that waits for its final byte. -/
  | sequence
  /-- A device control string of which nothing is read. -/
  | deviceEntry
  /-- A device control string that is reading its parameters. -/
  | deviceParameters
  /-- A device control string that is reading its intermediate bytes. -/
  | deviceIntermediates
  /-- A control string that ends with a string terminator. -/
  | string
  /-- An operating system command. -/
  | command
  deriving DecidableEq, Repr

/-- Blank controls, which are kept outside control strings. -/
def isBlankControl (n : Nat) : Bool := n == 0x09 || n == 0x0A || n == 0x0C || n == 0x0D

/-- The state after a byte, and whether the byte is kept. -/
def step (s : State) (b : UInt8) : State × Bool :=
  let n := b.toNat
  if n = 0x18 ∨ n = 0x1A then (.ground false, false)
  else if n = 0x1B then (.escape, false)
  else
    match s with
    | .ground shown =>
      if n < 0x20 then (.ground (isBlankControl n), isBlankControl n)
      else if n < 0x7F then (.ground true, true)
      else if n < 0x80 then (.ground false, false)
      else if n < 0xC0 then (.ground shown, shown)
      else (.ground true, true)
    | .escape =>
      if n < 0x20 then (if isBlankControl n then (.ground true, true) else (s, false))
      else if n < 0x30 then (.intermediate, false)
      else if n = 0x50 then (.deviceEntry, false)
      else if n = 0x58 ∨ n = 0x5E ∨ n = 0x5F then (.string, false)
      else if n = 0x5B then (.sequence, false)
      else if n = 0x5D then (.command, false)
      else if n < 0x7F then (.ground false, false)
      else (s, false)
    | .intermediate =>
      if n < 0x20 then (if isBlankControl n then (.ground true, true) else (s, false))
      else if 0x30 ≤ n ∧ n < 0x7F then (.ground false, false)
      else (s, false)
    | .sequence =>
      if n < 0x20 then (if isBlankControl n then (.ground true, true) else (s, false))
      else if 0x40 ≤ n ∧ n < 0x7F then (.ground false, false)
      else (s, false)
    | .deviceEntry =>
      if n < 0x20 ∨ 0x7F ≤ n then (s, false)
      else if n < 0x30 then (.deviceIntermediates, false)
      else if n < 0x40 then (.deviceParameters, false)
      else (.string, false)
    | .deviceParameters =>
      if n < 0x20 ∨ 0x7F ≤ n then (s, false)
      else if n < 0x30 then (.deviceIntermediates, false)
      else if n < 0x3C then (s, false)
      else (.string, false)
    | .deviceIntermediates =>
      if n < 0x30 ∨ 0x7F ≤ n then (s, false) else (.string, false)
    | .string => if n = 0x9C then (.ground false, false) else (s, false)
    | .command => if n = 0x07 then (.ground false, false) else (s, false)

/-- The bytes that are kept from a state on. -/
def stripFrom (s : State) : Bytes → Bytes
  | [] => []
  | b :: bs => if (step s b).2 then b :: stripFrom (step s b).1 bs else stripFrom (step s b).1 bs

/-- A string without terminal control. -/
def strip (s : String) : String := Utf8.stringLossy (stripFrom (.ground false) (Utf8.ofString s))

/-- The first line of a text: up to the first line feed, less a carriage return before it. -/
def firstLine (cs : List Char) : List Char :=
  let line := cs.takeWhile (· ≠ '\n')
  if line.getLast? = some '\r' ∧ line ≠ cs then line.dropLast else line

end Gateway.Terminal
