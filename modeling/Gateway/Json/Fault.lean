import Gateway.Document.Mismatch
import Gateway.Text.Utf8

/-!
# Faults in JSON texts

A fault is a problem and the place where it was noticed. Readers work on what is left of a text,
so a place is kept as the number of bytes that are left behind it; `Fault.message` turns it into
a line and a column of the whole text.
-/

namespace Gateway.Json

/-- What may be wrong with a JSON text. -/
inductive Problem where
  /-- The text ends where a value is wanted, or inside of one. -/
  | endInValue
  /-- The text ends in a list. -/
  | endInList
  /-- The text ends in an object. -/
  | endInObject
  /-- The text ends in a string. -/
  | endInString
  /-- No colon stands behind a key. -/
  | missingColon
  /-- No comma stands behind an element. -/
  | missingListComma
  /-- No comma stands behind a member. -/
  | missingObjectComma
  /-- No value begins where one is wanted. -/
  | missingValue
  /-- What begins like `true`, `false` or `null` goes on otherwise. -/
  | badWord
  /-- A backslash stands in front of no escape. -/
  | badEscape
  /-- A numeral is ill-formed. -/
  | badNumber
  /-- A number is too large to be rounded. -/
  | numberOutOfRange
  /-- A control character stands in a string. -/
  | controlCharacter
  /-- No string stands where a key is wanted. -/
  | keyIsNoString
  /-- An escape is one half of a pair of surrogates, without the other. -/
  | loneSurrogate
  /-- No escape follows the first half of a pair. -/
  | unfinishedSurrogates
  /-- A comma stands in front of the closing bracket. -/
  | trailingComma
  /-- Something stands behind the whole value. -/
  | trailingCharacters
  /-- A value is well-formed, and not what is wanted. -/
  | mismatch (m : Document.Mismatch)
  deriving DecidableEq, Repr

/-- The wording of a problem. -/
def Problem.message : Problem → String
  | endInValue => "EOF while parsing a value"
  | endInList => "EOF while parsing a list"
  | endInObject => "EOF while parsing an object"
  | endInString => "EOF while parsing a string"
  | missingColon => "expected \x60:\x60"
  | missingListComma => "expected \x60,\x60 or \x60]\x60"
  | missingObjectComma => "expected \x60,\x60 or \x60\x7d\x60"
  | missingValue => "expected value"
  | badWord => "expected ident"
  | badEscape => "invalid escape"
  | badNumber => "invalid number"
  | numberOutOfRange => "number out of range"
  | controlCharacter => "control character (\\u0000-\\u001F) found while parsing a string"
  | keyIsNoString => "key must be a string"
  | loneSurrogate => "lone leading surrogate in hex escape"
  | unfinishedSurrogates => "unexpected end of hex escape"
  | trailingComma => "trailing comma"
  | trailingCharacters => "trailing characters"
  | mismatch m => m.message Binary64.toCompact

/-- A problem, and how many bytes of the text lie behind the place where it was noticed. -/
structure Fault where
  /-- What is wrong. -/
  problem : Problem
  /-- How many bytes are left. -/
  left : Nat
  deriving DecidableEq, Repr

/-- A fault in front of a text. -/
def Fault.before (problem : Problem) (rest : List Char) : Fault := ⟨problem, Utf8.length rest⟩

/-- A fault one byte into a text, or at its end if the text is empty. -/
def Fault.at (problem : Problem) (rest : List Char) : Fault := ⟨problem, Utf8.length rest - 1⟩

/-- The line and the column that follow some bytes, lines counted from one. -/
def position (bs : Bytes) : Nat × Nat :=
  bs.foldl (fun p b => if b = 0x0A then (p.1 + 1, 0) else (p.1, p.2 + 1)) (1, 0)

/-- The message for a fault in a text. -/
def Fault.message (text : List Char) (fault : Fault) : String :=
  let bs := Utf8.encode text
  let (line, column) := position (bs.take (bs.length - fault.left))
  fault.problem.message ++ " at line " ++ Decimal.toString line ++ " column " ++
    Decimal.toString column

/-! ### Readers -/

/-- What a reader makes of a text: a value and the rest of the text, or a fault. -/
abbrev Read (α : Type) := Except Fault (α × List Char)

/-- Whether a character may stand between the parts of a JSON text. -/
def isBlank (c : Char) : Bool := c == ' ' || c == '\n' || c == '\t' || c == '\r'

/-- A text without the blanks at its beginning. -/
def skipBlanks (cs : List Char) : List Char := cs.dropWhile isBlank

theorem length_skipBlanks_le (cs : List Char) : (skipBlanks cs).length ≤ cs.length :=
  (List.dropWhile_sublist _).length_le

/-- Reads the rest of a word. -/
def readWord : List Char → List Char → Except Fault (List Char)
  | [], cs => .ok cs
  | _ :: _, [] => .error (.before .endInValue [])
  | w :: ws, c :: cs => if c = w then readWord ws cs else .error (.at .badWord (c :: cs))

/-- A word is read where a text begins with it, and nowhere else. -/
theorem readWord_eq_ok_iff {w cs rest : List Char} :
    readWord w cs = .ok rest ↔ cs = w ++ rest := by
  induction w generalizing cs with
  | nil => simp [readWord]
  | cons w ws ih =>
    cases cs with
    | nil => simp [readWord]
    | cons c cs =>
      by_cases h : c = w
      · simp [readWord, h, ih]
      · simp [readWord, h]

end Gateway.Json
