import Gateway.Document.Mismatch
import Gateway.Toml.Text

/-!
# Values of TOML documents

A value is a string, a number, a truth value, a moment, an array or an inline table. Of arrays
and inline tables nothing is kept: it is enough to know that they are well-formed. Tables, both
inline ones and those of a document, are checked for keys that are given twice; `Node` describes
what has been given under a key, and `Table.insert` adds to it.

Arrays and inline tables may nest up to `depthLimit`.
-/

namespace Gateway.Toml

/-- What a document gives under a key. -/
inductive Value where
  /-- A string. -/
  | text (s : String)
  /-- An integer. -/
  | integer (n : Int)
  /-- A floating-point number. -/
  | real (x : Document.Real)
  /-- A truth value. -/
  | switch (b : Bool)
  /-- A date, a time, or both; which one is of no interest. -/
  | moment
  /-- An array; its elements are of no interest. -/
  | array
  /-- A table in braces; its members are of no interest. -/
  | inlineTable
  deriving DecidableEq, Repr

/-- A part of a document, given by what is left of the text at its two ends. -/
structure Span where
  start : List Char
  stop : List Char
  deriving DecidableEq, Repr

/-! ### Blanks -/

/-- Steps over a comment if there is one, up to the end of its line. -/
def skipComment (cs : List Char) : List Char :=
  match cs with
  | '#' :: rest => rest.dropWhile isLineChar
  | _ => cs

/-- Steps over what may follow on a line: spaces, a comment, and the end of the line or of the
text. -/
def skipLineEnd (cs : List Char) : Option (List Char) :=
  let rest := skipComment (skipSpaces cs)
  if rest = [] then some [] else afterNewline? rest

/-- Steps over spaces, comments and line ends, of which there are fewer than `fuel`. -/
def skipBlanks (fuel : Nat) (cs : List Char) : Option (List Char) :=
  match fuel with
  | 0 => none
  | fuel + 1 =>
    let here := skipSpaces cs
    match here with
    | '#' :: _ =>
      match afterNewline? (skipComment here) with
      | some rest => skipBlanks fuel rest
      | none => none
    | '\n' :: rest => skipBlanks fuel rest
    | '\r' :: rest =>
      match rest with
      | '\n' :: rest => skipBlanks fuel rest
      | _ => none
    | _ => some here

/-! ### Numbers -/

/-- Reads digits of some kind, between which single underscores may stand. -/
def readDigits (isDigit : Char → Bool) (cs : List Char) : Read (List Char) :=
  match cs with
  | [] => none
  | c :: rest => if isDigit c then (more rest).map fun r => (c :: r.1, r.2) else none
where
  /-- Reads digits behind a digit. -/
  more : List Char → Read (List Char)
    | '_' :: d :: rest =>
      if isDigit d then (more rest).map fun r => (d :: r.1, r.2) else none
    | ['_'] => none
    | c :: rest =>
      if isDigit c then (more rest).map fun r => (c :: r.1, r.2) else some ([], c :: rest)
    | [] => some ([], [])

/-- Splits the sign off a number. -/
def readSign : List Char → Bool × List Char
  | '+' :: rest => (false, rest)
  | '-' :: rest => (true, rest)
  | cs => (false, cs)

/-- Reads decimal digits without leading zeros. -/
def readDecimal (cs : List Char) : Read (List Char) :=
  match cs with
  | '0' :: rest => some (['0'], rest)
  | _ => readDigits Decimal.isDigit cs

/-- The number that digits to some base denote. -/
def digitsValue (base : Nat) (ds : List Char) : Nat :=
  ds.foldl (fun n d => n * base + (Text.hexValue? d).getD 0) 0

/-- The bound of whole numbers. -/
def integerLimit : Nat := UInt64.size / 2

/-- A whole number, if it fits in 64 bits. -/
def wholeNumber? (negative : Bool) (n : Nat) : Option Value :=
  if negative then if n ≤ integerLimit then some (.integer (-n)) else none
  else if n < integerLimit then some (.integer n) else none

/-- Reads a whole number to a base other than ten, behind the letter that names the base. -/
def readBased (base : Nat) (cs : List Char) : Read Value :=
  let isDigit (c : Char) : Bool := (Text.hexValue? c).any (· < base)
  (readDigits isDigit cs).bind fun (ds, rest) =>
    (wholeNumber? false (digitsValue base ds)).map (·, rest)

/-- Reads a whole number. -/
def readInteger (cs : List Char) : Read Value :=
  match cs with
  | '0' :: 'x' :: rest => readBased 16 rest
  | '0' :: 'o' :: rest => readBased 8 rest
  | '0' :: 'b' :: rest => readBased 2 rest
  | _ =>
    let (negative, body) := readSign cs
    (readDecimal body).bind fun (ds, rest) =>
      (wholeNumber? negative (Decimal.value ds)).map (·, rest)

/-- Reads the exponent of a floating-point number, if it has one. -/
def readExponent (cs : List Char) : Option (Option Int × List Char) :=
  match cs with
  | c :: rest =>
    if c = 'e' ∨ c = 'E' then
      let (negative, body) := readSign rest
      (readDigits Decimal.isDigit body).map fun (ds, rest) =>
        let n : Int := Decimal.value ds
        (some (if negative then -n else n), rest)
    else some (none, cs)
  | [] => some (none, [])

/-- The floating-point number nearest to `n * 10 ^ e`. -/
def nearest (negative : Bool) (n : Nat) (e : Int) : Document.Real :=
  if n = 0 ∨ e < -20000 - (Decimal.digits n).length then .finite negative .zero
  else if 20000 < e then .infinite negative
  else
    match Binary64.ofDecimal n e with
    | some x => .finite negative x
    | none => .infinite negative

/-- Reads a floating-point number with a point or an exponent. -/
def readDecimalReal (cs : List Char) : Read Value :=
  let (negative, body) := readSign cs
  (readDecimal body).bind fun (whole, rest) =>
    let finish (places : List Char) (e : Int) (rest : List Char) : Read Value :=
      let x := nearest negative (Decimal.value (whole ++ places)) (e - places.length)
      if x = .infinite false then none else some (.real x, rest)
    match rest with
    | '.' :: rest =>
      (readDigits Decimal.isDigit rest).bind fun (places, rest) =>
        (readExponent rest).bind fun (e, rest) => finish places (e.getD 0) rest
    | _ =>
      (readExponent rest).bind fun (e, rest) => e.bind fun e => finish [] e rest

/-- Reads a floating-point number that is given by its name. -/
def readNamedReal (cs : List Char) : Read Value :=
  let (negative, body) := readSign cs
  match body with
  | 'i' :: 'n' :: 'f' :: rest => some (.real (.infinite negative), rest)
  | 'n' :: 'a' :: 'n' :: rest => some (.real .notANumber, rest)
  | _ => none

/-- Reads a floating-point number. -/
def readReal (cs : List Char) : Read Value :=
  match readDecimalReal cs with
  | some r => some r
  | none => readNamedReal cs

/-! ### Moments -/

/-- Reads a number of exactly `width` digits between two bounds. -/
def readField (width low high : Nat) (cs : List Char) : Read Nat :=
  let ds := cs.take width
  if ds.length = width ∧ ds.all Decimal.isDigit then
    let n := Decimal.value ds
    if low ≤ n ∧ n ≤ high then some (n, cs.drop width) else none
  else none

/-- Steps over one character. -/
def expect (c : Char) : List Char → Option (List Char)
  | d :: rest => if d = c then some rest else none
  | [] => none

/-- The number of days in a month. -/
def daysIn (year month : Nat) : Nat :=
  if month = 2 then
    if year % 4 = 0 ∧ (year % 100 ≠ 0 ∨ year % 400 = 0) then 29 else 28
  else if month = 4 ∨ month = 6 ∨ month = 9 ∨ month = 11 then 30
  else 31

/-- Steps over a date. -/
def skipDate (cs : List Char) : Option (List Char) := do
  let (year, rest) ← readField 4 0 9999 cs
  let rest ← expect '-' rest
  let (month, rest) ← readField 2 1 12 rest
  let rest ← expect '-' rest
  let (_, rest) ← readField 2 1 (daysIn year month) rest
  some rest

/-- Steps over a time of day. -/
def skipTime (cs : List Char) : Option (List Char) := do
  let (_, rest) ← readField 2 0 23 cs
  let rest ← expect ':' rest
  let (_, rest) ← readField 2 0 59 rest
  let rest ← expect ':' rest
  let (_, rest) ← readField 2 0 60 rest
  match rest with
  | '.' :: d :: more =>
    if Decimal.isDigit d then some (more.dropWhile Decimal.isDigit) else some rest
  | _ => some rest

/-- Steps over the distance to universal time. -/
def skipOffset (cs : List Char) : Option (List Char) :=
  match cs with
  | 'Z' :: rest => some rest
  | 'z' :: rest => some rest
  | c :: rest =>
    if c = '+' ∨ c = '-' then do
      let (_, rest) ← readField 2 0 23 rest
      let rest ← expect ':' rest
      let (_, rest) ← readField 2 0 59 rest
      some rest
    else none
  | [] => none

/-- Reads a date, a time, or both. -/
def readMoment (cs : List Char) : Read Value :=
  match skipDate cs with
  | some rest =>
    match rest with
    | c :: body =>
      if c = 'T' ∨ c = 't' ∨ c = ' ' then
        match skipTime body with
        | some after => some (.moment, (skipOffset after).getD after)
        | none => some (.moment, rest)
      else some (.moment, rest)
    | [] => some (.moment, rest)
  | none => (skipTime cs).map (.moment, ·)

/-! ### Keys -/

/-- A part of a key. -/
structure Key where
  name : String
  span : Span
  deriving DecidableEq, Repr

/-- Whether a character may stand in a key without quotes. -/
def isBareChar (c : Char) : Bool :=
  ('A' ≤ c && c ≤ 'Z') || ('a' ≤ c && c ≤ 'z') || ('0' ≤ c && c ≤ '9') || c == '-' || c == '_'

/-- Reads one part of a key. -/
def readKeyPart (cs : List Char) : Read Key :=
  match cs with
  | '"' :: rest =>
    (readBasic rest).map fun (s, rest) => (⟨String.ofList s, ⟨cs, rest⟩⟩, rest)
  | '\'' :: rest =>
    (readLiteral rest).map fun (s, rest) => (⟨String.ofList s, ⟨cs, rest⟩⟩, rest)
  | _ =>
    let name := cs.takeWhile isBareChar
    let rest := cs.dropWhile isBareChar
    if name = [] then none else some (⟨String.ofList name, ⟨cs, rest⟩⟩, rest)

/-- How deep values may nest, and how many parts a key may have. -/
def depthLimit : Nat := 79

/-- Reads a key of at most `fuel` parts. -/
def readKey (fuel : Nat) (cs : List Char) : Read (List Key) :=
  match fuel with
  | 0 => none
  | fuel + 1 =>
    match readKeyPart (skipSpaces cs) with
    | none => none
    | some (key, rest) =>
      match skipSpaces rest with
      | '.' :: rest => (readKey fuel rest).map fun r => (key :: r.1, r.2)
      | rest => some ([key], rest)

/-! ### Tables -/

/-- What has been given under a key. -/
inductive Node where
  /-- A value. -/
  | value (v : Value) (span : Span)
  /-- A table. It is implicit if nothing but its contents has been given, and dotted if its
  contents were given by keys of several parts. -/
  | table (isImplicit isDotted : Bool) (span : Option Span) (entries : List (Key × Node))
  /-- An array of tables, of which the last one can still grow. -/
  | tables (span : Span) (last : List (Key × Node))

/-- The entries of a table, in the order in which they were given. -/
abbrev Entries := List (Key × Node)

/-- The entry under a name. -/
def Entries.find? (es : Entries) (name : String) : Option Node :=
  (List.find? (fun e => e.1.name == name) es).map (·.2)

/-- The entries with another one under a name that is there. -/
def Entries.replace (es : Entries) (name : String) (node : Node) : Entries :=
  es.map fun e => if e.1.name = name then (e.1, node) else e

/-- The entries without the one under a name. -/
def Entries.erase (es : Entries) (name : String) : Entries :=
  es.filter fun e => e.1.name ≠ name

/-- Changes the table that a path leads to. Tables that are not there yet become implicit ones.
Keys of several parts do not enter tables that have a header. `change` is told whether the table
is dotted. -/
def Entries.update (isDotted : Bool) (change : Bool → Entries → Option Entries)
    (selfDotted : Bool) (es : Entries) : List Key → Option Entries
  | [] => change selfDotted es
  | key :: path =>
    match es.find? key.name with
    | none =>
      (Entries.update isDotted change isDotted [] path).map fun inner =>
        es ++ [(key, .table true isDotted none inner)]
    | some (.value _ _) => none
    | some (.tables span last) =>
      (Entries.update isDotted change false last path).map fun inner =>
        es.replace key.name (.tables span inner)
    | some (.table isImplicit wasDotted span entries) =>
      if isDotted ∧ !isImplicit then none
      else
        (Entries.update isDotted change wasDotted entries path).map fun inner =>
          es.replace key.name (.table isImplicit wasDotted span inner)

/-- Adds a value under a key of one or several parts. -/
def Entries.insert (es : Entries) (path : List Key) (key : Key) (v : Value) (span : Span) :
    Option Entries :=
  let add (isDotted : Bool) (inner : Entries) : Option Entries :=
    if isDotted = path.isEmpty then none
    else if (inner.find? key.name).isSome then none
    else some (inner ++ [(key, .value v span)])
  es.update true add false path

/-! ### Values -/

/-- Reads the rest of a word. -/
def readWord : List Char → List Char → Option (List Char)
  | [], cs => some cs
  | _ :: _, [] => none
  | w :: ws, c :: cs => if c = w then readWord ws cs else none

mutual

/-- Reads a value that nests less than `depth` deep. The fuel bounds the length of the text. -/
def readValue (fuel depth : Nat) (cs : List Char) : Read Value :=
  match fuel with
  | 0 => none
  | fuel + 1 =>
    match cs with
    | [] => none
    | c :: rest =>
      if c = '"' ∨ c = '\'' then
        (readText cs).map fun (s, rest) => (.text (String.ofList s), rest)
      else if c = '[' then
        match depth with
        | 0 => none
        | depth + 1 =>
          match skipBlanks (rest.length + 1) rest with
          | some (']' :: rest) => some (.array, rest)
          | _ => (readElements fuel depth rest).map (.array, ·)
      else if c = '{' then
        match depth with
        | 0 => none
        | depth + 1 =>
          match skipSpaces rest with
          | '}' :: rest => some (.inlineTable, rest)
          | _ => (readPairs fuel depth [] rest).map (.inlineTable, ·)
      else if c = 't' then (readWord ['r', 'u', 'e'] rest).map (.switch true, ·)
      else if c = 'f' then (readWord ['a', 'l', 's', 'e'] rest).map (.switch false, ·)
      else
        match readMoment cs with
        | some r => some r
        | none =>
          match readReal cs with
          | some r => some r
          | none => readInteger cs

/-- Reads the elements of an array, at least one, and its end. -/
def readElements (fuel depth : Nat) (cs : List Char) : Option (List Char) :=
  match fuel with
  | 0 => none
  | fuel + 1 =>
    match skipBlanks (cs.length + 1) cs with
    | none => none
    | some here =>
      match readValue fuel depth here with
      | none => none
      | some (_, rest) =>
        match skipBlanks (rest.length + 1) rest with
        | some (']' :: rest) => some rest
        | some (',' :: rest) =>
          match skipBlanks (rest.length + 1) rest with
          | some (']' :: rest) => some rest
          | _ => readElements fuel depth rest
        | _ => none

/-- Reads the entries of an inline table, at least one, and its end. -/
def readPairs (fuel depth : Nat) (entries : Entries) (cs : List Char) : Option (List Char) :=
  match fuel with
  | 0 => none
  | fuel + 1 =>
    match readKey depthLimit cs with
    | none => none
    | some (path, rest) =>
      match path.getLast?, rest with
      | some key, '=' :: rest =>
        let here := skipSpaces rest
        match readValue fuel depth here with
        | none => none
        | some (v, rest) =>
          match entries.insert path.dropLast key v ⟨here, rest⟩ with
          | none => none
          | some entries =>
            match skipSpaces rest with
            | '}' :: rest => some rest
            | ',' :: rest => readPairs fuel depth entries rest
            | _ => none
      | _, _ => none

end

end Gateway.Toml
