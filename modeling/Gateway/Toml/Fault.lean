import Gateway.Text.Utf8
import Gateway.Toml.Value

/-!
# Faults in TOML documents

A document is either malformed, or it gives a value that does not fit. The message for a value
that does not fit shows the line on which the value begins and marks the value in it.
-/

namespace Gateway.Toml

/-- What may be wrong with a document. -/
inductive Fault where
  /-- The document is ill-formed. -/
  | malformed
  /-- A value at some place is not what is wanted. -/
  | mismatch (m : Document.Mismatch) (span : Span)
  deriving DecidableEq, Repr

/-- Where a part of a document is shown. -/
structure Snippet where
  /-- The number of the line, counted from one. -/
  line : Nat
  /-- How many characters stand in front of the part. -/
  column : Nat
  /-- The line. -/
  content : List Char
  /-- How many marks are set. -/
  marks : Nat
  deriving DecidableEq, Repr

/-- The line break before a line. -/
def lineFeed : UInt8 := 0x0A

/-- The place of a part in a text. Columns count characters; only where the part begins with a
character beyond ASCII they count bytes. Marks do not go beyond the end of the line. -/
def Snippet.of (text : List Char) (span : Span) : Snippet :=
  let bs := Utf8.encode text
  let start := bs.length - Utf8.length span.start
  let size := Utf8.length span.start - Utf8.length span.stop
  let index := min start (bs.length - 1)
  let front := bs.take index
  let lineFront := (front.reverse.takeWhile (· ≠ lineFeed)).reverse
  let lineStart := index - lineFront.length
  let column :=
    match Utf8.decode? ((bs.drop lineStart).take (lineFront.length + 1)) with
    | some cs => cs.length - 1
    | none => lineFront.length
  let column := column + (start - index)
  let content := (bs.drop lineStart).takeWhile (· ≠ lineFeed)
  { line := (front.filter (· = lineFeed)).length + 1
    column := column
    content := Utf8.decodeLossy content
    marks := max 1 (min size (content.length - column)) }

/-- The lines that show a part of a document. -/
def Snippet.render (s : Snippet) : String :=
  let number := Decimal.toString s.line
  let gutter := String.ofList (List.replicate (number.length + 1) ' ')
  "TOML parse error at line " ++ number ++ ", column " ++ Decimal.toString (s.column + 1) ++ "\n" ++
  gutter ++ "|\n" ++
  number ++ " | " ++ String.ofList s.content ++ "\n" ++
  gutter ++ "|" ++ String.ofList (List.replicate (s.column + 1) ' ') ++
  String.ofList (List.replicate s.marks '^') ++ "\n"

/-- The message for a fault in a text. -/
def Fault.message (text : List Char) : Fault → String
  | malformed => "TOML parse error"
  | mismatch m span =>
    (Snippet.of text span).render ++ m.message Binary64.toPositional ++ "\n"

end Gateway.Toml
