import Gateway.Toml.Value

/-!
# TOML documents

A document is read line by line. A line holds a comment, the header of a table or of an element
of an array of tables, or a key and its value; entries go to the table of the last header. A
table enters the document when the next header begins or the text ends, so a table that was
implicit before moves behind those that were given in between.
-/

namespace Gateway.Toml

/-- What has been read of a document. -/
structure Builder where
  /-- The tables that are complete. -/
  document : Entries
  /-- The entries of the table that is being read. -/
  entries : Entries
  /-- The place of that table, which ends with its last value. -/
  span : Option Span
  /-- The key of that table; the top level has none. -/
  path : List Key
  /-- Whether that table is an element of an array. -/
  isElement : Bool

namespace Builder

/-- Nothing has been read. -/
def start : Builder := ⟨[], [], none, [], false⟩

/-- Adds the table that is complete to the document. -/
def finish (b : Builder) : Option Entries :=
  match b.path.getLast? with
  | none => some b.entries
  | some key =>
    let span := b.span.getD key.span
    let add (_ : Bool) (parent : Entries) : Option Entries :=
      match b.isElement, parent.find? key.name with
      | true, some (.tables first _) =>
        some (parent.replace key.name (.tables ⟨first.start, span.stop⟩ b.entries))
      | true, none => some (parent ++ [(key, .tables span b.entries)])
      | true, some _ => none
      | false, none => some (parent ++ [(key, .table false false (some span) b.entries)])
      | false, some _ => none
    b.document.update false add false b.path.dropLast

/-- Begins a table with a header. A table that was implicit keeps its entries. -/
def openTable (b : Builder) (path : List Key) (span : Span) : Option Builder :=
  match b.finish, path.getLast? with
  | some document, some key =>
    match inner? document path.dropLast key.name with
    | none => none
    | some entries =>
      (document.update false (fun _ parent => some (parent.erase key.name)) false
        path.dropLast).map fun document => ⟨document, entries, some span, path, false⟩
  | _, _ => none
where
  /-- The entries of the table to be opened, unless it has been given otherwise. -/
  inner? (es : Entries) : List Key → String → Option Entries
    | [], name =>
      match es.find? name with
      | none => some []
      | some (.table true false _ entries) => some entries
      | some _ => none
    | key :: path, name =>
      match es.find? key.name with
      | none => some []
      | some (.value _ _) => none
      | some (.table _ _ _ entries) => inner? entries path name
      | some (.tables _ last) => inner? last path name

/-- Begins an element of an array of tables. -/
def openElement (b : Builder) (path : List Key) (span : Span) : Option Builder :=
  match b.finish, path.getLast? with
  | some document, some key =>
    let check (_ : Bool) (parent : Entries) : Option Entries :=
      match parent.find? key.name with
      | none => some parent
      | some (.tables _ _) => some parent
      | some _ => none
    (document.update false check false path.dropLast).map fun document =>
      ⟨document, [], some span, path, true⟩
  | _, _ => none

/-- Adds a value to the table that is being read. -/
def insert (b : Builder) (path : List Key) (key : Key) (v : Value) (span : Span) :
    Option Builder :=
  (b.entries.insert path key v span).map fun entries =>
    { b with
      entries := entries
      span := b.span.map fun s => ⟨s.start, span.stop⟩ }

end Builder

/-! ### Lines -/

/-- Reads a header between brackets, `double` ones or single ones. -/
def readHeader (b : Builder) (double : Bool) (cs rest : List Char) :
    Option (Builder × List Char) := do
  let (path, rest) ← readKey depthLimit rest
  let rest ← expect ']' rest
  let rest ← if double then expect ']' rest else some rest
  let after ← skipLineEnd rest
  let b ← if double then b.openElement path ⟨cs, rest⟩ else b.openTable path ⟨cs, rest⟩
  some (b, after)

/-- Reads a key and its value. -/
def readEntry (b : Builder) (cs : List Char) : Option (Builder × List Char) :=
  match readKey depthLimit cs with
  | none => none
  | some (path, rest) =>
    match path.getLast?, rest with
    | some key, '=' :: rest =>
      let here := skipSpaces rest
      match readValue (here.length + 1) depthLimit here with
      | none => none
      | some (v, rest) =>
        match skipLineEnd rest, b.insert path.dropLast key v ⟨here, rest⟩ with
        | some after, some b => some (b, after)
        | _, _ => none
    | _, _ => none

/-- Reads a line that is not empty. -/
def readLine (b : Builder) (cs : List Char) : Option (Builder × List Char) :=
  match cs with
  | '#' :: _ =>
    let rest := skipComment cs
    if rest = [] then some (b, []) else (afterNewline? rest).map (b, ·)
  | '\n' :: rest => some (b, rest)
  | '\r' :: _ => (afterNewline? cs).map (b, ·)
  | '[' :: '[' :: rest => readHeader b true cs rest
  | '[' :: rest => readHeader b false cs rest
  | _ => readEntry b cs

/-- Reads lines, of which there are fewer than `fuel`. -/
def readLines (fuel : Nat) (b : Builder) (cs : List Char) : Option Builder :=
  match fuel with
  | 0 => none
  | fuel + 1 =>
    match skipSpaces cs with
    | [] => some b
    | here =>
      match readLine b here with
      | some (b, rest) => readLines fuel b rest
      | none => none

/-- Reads a document, which may begin with a byte order mark. -/
def readDocument (text : List Char) : Option Entries :=
  let body := match text with
    | '\uFEFF' :: rest => rest
    | _ => text
  (readLines (body.length + 1) .start body).bind Builder.finish

end Gateway.Toml
