import Gateway.Text.Utf8

/-!
# Targets of requests

The target of a request is a path with an optional query, an authority, an address with both, or a
single asterisk. What follows a number sign is left out. Of a target, the path and the authority
matter: the path is `/` where an address has none, and empty where there is an authority alone.

Readers of targets agree on all bytes but the one of the delete character, so whatever is said of
targets is said for either kind of reader (`Target.Dialect`).
-/

namespace Gateway.Http

/-- What a request is for. -/
structure Target where
  /-- The authority, if the target has one. -/
  authority : Option String
  /-- The path. -/
  path : String
  deriving DecidableEq, Repr

/-- Why some bytes are no target. -/
inductive TargetFault where
  /-- There is nothing where something has to be. -/
  | empty
  /-- There are too many bytes. -/
  | tooLong
  /-- The scheme has too many characters. -/
  | schemeTooLong
  /-- The parts do not make a target. -/
  | format
  /-- There is a byte that must not be there. -/
  | character
  /-- The authority is malformed. -/
  | authority
  deriving DecidableEq, Repr

/-- The wording of a fault. -/
def TargetFault.message : TargetFault → String
  | empty => "empty string"
  | tooLong => "uri too long"
  | schemeTooLong => "scheme too long"
  | format => "invalid format"
  | character => "invalid uri character"
  | authority => "invalid authority"

namespace Target

/-- How readers of targets take the delete character, the control character with the number 127. -/
inductive Dialect where
  /-- It is refused, as the other control characters are. -/
  | strict
  /-- It may stand where bytes outside ASCII may, in paths and queries. -/
  | lenient
  deriving DecidableEq, Repr

/-! ### Bytes -/

/-- The byte of an ASCII character. -/
def byte (c : Char) : UInt8 := UInt8.ofNat c.toNat

/-- Whether a byte is that of a letter or a decimal digit. -/
def isAlphanum (b : UInt8) : Bool := (Char.ofNat b.toNat).isAlphanum

/-- Whether a byte may stand in a scheme. -/
def isSchemeByte (b : UInt8) : Bool := isAlphanum b || (['+', '-', '.', '~'].map byte).contains b

/-- Whether a byte may stand in an authority. -/
def isAuthorityByte (b : UInt8) : Bool :=
  isAlphanum b || ("!$&'()*+,-.:;=@[]_~".toList.map byte).contains b

/-- Whether a byte is that of a visible character, or part of a character outside ASCII, or counts
as one. -/
def isVisible (d : Dialect) (b : UInt8) : Bool :=
  0x20 < b.toNat && (b.toNat ≠ 0x7F || d = .lenient)

/-- Whether a byte may stand in a path, if the path is a text. -/
def isPathByte (d : Dialect) (b : UInt8) : Bool :=
  isVisible d b && !("#<>?\x60".toList.map byte).contains b

/-- Whether a byte may stand in a query, if the query is a text. -/
def isQueryByte (d : Dialect) (b : UInt8) : Bool :=
  isVisible d b && !("\"#<>".toList.map byte).contains b

/-! ### Paths -/

/-- The path of a target that is a path, with or without a query. -/
def pathOf? (d : Dialect) (bs : Bytes) : Except TargetFault String :=
  let whole := bs.takeWhile (· ≠ byte '#')
  let path := whole.takeWhile (· ≠ byte '?')
  let query := (whole.dropWhile (· ≠ byte '?')).drop 1
  match Utf8.string? path, Utf8.string? query with
  | some text, some _ =>
    if path.all (isPathByte d) && query.all (isQueryByte d) then
      .ok (if text.isEmpty then "/" else text)
    else .error .character
  | _, _ => .error .character

/-! ### Authorities -/

/-- What has been seen of an authority. -/
structure Seen where
  /-- The number of colons that may belong to a port. -/
  colons : Nat
  /-- Whether a bracket has been opened. -/
  opened : Bool
  /-- Whether a bracket has been closed. -/
  closed : Bool
  /-- Whether there was a percent sign outside user names and brackets. -/
  percent : Bool

/-- The most colons in a row of hosts and ports. -/
def maxColons : Nat := 8

/-- What has been seen of an authority behind one more byte. -/
def Seen.step (s : Seen) (b : UInt8) : Except TargetFault Seen :=
  if b = byte ':' then
    if s.colons < maxColons then .ok { s with colons := s.colons + 1 } else .error .authority
  else if b = byte '[' then
    if s.percent || s.opened then .error .authority else .ok { s with opened := true }
  else if b = byte ']' then
    if !s.opened || s.closed then .error .authority
    else .ok { s with closed := true, colons := 0, percent := false }
  else if b = byte '@' then .ok { s with colons := 0, percent := false }
  else if b = byte '%' then .ok { s with percent := true }
  else if isAuthorityByte b then .ok s
  else .error .character

/-- The authority at the front of some bytes, which ends at a path, a query or a fragment, and
what follows it. -/
def authorityOf? (bs : Bytes) : Except TargetFault (Bytes × Bytes) := do
  if bs.isEmpty then .error .empty
  let isEnd (b : UInt8) := (['/', '?', '#'].map byte).contains b
  let front := bs.takeWhile (!isEnd ·)
  let s ← front.foldlM Seen.step ⟨0, false, false, false⟩
  if s.opened != s.closed || 1 < s.colons || front.getLast? == some (byte '@') || s.percent then
    .error .authority
  else .ok (front, bs.dropWhile (!isEnd ·))

/-! ### Targets -/

/-- Whether some bytes begin with an ASCII text, up to letter case. -/
def beginsWith (front : String) (bs : Bytes) : Bool :=
  (bs.take front.length).map (fun b => (Char.ofNat b.toNat).toLower) == front.toList

/-- The most characters of a scheme. -/
def maxScheme : Nat := 64

/-- What follows the scheme and its slashes, if some bytes begin with one. -/
def behindScheme? (bs : Bytes) : Except TargetFault (Option Bytes) :=
  if beginsWith "http://" bs then .ok (some (bs.drop 7))
  else if beginsWith "https://" bs then .ok (some (bs.drop 8))
  else if bs.length ≤ 3 then .ok none
  else
    let scheme := bs.takeWhile isSchemeByte
    let rest := bs.dropWhile isSchemeByte
    if rest.take 3 = "://".toList.map byte then
      if maxScheme < scheme.length then .error .schemeTooLong else .ok (some (rest.drop 3))
    else .ok none

/-- The most bytes of a target. -/
def maxLength : Nat := 65534

/-- The target that some bytes of more than one write, of which the first is no slash. -/
def ofFullBytes? (d : Dialect) (bs : Bytes) : Except TargetFault Target := do
  match ← behindScheme? bs with
  | none =>
    let (authority, rest) ← authorityOf? bs
    if rest.isEmpty then .ok ⟨some (Utf8.stringLossy authority), ""⟩ else .error .format
  | some behind =>
    let (authority, rest) ← authorityOf? behind
    if authority.isEmpty then .error .format
    let path ← pathOf? d rest
    .ok ⟨some (Utf8.stringLossy authority), path⟩

/-- The target that some bytes write. -/
def ofBytes? (d : Dialect) (bs : Bytes) : Except TargetFault Target :=
  if maxLength < bs.length then .error .tooLong
  else
    match bs with
    | [] => .error .empty
    | [b] =>
      if b = byte '/' then .ok ⟨none, "/"⟩
      else if b = byte '*' then .ok ⟨none, "*"⟩
      else
        match authorityOf? bs with
        | .error fault => .error fault
        | .ok (authority, []) => .ok ⟨some (Utf8.stringLossy authority), ""⟩
        | .ok _ => .error .character
    | b :: _ =>
      if b = byte '/' then (pathOf? d bs).map fun path => ⟨none, path⟩
      else ofFullBytes? d bs

end Target

end Gateway.Http
