import Gateway.Number.Decimal
import Gateway.Url.Host
import Gateway.Url.Path

/-!
# Absolute addresses

An address is a scheme, an authority, a path, a query and a fragment. For a few schemes of the web
the authority has a host that is looked up, a port of its own, which is left out, and a path that
is never empty; for other schemes the authority and the path may be missing. `Url.ofText?` reads
an address, bringing each part into its normal form, and `Url.toString` writes it.
-/

namespace Gateway

/-- The authority of an address. -/
structure Authority where
  /-- The user name, empty if there is none. -/
  user : String
  /-- The password, empty if there is none. -/
  password : String
  /-- The host, if there is one. -/
  host : Option Host
  /-- The port, if it is not the scheme's own. -/
  port : Option UInt16
  deriving DecidableEq

/-- An absolute address. -/
structure Url where
  /-- The scheme, in small letters. -/
  scheme : String
  /-- The authority, if there is one. -/
  authority : Option Authority
  /-- The path. -/
  path : String
  /-- What stands behind the question mark, if there is one. -/
  query : Option String
  /-- What stands behind the number sign, if there is one. -/
  fragment : Option String
  deriving DecidableEq

/-! ### Schemes -/

namespace Scheme

/-- What the authority and the path of a scheme's addresses are like. -/
inductive Kind where
  /-- As on the web, with a port that is meant if none is given. -/
  | web (port : UInt16)
  /-- As for the files of a computer, where no port is given. -/
  | file
  /-- Without rules of its own. -/
  | other
  deriving DecidableEq

/-- What the addresses of a scheme are like. -/
def kind (scheme : String) : Kind :=
  if scheme = "http" ∨ scheme = "ws" then .web 80
  else if scheme = "https" ∨ scheme = "wss" then .web 443
  else if scheme = "ftp" then .web 21
  else if scheme = "file" then .file
  else .other

/-- The port that is meant if none is given. -/
def Kind.port? : Kind → Option UInt16
  | web port => some port
  | _ => none

/-- Whether hosts are looked up and backslashes stand for slashes. -/
def Kind.isSpecial : Kind → Bool
  | other => false
  | _ => true

/-- Whether a character may stand in a scheme behind the first letter. -/
def isLater (c : Char) : Bool := c.isAlphanum || c == '+' || c == '-' || c == '.'

/-- The scheme at the front of a text, in small letters, and what follows its colon. -/
def cut? (cs : List Char) : Option (String × List Char) :=
  match cs with
  | [] => none
  | c :: _ =>
    if c.isAlpha then
      match cs.dropWhile isLater with
      | ':' :: rest => some (String.ofList (Text.lower (cs.takeWhile isLater)), rest)
      | _ => none
    else none

end Scheme

/-! ### Parts of authorities -/

namespace Authority

/-- The user name and the password of a text. -/
def userOf (cs : List Char) : String × String :=
  let written (part : List Char) := String.ofList (Url.escape Url.inUser part)
  match Text.cutAt? ':' cs with
  | none => (written cs, "")
  | some (name, password) => (written name, written password)

/-- The text of a host and what follows it: a colon outside brackets ends the host. -/
def cutHost (inBrackets : Bool) : List Char → List Char × List Char
  | [] => ([], [])
  | c :: cs =>
    if c = ':' ∧ !inBrackets then ([], c :: cs)
    else
      let within := if c = '[' then true else if c = ']' then false else inBrackets
      let (host, rest) := cutHost within cs
      (c :: host, rest)

/-- The number that some digits write, if a port can have it. -/
def portOf? (cs : List Char) : Option UInt16 :=
  if Decimal.value cs ≤ 65535 then some (.ofNat (Decimal.value cs)) else none

/-- The port of a text behind the host, unless it is the scheme's own, and what follows it: a
port, like a path, is ended by a backslash. -/
def portAfter? (kind : Scheme.Kind) : List Char → Except UrlFault (Option UInt16 × List Char)
  | ':' :: cs =>
    let digits := cs.takeWhile Decimal.isDigit
    match cs.dropWhile Decimal.isDigit, portOf? digits with
    | [], some port => .ok (if digits = [] ∨ kind.port? = some port then none else some port, [])
    | '\\' :: rest, some port =>
      .ok (if digits = [] ∨ kind.port? = some port then none else some port, '\\' :: rest)
    | _, _ => .error .port
  | cs => .ok (none, cs)

/-- The host of a text, if it is not empty. -/
def hostOf? (kind : Scheme.Kind) (cs : List Char) : Except UrlFault (Option Host) :=
  if cs.isEmpty then if kind.isSpecial then .error .emptyHost else .ok none
  else (if kind.isSpecial then Host.ofWebText? cs else Host.ofText? cs).map some

/-- The authority that a text without slashes writes, and what follows it. `isLast` says whether
the address ends behind the text. -/
def ofText? (kind : Scheme.Kind) (isLast : Bool) (cs : List Char) :
    Except UrlFault (Authority × List Char) := do
  let (user, password, hostText) ← match Text.cutAtLast? '@' cs with
    | none => .ok ("", "", cs)
    | some ([], behind) =>
      if behind.isEmpty && !isLast then .error .emptyHost else .ok ("", "", behind)
    | some (info, behind) =>
      let (name, password) := userOf info
      .ok (name, password, behind)
  let (front, rest) := cutHost false hostText
  let host ← hostOf? kind front
  if host.isNone && rest.head? == some ':' then .error .emptyHost
  let (port, rest) ← portAfter? kind rest
  if host.isNone && !(user.isEmpty && password.isEmpty) then .error .emptyHost
  .ok (⟨user, password, host, port⟩, rest)

/-- The host and the port of an authority, with a colon between them. -/
def hostAndPort (a : Authority) : String :=
  ((a.host.map Host.toString).getD "") ++
    match a.port with
    | some port => ":" ++ Decimal.toString port.toNat
    | none => ""

/-- The written form of an authority. -/
def toString (a : Authority) : String :=
  let password := if a.password.isEmpty then "" else ":" ++ a.password
  let user := a.user ++ password
  (if user.isEmpty then "" else user ++ "@") ++ a.hostAndPort

end Authority

/-! ### Reading -/

namespace Url

/-- A text without blanks and control characters at its ends, and without line breaks and tabs. -/
def clean (cs : List Char) : List Char :=
  let isEnd (c : Char) := c.toNat ≤ 0x20
  let inner := (cs.dropWhile isEnd).reverse.dropWhile isEnd
  inner.reverse.filter fun c => c ∉ ['\t', '\n', '\r']

/-- A text up to a separator, and what follows it. -/
def cut (sep : Char) (cs : List Char) : List Char × Option (List Char) :=
  match Text.cutAt? sep cs with
  | none => (cs, none)
  | some (front, behind) => (front, some behind)

/-- The normal path behind an authority: empty only if nothing is written and the scheme has no
rules of its own. -/
def pathOf (kind : Scheme.Kind) (cs : List Char) : List (List Char) :=
  let slashes := if kind.isSpecial then cs.map fun c => if c = '\\' then '/' else c else cs
  match slashes with
  | [] => if kind.isSpecial then [[]] else []
  | '/' :: cs => followDots (Text.split '/' cs)
  | cs => followDots (Text.split '/' cs)

/-- The authority and the path behind the two slashes of an address, of which `isLast` says
whether it ends behind them. -/
def behindSlashes (kind : Scheme.Kind) (isLast : Bool) (cs : List Char) :
    Except UrlFault (Authority × List (List Char)) := do
  let isSlash (c : Char) := c == '/' || (kind.isSpecial && c == '\\')
  let front := cs.takeWhile (!isSlash ·)
  let path := cs.dropWhile (!isSlash ·)
  let (authority, rest) ← Authority.ofText? kind (isLast && path.isEmpty) front
  .ok (authority, pathOf kind (rest ++ path))

/-- The authority and the path of a file, behind the colon. A drive is part of the path, and has
no host. -/
def ofFile (cs : List Char) : Except UrlFault (Authority × List (List Char)) := do
  let isSlash (c : Char) := c == '/' || c == '\\'
  let nowhere : Authority := ⟨"", "", none, none⟩
  match cs with
  | a :: b :: cs =>
    if isSlash a && isSlash b then
      let front := cs.takeWhile (!isSlash ·)
      if isDrive front then .ok (nowhere, pathOf .file cs)
      else
        let host ← if front.isEmpty then .ok none else (Host.ofWebText? front).map some
        let path := pathOf .file (cs.dropWhile (!isSlash ·))
        let isHere := host == some (.name "localhost") || path.head?.any isDrive
        .ok (⟨"", "", if isHere then none else host, none⟩, path)
    else .ok (nowhere, pathOf .file (a :: b :: cs))
  | cs => .ok (nowhere, pathOf .file cs)

/-- The authority and the path of an address behind the colon, of which `isLast` says whether it
ends there. -/
def ofRest (kind : Scheme.Kind) (isLast : Bool) (cs : List Char) :
    Except UrlFault (Option Authority × List Char) :=
  match kind with
  | .web _ =>
    (behindSlashes kind isLast (cs.dropWhile fun c => c == '/' || c == '\\')).map
      fun (authority, segs) => (some authority, pathText segs)
  | .file => (ofFile cs).map fun (authority, segs) => (some authority, pathText segs)
  | .other =>
    match cs with
    | '/' :: '/' :: cs =>
      (behindSlashes kind isLast cs).map fun (authority, segs) => (some authority, pathText segs)
    | '/' :: _ => .ok (none, pathText (pathOf kind cs))
    | _ => .ok (none, escape inHost cs)

/-- The address that a text writes. -/
def ofText? (cs : List Char) : Except UrlFault Url :=
  match Scheme.cut? (clean cs) with
  | none => .error .relative
  | some (scheme, rest) =>
    let kind := Scheme.kind scheme
    let (front, fragment) := cut '#' rest
    let (front, query) := cut '?' front
    match ofRest kind (query.isNone && fragment.isNone) front with
    | .error fault => .error fault
    | .ok (authority, path) =>
      .ok
        { scheme := scheme
          authority := authority
          path := String.ofList path
          query := query.map fun q => String.ofList (escape (inQuery kind.isSpecial) q)
          fragment := fragment.map fun f => String.ofList (escape inFragment f) }

/-- The address that a string writes. -/
def ofString? (s : String) : Except UrlFault Url := ofText? s.toList

/-! ### Parts -/

/-- The host of an address. -/
def host (u : Url) : Option Host := u.authority.bind Authority.host

/-- The written form of an address. A path that begins with two slashes is kept apart from an
authority. -/
def toString (u : Url) : String :=
  let authority := match u.authority with
    | some a => "//" ++ a.toString
    | none => if (Text.after? ['/', '/'] u.path.toList).isSome then "/." else ""
  let query := match u.query with
    | some q => "?" ++ q
    | none => ""
  let fragment := match u.fragment with
    | some f => "#" ++ f
    | none => ""
  u.scheme ++ ":" ++ authority ++ u.path ++ query ++ fragment

end Url

end Gateway
