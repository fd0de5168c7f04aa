import Gateway.Url

/-!
# Origins of requests

A request of a web page names its origin, the scheme, host and port that the page came from. The
policy says which origins may use the gateway: any; only the one that the request was sent to; or
those of a list. The policy is given as entries with semicolons between them, of which `*` and
`sop` stand for the first two and must stand alone.
-/

namespace Gateway

namespace Origin

/-- The normal form of an origin, `scheme://host` or `scheme://host:port`. An address is one if it
is of the web and has a host and nothing behind it. -/
def normal? (entry : String) : Option String :=
  match Url.ofString? entry with
  | .error _ => none
  | .ok u =>
    match u.authority with
    | none => none
    | some a =>
      if (u.scheme = "http" ∨ u.scheme = "https") ∧ a.host.isSome ∧ u.path = "/" ∧
          u.query.isNone ∧ u.fragment.isNone then
        some (u.scheme ++ "://" ++ a.hostAndPort)
      else none

/-- Whether the host and port of an origin are those of a text, up to letter case. -/
def isAt (origin host : String) : Bool :=
  match Url.ofString? origin with
  | .error _ => false
  | .ok u =>
    match u.authority with
    | none => false
    | some a => a.host.isSome && Text.sameIgnoringCase a.hostAndPort host

end Origin

/-- Which origins may use the gateway. -/
inductive OriginPolicy where
  /-- All of them. -/
  | any
  /-- The one that the request was sent to. -/
  | sameOrigin
  /-- The ones of a list, in normal form. -/
  | listed (origins : List String)
  deriving DecidableEq

namespace OriginPolicy

/-- Whether a policy allows an origin to a request that was sent to a host. -/
def allows (policy : OriginPolicy) (origin : String) (host : Option String) : Bool :=
  match policy with
  | any => true
  | sameOrigin => host.any (Origin.isAt origin)
  | listed origins => origins.any fun o => Text.sameIgnoringCase o origin

/-- Why a text is no policy. -/
inductive Fault where
  /-- An entry that stands for a whole policy has others beside it; all of the text. -/
  | combined (value : String)
  /-- An entry is no origin. -/
  | notOrigin (entry : String)
  deriving DecidableEq, Repr

/-- The policy that an entry stands for by itself. -/
def ofEntry? (entry : String) : Option OriginPolicy :=
  if entry = "*" then some any
  else if Text.sameIgnoringCase entry "sop" then some sameOrigin
  else none

/-- The normal forms of some entries, or the first of them that is no origin. -/
def normals? : List String → Except Fault (List String)
  | [] => .ok []
  | entry :: rest =>
    match Origin.normal? entry with
    | none => .error (.notOrigin entry)
    | some origin => (normals? rest).map (origin :: ·)

/-- The entries of a text. -/
def entries (value : String) : List String := (Text.splitString ';' value).map Text.trimString

/-- The policy that a text writes. -/
def ofString? (value : String) : Except Fault OriginPolicy :=
  match (entries value).findSome? ofEntry? with
  | some policy =>
    if 1 < (entries value).length then .error (.combined value) else .ok policy
  | none => (normals? (entries value)).map listed

end OriginPolicy

end Gateway
