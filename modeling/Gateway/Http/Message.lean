import Gateway.Http.Target
import Gateway.Json.Text
import Gateway.Number.Decimal
import Gateway.Text.Ascii

/-!
# Requests and responses

A request has a method, a target and headers; a response has a status, headers and a body. The
names of headers are in small letters; their values are bytes, and text only if all of them are
visible ASCII characters, blanks or tabs.
-/

namespace Gateway.Http

/-! ### Headers -/

/-- A header: its name and its value. -/
abbrev Header := String × Bytes

/-- The value of the first header of a name. -/
def header? (name : String) (headers : List Header) : Option Bytes :=
  (headers.find? fun h => h.1 == name).map Prod.snd

/-- The text of a value, if it is one. -/
def text? (value : Bytes) : Option String :=
  if value.all fun b => (0x20 ≤ b.toNat && b.toNat < 0x7F) || b == 0x09 then Utf8.string? value
  else none

/-- Whether some bytes can be the value of a header. -/
def isValue (value : Bytes) : Bool :=
  value.all fun b => (0x20 ≤ b.toNat && b.toNat ≠ 0x7F) || b == 0x09

/-- The value that a text makes, if it can be one. -/
def value? (text : String) : Option Bytes :=
  if isValue (Utf8.ofString text) then some (Utf8.ofString text) else none

/-- Whether a character may stand in the name of a header. -/
def isNameChar (c : Char) : Bool := c.isAlphanum || "!#$%&'*+-.^_\x60|~".toList.contains c

/-- Why something is no header. -/
inductive HeaderFault where
  /-- The name is none. -/
  | name
  /-- The value is none. -/
  | value
  deriving DecidableEq, Repr

/-- The wording of a fault. -/
def HeaderFault.message : HeaderFault → String
  | name => "invalid HTTP header name"
  | value => "failed to parse header value"

/-- The header of a name, in any letter case, and a value. -/
def makeHeader? (name : String) (value : Bytes) : Except HeaderFault Header :=
  if name.isEmpty || !name.toList.all isNameChar then .error .name
  else if isValue value then .ok (String.ofList (Text.lower name.toList), value)
  else .error .value

/-! ### Messages -/

/-- The version of the protocol that a request is sent in. -/
inductive Version where
  /-- A version up to 1.1. -/
  | one
  /-- A later version. -/
  | later
  deriving DecidableEq, Repr

/-- A request. -/
structure Request where
  /-- The method. -/
  method : String
  /-- The target. -/
  target : Target
  /-- The version of the protocol. -/
  version : Version
  /-- The headers in their order. -/
  headers : List Header
  /-- The body. -/
  body : Bytes
  /-- Whether the connection that it came on can be upgraded. -/
  isUpgradable : Bool := false
  deriving DecidableEq, Repr

/-- The value of a request's first header of a name. -/
def Request.header? (r : Request) (name : String) : Option Bytes := Http.header? name r.headers

/-- The host that a request was sent to: what its header says, if that is text, and the authority
of the target otherwise. -/
def Request.host? (r : Request) : Option String :=
  ((r.header? "host").bind text?).or r.target.authority

/-- A response. -/
structure Response where
  /-- The status. -/
  status : Nat
  /-- The headers. -/
  headers : List Header
  /-- The body. -/
  body : String
  deriving DecidableEq, Repr

namespace Response

/-- A response with a body of some type. -/
def make (status : Nat) (type body : String) : Response :=
  let length := Decimal.toString (Utf8.ofString body).length
  ⟨status, [("content-type", Utf8.ofString type), ("content-length", Utf8.ofString length)], body⟩

/-- A response with a plain text. -/
def plain (status : Nat) (text : String) : Response := make status "text/plain; charset=utf-8" text

/-- A response that reports an error by its code and a message. -/
def error (status : Nat) (code message : String) : Response :=
  let member (key value : String) :=
    Json.writeString key.toList ++ ':' :: Json.writeString value.toList
  make status "application/json"
    (String.ofList ('{' :: member "code" code ++ ',' :: member "message" message ++ ['}']))

/-- Whether a response has no more than one header of a name. -/
def isSingle (name : String) : Bool := name == "access-control-allow-origin"

/-- A response with further headers. One of a name that a response has only once takes the place of
those that are there. -/
def withHeaders (r : Response) (headers : List Header) : Response :=
  let isReplaced (h : Header) := isSingle h.1 && headers.any fun g => g.1 == h.1
  { r with headers := r.headers.filter (!isReplaced ·) ++ headers }

/-- The response as it is sent to a request of a method: `HEAD` asks for all but the body. -/
def sentTo (r : Response) (method : String) : Response :=
  if method = "HEAD" then { r with body := "" } else r

end Response

end Gateway.Http
