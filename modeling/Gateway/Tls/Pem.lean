import Gateway.Text.Base64
import Gateway.Text.Quoted

/-!
# Sections of key files

Certificates and keys are kept in text files, as sections between a line that begins them and one
that ends them; both name what the section holds. All else in a file is passed over, and so are
sections of an unknown kind. A section that cannot be read does not keep the ones behind it from
being read.
-/

namespace Gateway.Pem

/-- What sections are known to hold. -/
inductive Kind where
  /-- A certificate. -/
  | certificate
  /-- A public key. -/
  | publicKey
  /-- A private key with its algorithm. -/
  | privateKey
  /-- A private key for RSA, by itself. -/
  | rsaPrivateKey
  /-- A private key for a curve, by itself. -/
  | curvePrivateKey
  /-- A list of certificates that are revoked. -/
  | revocationList
  /-- A request for a certificate. -/
  | certificateRequest
  /-- Keys under which a client may hide the name it asks for. -/
  | echConfig
  deriving DecidableEq, Repr

/-- The label of a section of a kind. -/
def Kind.label : Kind → String
  | certificate => "CERTIFICATE"
  | publicKey => "PUBLIC KEY"
  | privateKey => "PRIVATE KEY"
  | rsaPrivateKey => "RSA PRIVATE KEY"
  | curvePrivateKey => "EC PRIVATE KEY"
  | revocationList => "X509 CRL"
  | certificateRequest => "CERTIFICATE REQUEST"
  | echConfig => "ECHCONFIG"

/-- All kinds. -/
def Kind.all : List Kind :=
  [certificate, publicKey, privateKey, rsaPrivateKey, curvePrivateKey, revocationList,
    certificateRequest, echConfig]

/-- The kind that a label names. -/
def Kind.ofLabel? (label : Bytes) : Option Kind :=
  all.find? fun k => Utf8.ofString k.label = label

/-- Whether a kind is one of private keys. -/
def Kind.isPrivateKey : Kind → Bool
  | privateKey | rsaPrivateKey | curvePrivateKey => true
  | _ => false

/-- A section of a file. -/
structure Section where
  /-- What the section holds. -/
  kind : Kind
  /-- Its content. -/
  content : Bytes
  deriving DecidableEq, Repr

/-- Why a section cannot be read. -/
inductive Fault where
  /-- The line that begins it is not finished. -/
  | beginning (line : Bytes)
  /-- The line that ends it is missing. -/
  | noEnd (marker : Bytes)
  /-- What stands between the lines is no base64. -/
  | content (fault : Base64.Fault)
  deriving DecidableEq, Repr

/-- The wording of a fault. -/
def Fault.message : Fault → String
  | beginning line => "illegal section start: " ++ Text.quote (Utf8.stringLossy line)
  | noEnd marker => "section end " ++ Text.quote (Utf8.stringLossy marker) ++ " missing"
  | content fault => fault.name

/-! ### Lines -/

/-- Whether a byte ends a line. -/
def isBreak (b : UInt8) : Bool := b == 0x0A || b == 0x0D

/-- The lines of a text, each with the byte that ends it. -/
def lines : Bytes → List Bytes
  | [] => []
  | b :: rest =>
    if isBreak b then [b] :: lines rest
    else
      match lines rest with
      | [] => [[b]]
      | line :: more => (b :: line) :: more

/-- The dash, of which five stand around a label. -/
def dash : UInt8 := 0x2D

/-- What stands in front of the label of a beginning. -/
def beginMark : Bytes := Utf8.ofString "-----BEGIN "

/-- What a line begins: the label of a section, or, if the line is not finished, nothing. -/
inductive Beginning where
  /-- A section with a label. -/
  | opens (label : Bytes)
  /-- The closing dashes are not five. -/
  | unfinished
  deriving DecidableEq, Repr

/-- What a line begins, if anything. Blanks may stand behind and between the closing dashes. -/
def beginning? (line : Bytes) : Option Beginning :=
  if beginMark.isPrefixOf line then
    let ending := (line.reverse.takeWhile fun b => b == dash || b == 0x20 || isBreak b).reverse
    let closing := ending.dropWhile (· ≠ dash)
    if closing.count dash = 5 then
      some (.opens ((line.take (line.length - closing.length)).drop beginMark.length))
    else some .unfinished
  else none

/-- The line that ends a section with a label. -/
def endMark (label : Bytes) : Bytes :=
  Utf8.ofString "-----END " ++ label ++ List.replicate 5 dash

/-! ### Sections -/

/-- The section whose lines have come to an end, unless its kind is unknown. -/
def close? (label body : Bytes) : Option (Except Fault Section) :=
  (Kind.ofLabel? label).map fun kind =>
    match Base64.decode body with
    | .ok content => .ok ⟨kind, content⟩
    | .error fault => .error (.content fault)

/-- The sections in some lines, where `label` is that of the section that the lines stand in, if
they do, and `body` what it holds so far. A section that begins within another takes over what
that one holds. -/
def sectionsFrom (label : Option Bytes) (body : Bytes) :
    List Bytes → List (Except Fault Section)
  | [] =>
    match label with
    | some label => [.error (.noEnd (endMark label))]
    | none => []
  | line :: rest =>
    match beginning? line, label with
    | some (.opens label), _ => sectionsFrom (some label) body rest
    | some .unfinished, _ => .error (.beginning line) :: sectionsFrom none [] rest
    | none, none => sectionsFrom none [] rest
    | none, some label =>
      if (endMark label).isPrefixOf line then
        (close? label body).toList ++ sectionsFrom none [] rest
      else sectionsFrom (some label) (body ++ line) rest

/-- The sections of a text, each of them or why it cannot be read. -/
def sections (text : Bytes) : List (Except Fault Section) := sectionsFrom none [] (lines text)

/-- The certificates of a text; every section of it has to be readable. -/
def certificates? (text : Bytes) : Except Fault (List Bytes) :=
  ((sections text).mapM id).map fun all =>
    (all.filter (·.kind = .certificate)).map (·.content)

/-- The private keys of a text, as far as they can be read. -/
def privateKeys (text : Bytes) : List Bytes :=
  (sections text).filterMap fun
    | .ok s => if s.kind.isPrivateKey then some s.content else none
    | .error _ => none

end Gateway.Pem
