import Gateway.Tls.Der

/-!
# Keys

A private key is kept in one of three forms: by itself, for RSA or for a curve, or wrapped together
with the algorithm that it is for. Most of them tell their public key, which a certificate states
as well; where both are there, they can be compared.
-/

namespace Gateway.Tls

/-- A public key. -/
structure PublicKey where
  /-- The algorithm that the key is for. -/
  algorithm : Bytes
  /-- The key. -/
  key : Bytes
  deriving DecidableEq, Repr

/-! ### Algorithms -/

/-- The written form of the name of an algorithm or a curve. -/
def named (name : Bytes) : Bytes := Der.Element.encode ⟨0x06, name⟩

/-- The algorithm of RSA keys. -/
def rsa : Bytes :=
  named [0x2A, 0x86, 0x48, 0x86, 0xF7, 0x0D, 0x01, 0x01, 0x01] ++ Der.Element.encode ⟨0x05, []⟩

/-- The names of the curves over 256, 384 and 521 bits. -/
def curves : List Bytes :=
  [[0x2A, 0x86, 0x48, 0xCE, 0x3D, 0x03, 0x01, 0x07], [0x2B, 0x81, 0x04, 0x00, 0x22],
    [0x2B, 0x81, 0x04, 0x00, 0x23]]

/-- The algorithm of keys for a curve. -/
def onCurve (curve : Bytes) : Bytes :=
  named [0x2A, 0x86, 0x48, 0xCE, 0x3D, 0x02, 0x01] ++ named curve

/-- The algorithm of keys for the Edwards curve over 255 bits. -/
def edwards : Bytes := named [0x2B, 0x65, 0x70]

/-! ### Private keys -/

/-- The forms of private keys. -/
inductive KeyForm where
  /-- With its algorithm. -/
  | wrapped
  /-- By itself, for RSA. -/
  | rsa
  /-- By itself, for a curve. -/
  | curve
  deriving DecidableEq, Repr

/-- The form that the version of a key and what follows it tell. -/
def KeyForm.ofContent? (bs : Bytes) : Option KeyForm :=
  if [Der.integer, 1].isPrefixOf bs then
    if bs[3]? = some Der.sequence then some .wrapped
    else if bs[2]? = some 0 then some .rsa
    else if bs[2]? = some 1 then some .curve
    else none
  else none

/-- The form that the front of a key tells. -/
def KeyForm.of? : Bytes → Option KeyForm
  | tag :: size :: rest =>
    if tag = Der.sequence then
      ofContent? (if size < 0x80 then rest else rest.drop (size.toNat - 0x80))
    else none
  | _ => none

/-- What a private key tells about its public key. -/
inductive PublicPart where
  /-- The key tells its public key. -/
  | known (key : PublicKey)
  /-- The key is one that need not tell it, and does not. -/
  | untold
  deriving DecidableEq, Repr

/-- Whether a number is long enough for the modulus of an RSA key, and not too long: it has from
2048 to 8192 bits. -/
def isModulus (n : Nat) : Bool := 2047 ≤ n.log2 && n.log2 < 8192

/-- What an RSA key tells. The version, the number of the parts and the length of the modulus are
looked at; whether the secret numbers fit the modulus and each other is taken for granted. -/
def rsaPart? (bs : Bytes) : Option PublicPart :=
  match Der.sequence? bs with
  | some (version :: modulus :: exponent :: secrets) =>
    let parts := version :: modulus :: exponent :: secrets
    if parts.length = 9 ∧ parts.all (·.tag = Der.integer) ∧ version.content = [0] ∧
        isModulus (Der.number modulus.content) then
      some (.known ⟨rsa, Der.Element.encode ⟨Der.sequence, modulus.encode ++ exponent.encode⟩⟩)
    else none
  | _ => none

/-- The part of a key that has a number, if it is there. -/
def part? (n : UInt8) (parts : List Der.Element) : Option Bytes :=
  (parts.find? (·.tag = Der.numbered n)).map (·.content)

/-- The bits of a written string of whole bytes. -/
def bits? (e : Der.Element) : Option Bytes :=
  match e.content with
  | 0 :: bits => if e.tag = Der.bitString then some bits else none
  | _ => none

/-- What a key for a curve tells. It names the curve unless its wrapping does. -/
def curvePart? (wrapping : Option Bytes) (bs : Bytes) : Option PublicPart :=
  match Der.sequence? bs with
  | some (version :: secret :: parts) =>
    let isCurve (c : Bytes) : Bool := wrapping == some c || part? 0 parts == some (named c)
    if version = ⟨Der.integer, [1]⟩ ∧ secret.tag = Der.octetString then
      (curves.find? isCurve).bind fun curve =>
        match part? 1 parts with
        | none => some .untold
        | some bs =>
          match Der.element? bs with
          | some (e, []) => (bits? e).map fun bits => .known ⟨onCurve curve, bits⟩
          | _ => none
    else none
  | _ => none

/-- What a wrapped key tells. -/
def wrappedPart? (bs : Bytes) : Option PublicPart :=
  match Der.sequence? bs with
  | some (version :: algorithm :: key :: _) =>
    if version.tag = Der.integer ∧ algorithm.tag = Der.sequence ∧ key.tag = Der.octetString then
      if algorithm.content = rsa then rsaPart? key.content
      else if algorithm.content = edwards then some .untold
      else
        (curves.find? fun c => algorithm.content = onCurve c).bind fun c =>
          curvePart? (some c) key.content
    else none
  | _ => none

/-- What a private key of a form tells; nothing if it is no such key. -/
def KeyForm.publicPart? : KeyForm → Bytes → Option PublicPart
  | wrapped => wrappedPart?
  | rsa => rsaPart?
  | curve => curvePart? none

/-! ### Certificates -/

/-- The public key that a certificate states; nothing if it is no certificate of version 3. -/
def certifiedKey? (bs : Bytes) : Option PublicKey :=
  match Der.sequence? bs with
  | some [statement, _, _] =>
    match Der.elements? statement.content with
    | some (version :: _ :: _ :: _ :: _ :: _ :: subject :: _) =>
      if version = ⟨Der.numbered 0, Der.Element.encode ⟨Der.integer, [2]⟩⟩ then
        match Der.elements? subject.content with
        | some [algorithm, key] => (bits? key).map fun bits => ⟨algorithm.content, bits⟩
        | _ => none
      else none
    | _ => none
  | _ => none

end Gateway.Tls
