import Gateway.FileTree.Basic
import Gateway.Server.Settings
import Gateway.Tls.Key
import Gateway.Tls.Pem

/-!
# What a server shows itself with

A server whose connections are secured needs a certificate and the private key that belongs to it.
Both are read from files. The file of the key has to hold exactly one private key, and where the
key tells its public key, that has to be the one of the first certificate.
-/

namespace Gateway

/-- A certificate, with those that vouch for it, and its key. -/
structure TlsMaterial where
  /-- The certificates; the one of the server is the first. -/
  certificates : List Bytes
  /-- The private key. -/
  key : Bytes
  deriving DecidableEq, Repr

/-- Why a server cannot show itself. -/
inductive TlsFault where
  /-- There is no file of the certificate. -/
  | noCertificateFile (path : String)
  /-- There is no file of the key. -/
  | noKeyFile (path : String)
  /-- The file of the certificate cannot be made out. -/
  | unreadable (fault : Pem.Fault)
  /-- The file of the key does not hold one private key. -/
  | notOneKey
  /-- The key has no known form. -/
  | unknownForm
  /-- The key cannot be used. -/
  | unusableKey
  /-- The file of the certificate holds none. -/
  | noCertificate
  /-- The certificate cannot be made out. -/
  | badCertificate
  /-- The key belongs to another certificate. -/
  | foreignKey
  deriving DecidableEq, Repr

/-- The wording of a fault. -/
def TlsFault.message : TlsFault → String
  | noCertificateFile path => "certificate file not found: " ++ path
  | noKeyFile path => "private key file not found: " ++ path
  | unreadable fault => fault.message
  | notOneKey => "private key format not supported"
  | unknownForm => "unknown or invalid key format"
  | unusableKey => "unexpected error: failed to parse private key as RSA, ECDSA, or EdDSA"
  | noCertificate => "peer sent no certificates"
  | badCertificate => "invalid peer certificate: BadEncoding"
  | foreignKey => "keys may not be consistent: KeyMismatch"

namespace TlsMaterial

/-- The fault of a certificate that is to go with a public key, if any. -/
def mismatch? (certificates : List Bytes) : Tls.PublicPart → Option TlsFault
  | .untold => none
  | .known key =>
    match certificates with
    | [] => some .noCertificate
    | first :: _ =>
      match Tls.certifiedKey? first with
      | none => some .badCertificate
      | some certified => if certified = key then none else some .foreignKey

/-- The material that the texts of the two files give. A key counts as usable by its form alone: the
computations by which a library for TLS tests the secret numbers are not made (`Tls.rsaPart?`). -/
def ofPem? (certificates key : Bytes) : Except TlsFault TlsMaterial :=
  match Pem.certificates? certificates with
  | .error fault => .error (.unreadable fault)
  | .ok certificates =>
    match Pem.privateKeys key with
    | [key] =>
      match Tls.KeyForm.of? key with
      | none => .error .unknownForm
      | some form =>
        match form.publicPart? key with
        | none => .error .unusableKey
        | some part =>
          match mismatch? certificates part with
          | some fault => .error fault
          | none => .ok ⟨certificates, key⟩
    | _ => .error .notOneKey

/-- The material that two files give. -/
def load? (t : FileTree) (files : TlsFiles) : Except TlsFault TlsMaterial :=
  match t.regular? (Utf8.ofString files.certificate) with
  | none => .error (.noCertificateFile files.certificate)
  | some certificates =>
    match t.regular? (Utf8.ofString files.key) with
    | none => .error (.noKeyFile files.key)
    | some key => ofPem? certificates key

end TlsMaterial

end Gateway
