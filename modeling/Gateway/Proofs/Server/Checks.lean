import Gateway.Proofs.Server.Entries

/-!
# Checks of settings

Before a server is set up its configuration has to pass six checks, in a fixed order (`Check`).
Each of them looks at few settings and says what it finds wrong, independently of how the settings
are read. Reading succeeds exactly if all checks are passed, and otherwise shows what the first of
the others finds (`ServerSettings.ofConfig?_checks`). What is read then is described by
`ServerSettings.IsReadFrom`.
-/

namespace Gateway

/-! ### Methods, encodings and paths as texts -/

/-- A text writes a method of a resource: both are there, with a dot between them that is the last
one, and the method has no slash. -/
structure HeaderAuth.Writes (value : String) (auth : HeaderAuth) : Prop where
  /-- The text is made of both. -/
  text : value = auth.resource ++ "." ++ auth.method
  /-- There is a resource. -/
  resource : auth.resource ≠ ""
  /-- There is a method. -/
  method : auth.method ≠ ""
  /-- It has no dot. -/
  dot : '.' ∉ auth.method.toList
  /-- It has no slash. -/
  slash : '/' ∉ auth.method.toList

/-- Methods are read from the texts that write them, and from no others. -/
theorem HeaderAuth.ofString?_eq_some_iff {value : String} {auth : HeaderAuth} :
    ofString? value = some auth ↔ Writes value auth := by
  unfold ofString?
  constructor
  · intro h
    split at h
    · next resource method hcut =>
      obtain ⟨hvalue, hdot⟩ := Text.cutAtLast?_eq_some_iff.mp hcut
      split at h
      · next hparts =>
        obtain ⟨hresource, hmethod, hslash⟩ := hparts
        cases h
        refine ⟨?_, by simpa using hresource, by simpa using hmethod, by simpa using hdot,
          by simpa using hslash⟩
        rw [← String.toList_inj, hvalue]
        simp
      · cases h
    · cases h
  · rintro ⟨rfl, hresource, hmethod, hdot, hslash⟩
    have hcut : Text.cutAtLast? '.' (auth.resource ++ "." ++ auth.method).toList =
        some (auth.resource.toList, auth.method.toList) :=
      Text.cutAtLast?_eq_some_iff.mpr ⟨by simp, hdot⟩
    rw [hcut]
    dsimp only
    rw [if_pos ⟨by simpa using hresource, by simpa using hmethod, hslash⟩, String.ofList_toList,
      String.ofList_toList]

/-- A text writes one method at most. -/
theorem HeaderAuth.Writes.unique {value : String} {auth auth' : HeaderAuth} (h : Writes value auth)
    (h' : Writes value auth') : auth = auth' :=
  Option.some.inj ((ofString?_eq_some_iff.mpr h).symm.trans (ofString?_eq_some_iff.mpr h'))

/-- The name of an encoding. -/
def Encoding.name : Encoding → String
  | nested => "json"
  | flat => "jsonflat"

/-- Encodings are read from their names, in any case. -/
theorem Encoding.ofString?_eq_some_iff {value : String} {encoding : Encoding} :
    ofString? value = some encoding ↔ Text.sameIgnoringCase value encoding.name = true := by
  unfold ofString?
  have hdiffer {a b : String} (ha : Text.sameIgnoringCase value a = true)
      (hb : Text.sameIgnoringCase value b = true) : Text.lower a.toList = Text.lower b.toList :=
    (Text.sameIgnoringCase_iff.mp ha).symm.trans (Text.sameIgnoringCase_iff.mp hb)
  split
  · next hnested =>
    cases encoding with
    | nested => exact iff_of_true rfl hnested
    | flat => exact iff_of_false nofun fun hflat => absurd (hdiffer hnested hflat) (by decide)
  · next hnested =>
    split
    · next hflat =>
      cases encoding with
      | nested => exact iff_of_false nofun hnested
      | flat => exact iff_of_true rfl hflat
    · next hflat =>
      cases encoding with
      | nested => exact iff_of_false nofun hnested
      | flat => exact iff_of_false nofun hflat

/-- A text with something added to it exactly if it lacks that. -/
def IsCompleted (has : String → Prop) (add : String → String) (text completed : String) : Prop :=
  (has text → completed = text) ∧ (¬ has text → completed = add text)

/-- A text is completed in one way. -/
theorem IsCompleted.unique {has : String → Prop} {add : String → String}
    {text completed completed' : String} (h : IsCompleted has add text completed)
    (h' : IsCompleted has add text completed') : completed = completed' := by
  by_cases hhas : has text
  · exact (h.1 hhas).trans (h'.1 hhas).symm
  · exact (h.2 hhas).trans (h'.2 hhas).symm

/-- A text begins with a slash. -/
def BeginsWithSlash (path : String) : Prop := ∃ rest, path = "/" ++ rest

/-- A text ends in a slash. -/
def EndsInSlash (path : String) : Prop := ∃ front, path = front ++ "/"

theorem beginsWithSlash_iff {path : String} :
    BeginsWithSlash path ↔ path.toList.head? = some '/' := by
  constructor
  · rintro ⟨rest, rfl⟩
    rw [String.toList_append]
    rfl
  · intro h
    obtain ⟨rest, hrest⟩ := List.head?_eq_some_iff.mp h
    refine ⟨String.ofList rest, ?_⟩
    rw [← String.toList_inj, hrest, String.toList_append, String.toList_ofList (l := rest)]
    rfl

theorem endsInSlash_iff {path : String} :
    EndsInSlash path ↔ path.toList.getLast? = some '/' := by
  constructor
  · rintro ⟨front, rfl⟩
    rw [String.toList_append]
    exact List.getLast?_concat
  · intro h
    obtain ⟨front, hfront⟩ := List.getLast?_eq_some_iff.mp h
    refine ⟨String.ofList front, ?_⟩
    rw [← String.toList_inj, hfront, String.toList_append, String.toList_ofList]
    rfl

theorem isCompleted_withSlashBefore (path : String) :
    IsCompleted BeginsWithSlash ("/" ++ ·) path (withSlashBefore path) :=
  ⟨fun h => if_pos (beginsWithSlash_iff.mp h), fun h => if_neg (mt beginsWithSlash_iff.mpr h)⟩

theorem isCompleted_withSlashBehind (path : String) :
    IsCompleted EndsInSlash (· ++ "/") path (withSlashBehind path) :=
  ⟨fun h => if_pos (endsInSlash_iff.mp h), fun h => if_neg (mt endsInSlash_iff.mpr h)⟩

/-! ### Checks -/

/-- What is checked of a configuration, in the order of the checks. -/
inductive Check where
  /-- The address is one of the internet. -/
  | address
  /-- The method that authenticates requests is one of a resource. -/
  | headerAuth
  /-- The policy for origins is one. -/
  | origins
  /-- The encoding is one. -/
  | encoding
  /-- There is a certificate if connections are to be secured. -/
  | certificate
  /-- There is a key if they are. -/
  | key
  deriving DecidableEq

namespace Check

/-- All checks in their order. -/
def all : List Check := [address, headerAuth, origins, encoding, certificate, key]

/-- The checks that come before one. -/
def before (check : Check) : List Check := all.takeWhile (· ≠ check)

/-- Of two checks one comes before the other. -/
theorem mem_before_or {a b : Check} (h : a ≠ b) : a ∈ b.before ∨ b ∈ a.before := by
  cases a <;> cases b <;> first | exact absurd rfl h | decide

/-- A configuration passes a check. -/
def Passes (c : Config) : Check → Prop
  | address => ∃ ip, Ip.ofString? (c.addr.getD "0.0.0.0") = some ip
  | headerAuth => ∀ value, c.headerAuth = some value → ∃ auth, HeaderAuth.Writes value auth
  | origins => ∀ value, c.allowOrigin = some value →
      ∃ policy, OriginPolicy.ofString? value = .ok policy
  | encoding => ∃ encoding : Encoding, Text.sameIgnoringCase c.apiEncoding encoding.name = true
  | certificate => c.tls = true → c.tlsCert ≠ ""
  | key => c.tls = true → c.tlsKey ≠ ""

/-- What a check finds wrong with a configuration that does not pass it. -/
def Finds (c : Config) (fault : SettingFault) : Check → Prop
  | address => fault = .address (c.addr.getD "0.0.0.0")
  | headerAuth => ∃ value, c.headerAuth = some value ∧ fault = .headerAuth value
  | origins => ∃ value found, c.allowOrigin = some value ∧
      OriginPolicy.ofString? value = .error found ∧ fault = .origins found
  | encoding => fault = .encoding c.apiEncoding
  | certificate => fault = .noCertificate
  | key => fault = .noKey

/-- A check finds one thing wrong. -/
theorem Finds.unique {c : Config} {check : Check} {fault fault' : SettingFault}
    (h : check.Finds c fault) (h' : check.Finds c fault') : fault = fault' := by
  cases check with
  | headerAuth =>
    obtain ⟨value, hvalue, rfl⟩ := h
    obtain ⟨value', hvalue', rfl⟩ := h'
    exact congrArg _ (Option.some.inj (hvalue.symm.trans hvalue'))
  | origins =>
    obtain ⟨value, found, hvalue, hfound, rfl⟩ := h
    obtain ⟨value', found', hvalue', hfound', rfl⟩ := h'
    obtain rfl := Option.some.inj (hvalue.symm.trans hvalue')
    exact congrArg _ (Except.error.inj (hfound.symm.trans hfound'))
  | address => exact h.trans h'.symm
  | encoding => exact h.trans h'.symm
  | certificate => exact h.trans h'.symm
  | key => exact h.trans h'.symm

end Check

namespace ServerSettings

/-- What settings are read from a configuration that passes all checks. -/
structure IsReadFrom (s : ServerSettings) (c : Config) : Prop where
  /-- The server listens at the address, which is that of all interfaces if none is given. -/
  endpoint : ∃ ip, Ip.ofString? (c.addr.getD "0.0.0.0") = some ip ∧ s.endpoint = ⟨ip, c.port⟩
  /-- The method of authentication is the one that is given. -/
  headerAuth : Option.Rel HeaderAuth.Writes c.headerAuth s.headerAuth
  /-- All origins pass if no policy is given. -/
  noOrigins : c.allowOrigin = none → s.origins = .any
  /-- Otherwise the policy is the one that is given. -/
  origins : ∀ value, c.allowOrigin = some value → OriginPolicy.ofString? value = .ok s.origins
  /-- The encoding is named in some letter case. -/
  encoding : Text.sameIgnoringCase c.apiEncoding s.encoding.name = true
  /-- The path of the socket endpoint has a slash put in front if it lacks one. -/
  socketPath : IsCompleted BeginsWithSlash ("/" ++ ·) c.wsPath s.socketPath
  /-- That of the resources also one behind, if it lacks one then. -/
  resourcePath : ∃ path, IsCompleted BeginsWithSlash ("/" ++ ·) c.apiPath path ∧
    IsCompleted EndsInSlash (· ++ "/") path s.resourcePath
  /-- The files are there if connections are to be secured. -/
  tls : s.tls = if c.tls then some ⟨c.tlsCert, c.tlsKey⟩ else none

/-- A configuration has at most one form in which it is read. -/
theorem IsReadFrom.unique {s s' : ServerSettings} {c : Config} (h : s.IsReadFrom c)
    (h' : s'.IsReadFrom c) : s = s' := by
  obtain ⟨ip, hip, hendpoint⟩ := h.endpoint
  obtain ⟨ip', hip', hendpoint'⟩ := h'.endpoint
  obtain rfl := Option.some.inj (hip.symm.trans hip')
  obtain ⟨hips, hports⟩ := Endpoint.mk.inj (hendpoint.trans hendpoint'.symm)
  obtain ⟨path, hpath, hresource⟩ := h.resourcePath
  obtain ⟨path', hpath', hresource'⟩ := h'.resourcePath
  obtain rfl := hpath.unique hpath'
  have hheaderAuth : s.headerAuth = s'.headerAuth := by
    have hgiven := h.headerAuth
    have hgiven' := h'.headerAuth
    generalize c.headerAuth = given, s.headerAuth = found, s'.headerAuth = found'
      at hgiven hgiven' ⊢
    cases hgiven with
    | none =>
      cases hgiven'
      rfl
    | some hwrites =>
      cases hgiven' with
      | some hwrites' => exact congrArg some (hwrites.unique hwrites')
  have horigins : s.origins = s'.origins := by
    cases hvalue : c.allowOrigin with
    | none => exact (h.noOrigins hvalue).trans (h'.noOrigins hvalue).symm
    | some value =>
      exact Except.ok.inj ((h.origins value hvalue).symm.trans (h'.origins value hvalue))
  have hencoding : s.encoding = s'.encoding :=
    Option.some.inj ((Encoding.ofString?_eq_some_iff.mpr h.encoding).symm.trans
      (Encoding.ofString?_eq_some_iff.mpr h'.encoding))
  exact (ServerSettings.mk.injEq ..).mpr ⟨hips, hports, h.socketPath.unique h'.socketPath,
    hresource.unique hresource', hheaderAuth, horigins, hencoding, h.tls.trans h'.tls.symm⟩

/-! ### Steps -/

variable {c : Config} {s : ServerSettings} {fault : SettingFault}

theorem orFault_eq_error {α : Type} {shown : SettingFault} {o : Option α}
    (h : orFault shown o = .error fault) : (¬ ∃ a, o = some a) ∧ fault = shown := by
  cases o with
  | none =>
    refine ⟨?_, (Except.error.inj h).symm⟩
    rintro ⟨a, ha⟩
    cases ha
  | some a => cases h

/-- A method that is read, or not given, passes its check. -/
theorem of_headerAuthOf? {found : Option HeaderAuth} (h : headerAuthOf? c = .ok found) :
    Check.headerAuth.Passes c ∧ Option.Rel HeaderAuth.Writes c.headerAuth found := by
  unfold headerAuthOf? at h
  split at h
  · next hnone =>
    cases h
    rw [hnone]
    exact ⟨fun value hvalue => (nomatch hnone.symm.trans hvalue), .none⟩
  · next value hvalue =>
    obtain ⟨auth, hauth, rfl⟩ := exists_ok_of_map h
    have hwrites := HeaderAuth.ofString?_eq_some_iff.mp (orFault_eq_ok_iff.mp hauth)
    rw [hvalue]
    refine ⟨fun value' hvalue' => ?_, .some hwrites⟩
    exact ⟨auth, Option.some.inj (hvalue.symm.trans hvalue') ▸ hwrites⟩

/-- A method that is not read fails its check, which finds the fault. -/
theorem headerAuthOf?_eq_error (h : headerAuthOf? c = .error fault) :
    ¬ Check.headerAuth.Passes c ∧ Check.headerAuth.Finds c fault := by
  unfold headerAuthOf? at h
  split at h
  · cases h
  · next value hvalue =>
    cases hauth : HeaderAuth.ofString? value with
    | some auth =>
      rw [hauth] at h
      cases h
    | none =>
      rw [hauth] at h
      cases h
      refine ⟨fun hpasses => ?_, value, hvalue, rfl⟩
      obtain ⟨auth, hwrites⟩ := hpasses value hvalue
      cases hauth.symm.trans (HeaderAuth.ofString?_eq_some_iff.mpr hwrites)

/-- Origins that are not read fail their check, which finds the fault. -/
theorem originsOf?_eq_error (h : originsOf? c = .error fault) :
    ¬ Check.origins.Passes c ∧ Check.origins.Finds c fault := by
  unfold originsOf? at h
  split at h
  · cases h
  · next value hvalue =>
    cases hpolicy : OriginPolicy.ofString? value with
    | ok policy =>
      rw [hpolicy] at h
      cases h
    | error found =>
      rw [hpolicy] at h
      cases h
      refine ⟨fun hpasses => ?_, value, found, hvalue, hpolicy, rfl⟩
      obtain ⟨policy, hread⟩ := hpasses value hvalue
      cases hpolicy.symm.trans hread

/-- Files that are named, or not needed, pass both of their checks. -/
theorem of_tlsOf? {found : Option TlsFiles} (h : tlsOf? c = .ok found) :
    Check.certificate.Passes c ∧ Check.key.Passes c ∧
      found = if c.tls then some ⟨c.tlsCert, c.tlsKey⟩ else none := by
  unfold tlsOf? at h
  cases htls : c.tls with
  | false =>
    rw [htls] at h
    cases h
    have hoff : c.tls ≠ true := Bool.eq_false_iff.mp htls
    exact ⟨fun hon => absurd hon hoff, fun hon => absurd hon hoff, rfl⟩
  | true =>
    rw [htls, Bool.not_true, if_neg Bool.false_ne_true] at h
    split at h
    · cases h
    next hcertificate =>
    split at h
    · cases h
    next hkey =>
    cases h
    exact ⟨fun _ => by simpa using hcertificate, fun _ => by simpa using hkey, rfl⟩

/-- A file that is not named is missed only where connections are to be secured, the certificate
first. -/
theorem tlsOf?_eq_error (h : tlsOf? c = .error fault) :
    c.tls = true ∧ (c.tlsCert = "" ∧ fault = .noCertificate ∨
      c.tlsCert ≠ "" ∧ c.tlsKey = "" ∧ fault = .noKey) := by
  unfold tlsOf? at h
  split at h
  · cases h
  next htls =>
  refine ⟨by simpa using htls, ?_⟩
  split at h
  · next hcertificate =>
    cases h
    exact .inl ⟨by simpa using hcertificate, rfl⟩
  next hcertificate =>
  split at h
  · next hkey =>
    cases h
    exact .inr ⟨by simpa using hcertificate, by simpa using hkey, rfl⟩
  · cases h

/-- What is read has passed all checks. -/
theorem isReadFrom_of_ofConfig? (h : ofConfig? c = .ok s) :
    (∀ check : Check, check.Passes c) ∧ s.IsReadFrom c := by
  obtain ⟨hnone, hsome⟩ := origins_of_ofConfig? h
  obtain ⟨ip, headerAuth, origins, encoding, tls, hip, hheaderAuth, -, hencoding, htls, rfl⟩ :=
    exists_of_ofConfig? h
  obtain ⟨hauth, hgiven⟩ := of_headerAuthOf? hheaderAuth
  have hname := Encoding.ofString?_eq_some_iff.mp hencoding
  obtain ⟨hcertificate, hkey, hfiles⟩ := of_tlsOf? htls
  refine ⟨fun check => ?_, ⟨ip, hip, rfl⟩, hgiven, hnone, hsome, hname,
    isCompleted_withSlashBefore c.wsPath,
    ⟨_, isCompleted_withSlashBefore c.apiPath, isCompleted_withSlashBehind _⟩, hfiles⟩
  cases check with
  | address => exact ⟨ip, hip⟩
  | headerAuth => exact hauth
  | origins => exact fun value hvalue => ⟨origins, hsome value hvalue⟩
  | encoding => exact ⟨encoding, hname⟩
  | certificate => exact hcertificate
  | key => exact hkey

/-- A fault is what the first check that is not passed finds. -/
theorem exists_check_of_ofConfig? (h : ofConfig? c = .error fault) :
    ∃ check : Check, (∀ p ∈ check.before, p.Passes c) ∧ ¬ check.Passes c ∧
      check.Finds c fault := by
  rw [ofConfig?_eq] at h
  rcases error_or_of_bind h with h | ⟨ip, hip, h⟩
  · obtain ⟨hfails, hfinds⟩ := orFault_eq_error h
    exact ⟨.address, by simp [Check.before, Check.all], hfails, hfinds⟩
  have haddress : Check.address.Passes c := ⟨ip, orFault_eq_ok_iff.mp hip⟩
  rcases error_or_of_bind h with h | ⟨found, hfound, h⟩
  · obtain ⟨hfails, hfinds⟩ := headerAuthOf?_eq_error h
    exact ⟨.headerAuth, by simp [Check.before, Check.all, haddress], hfails, hfinds⟩
  have hauth := (of_headerAuthOf? hfound).1
  rcases error_or_of_bind h with h | ⟨policy, hpolicy, h⟩
  · obtain ⟨hfails, hfinds⟩ := originsOf?_eq_error h
    exact ⟨.origins, by simp [Check.before, Check.all, haddress, hauth], hfails, hfinds⟩
  have horigins : Check.origins.Passes c := fun value hvalue =>
    ⟨policy, (of_originsOf? hpolicy).2 value hvalue⟩
  rcases error_or_of_bind h with h | ⟨encoding, hencoding, h⟩
  · obtain ⟨hnone, hfinds⟩ := orFault_eq_error h
    have hfails : ¬ Check.encoding.Passes c :=
      mt (Exists.imp fun _ => Encoding.ofString?_eq_some_iff.mpr) hnone
    exact ⟨.encoding, by simp [Check.before, Check.all, haddress, hauth, horigins], hfails, hfinds⟩
  have hname : Check.encoding.Passes c :=
    ⟨encoding, Encoding.ofString?_eq_some_iff.mp (orFault_eq_ok_iff.mp hencoding)⟩
  rcases error_or_of_bind h with h | ⟨tls, -, h⟩
  · obtain ⟨hon, ⟨hcertificate, rfl⟩ | ⟨hcertificate, hkey, rfl⟩⟩ := tlsOf?_eq_error h
    · exact ⟨.certificate, by simp [Check.before, Check.all, haddress, hauth, horigins, hname],
        fun hpasses => hpasses hon hcertificate, rfl⟩
    · have hthere : Check.certificate.Passes c := fun _ => hcertificate
      exact ⟨.key, by simp [Check.before, Check.all, haddress, hauth, horigins, hname, hthere],
        fun hpasses => hpasses hon hkey, rfl⟩
  · cases h

/-- A configuration that passes all checks is read. -/
theorem exists_ofConfig?_of_passes (h : ∀ check : Check, check.Passes c) :
    ∃ s, ofConfig? c = .ok s := by
  cases hresult : ofConfig? c with
  | ok s => exact ⟨s, rfl⟩
  | error fault =>
    obtain ⟨check, -, hfails, -⟩ := exists_check_of_ofConfig? hresult
    exact absurd (h check) hfails

/-- Without secured connections the files do not matter. -/
theorem ofConfig?_of_tls_eq_false (h : c.tls = false) (certificate key : String) :
    ofConfig? { c with tlsCert := certificate, tlsKey := key } = ofConfig? c := by
  have htls {c : Config} (h : c.tls = false) : tlsOf? c = .ok none := by
    unfold tlsOf?
    rw [h]
    rfl
  have hother : { c with tlsCert := certificate, tlsKey := key }.tls = false := h
  rw [ofConfig?_eq, ofConfig?_eq, htls h, htls hother]
  rfl

end ServerSettings

/-- The wording of a fault has the setting in front of the text and the reason behind it. -/
theorem SettingFault.wording_eq {setting : Setting} {front : String}
    (h : "invalid " ++ setting.key ++ " setting (" = front) (text reason : String) :
    wording setting text reason = front ++ text ++ ("): " ++ reason) := by
  rw [wording, h, String.append_assoc]

open ServerSettings in
/-- **Settings are read exactly if they pass all checks**, which are made in a fixed order. The
first that is not passed tells the fault, and shows the text that it finds. The files of the
certificate and the key do not matter if connections are not secured. -/
theorem ServerSettings.ofConfig?_checks (c : Config) :
    (∀ s, ofConfig? c = .ok s ↔ (∀ check : Check, check.Passes c) ∧ s.IsReadFrom c) ∧
    ((∃ s, ofConfig? c = .ok s) ↔ ∀ check : Check, check.Passes c) ∧
    (∀ fault, ofConfig? c = .error fault ↔
      ∃ check : Check, (∀ p ∈ check.before, p.Passes c) ∧ ¬ check.Passes c ∧
        check.Finds c fault) ∧
    (c.tls = false → ∀ certificate key,
      ofConfig? { c with tlsCert := certificate, tlsKey := key } = ofConfig? c) ∧
    ∀ text,
      (SettingFault.address text).message =
        "invalid addr setting (" ++ text ++ "): not a valid IP address" ∧
      (SettingFault.headerAuth text).message =
        "invalid headerAuth setting (" ++ text ++ "): must be a resource method (rid.method)" ∧
      (SettingFault.origins (.combined text)).message =
        "invalid allowOrigin setting (" ++ text ++
          "): '*' and 'sop' must not be combined with other origins" ∧
      (SettingFault.origins (.notOrigin text)).message =
        "invalid allowOrigin setting (" ++ text ++ "): not a valid origin" ∧
      (SettingFault.encoding text).message =
        "invalid apiEncoding setting (" ++ text ++ "): must be json or jsonflat" ∧
      SettingFault.noCertificate.message = "certificate file not set" ∧
      SettingFault.noKey.message = "private key file not set" := by
  refine ⟨fun s => ⟨isReadFrom_of_ofConfig?, fun ⟨hpasses, hread⟩ => ?_⟩,
    ⟨fun ⟨s, hs⟩ => (isReadFrom_of_ofConfig? hs).1, exists_ofConfig?_of_passes⟩,
    fun fault => ⟨exists_check_of_ofConfig?, ?_⟩, ofConfig?_of_tls_eq_false, fun text => ?_⟩
  · obtain ⟨s', hs'⟩ := exists_ofConfig?_of_passes hpasses
    exact hread.unique (isReadFrom_of_ofConfig? hs').2 ▸ hs'
  · rintro ⟨check, hbefore, hfails, hfinds⟩
    cases hresult : ofConfig? c with
    | ok s => exact absurd ((isReadFrom_of_ofConfig? hresult).1 check) hfails
    | error fault' =>
      obtain ⟨check', hbefore', hfails', hfinds'⟩ := exists_check_of_ofConfig? hresult
      have hcheck : check = check' := by
        by_contra hne
        rcases Check.mem_before_or hne with hmem | hmem
        · exact hfails (hbefore' check hmem)
        · exact hfails' (hbefore check' hmem)
      subst hcheck
      rw [hfinds.unique hfinds']
  · exact ⟨SettingFault.wording_eq (by decide) text _, SettingFault.wording_eq (by decide) text _,
      SettingFault.wording_eq (by decide) text _, SettingFault.wording_eq (by decide) text _,
      SettingFault.wording_eq (by decide) text _, rfl, rfl⟩

/-- The address comes first, whatever else is wrong. -/
example : ServerSettings.ofConfig? { Config.standard with addr := some "::g", tls := true } =
    .error (.address "::g") := by decide +kernel

end Gateway
