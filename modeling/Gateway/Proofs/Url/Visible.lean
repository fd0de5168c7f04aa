import Gateway.Origin
import Gateway.Proofs.Domain.Punycode

/-!
# The characters of hosts and origins

Where hosts are looked up, their written form is made of the ASCII characters that stand for
themselves in domain names (`Domain.IsPlain`), none of which separates the parts of an address: a
label of a domain name is either ASCII itself or Punycode, and an address of version 4 is digits and
dots. The colons of an address of version 6 are enclosed in brackets
(`Host.isBareText_of_ofWebText?`). A port that is kept is not the scheme's own.

So the normal form of an origin is a scheme, a host and maybe a port (`Origin.exists_of_normal?`).
It is made of visible characters (`Origin.isVisible_of_normal?`) and can stand in a header as it is.
-/

namespace Gateway

/-! ### Computations that succeed -/

theorem ok_bind {ε α β : Type} (a : α) (f : α → Except ε β) : (.ok a >>= f) = f a := rfl

/-- A computation of two steps succeeds if both of them do. -/
theorem exists_ok_of_bind {ε α β : Type} {x : Except ε α} {f : α → Except ε β} {b : β}
    (h : x >>= f = .ok b) : ∃ a, x = .ok a ∧ f a = .ok b := by
  cases x with
  | error e => cases h
  | ok a => exact ⟨a, rfl, h⟩

/-- It fails if one of them does. -/
theorem error_or_of_bind {ε α β : Type} {x : Except ε α} {f : α → Except ε β} {e : ε}
    (h : x >>= f = .error e) : x = .error e ∨ ∃ a, x = .ok a ∧ f a = .error e := by
  cases x with
  | error e' => exact .inl (congrArg _ (Except.error.inj h))
  | ok a => exact .inr ⟨a, rfl, h⟩

theorem exists_ok_of_map {ε α β : Type} {x : Except ε α} {f : α → β} {b : β}
    (h : x.map f = .ok b) : ∃ a, x = .ok a ∧ f a = b := by
  cases x with
  | error e => cases h
  | ok a => exact ⟨a, rfl, Except.ok.inj h⟩

theorem ok_of_mapError {ε ε' α : Type} {x : Except ε α} {f : ε → ε'} {a : α}
    (h : x.mapError f = .ok a) : x = .ok a := by
  cases x with
  | error e => cases h
  | ok a => exact congrArg _ (Except.ok.inj h)

theorem ok_of_toOption {ε α : Type} {x : Except ε α} {a : α} (h : x.toOption = some a) :
    x = .ok a := by
  cases x with
  | error e => cases h
  | ok a => exact congrArg _ (Option.some.inj h)

/-! ### Texts -/

/-- What is checked of each element of a list holds of them. The check runs along the list, however
many things of its type there are. -/
theorem forall_mem_of_all {α : Type} {p : α → Prop} [DecidablePred p] {xs : List α}
    (h : xs.all (fun x => decide (p x)) = true) : ∀ x ∈ xs, p x := fun x hx =>
  of_decide_eq_true (List.all_eq_true.mp h x hx)

namespace Text

/-- All characters of a text are visible ASCII characters. -/
def IsVisible (cs : List Char) : Prop := ∀ c ∈ cs, 0x20 < c.toNat ∧ c.toNat < 0x7F

instance (cs : List Char) : Decidable (IsVisible cs) :=
  List.decidableBAll (fun c : Char => 0x20 < c.toNat ∧ c.toNat < 0x7F) cs

theorem isVisible_append {a b : List Char} : IsVisible (a ++ b) ↔ IsVisible a ∧ IsVisible b :=
  List.forall_mem_append

/-- What holds of all characters of some pieces, and of a separator, holds of those of the text that
they are joined to. -/
theorem forall_mem_join {P : Char → Prop} {sep : Char} (hsep : P sep) {ps : List (List Char)}
    (h : ∀ p ∈ ps, ∀ c ∈ p, P c) : ∀ c ∈ join sep ps, P c := by
  induction ps with
  | nil => exact fun _ hc => absurd hc List.not_mem_nil
  | cons p ps ih =>
    obtain ⟨hp, hps⟩ := List.forall_mem_cons.mp h
    cases ps with
    | nil => exact hp
    | cons q qs => exact List.forall_mem_append.mpr ⟨hp, List.forall_mem_cons.mpr ⟨hsep, ih hps⟩⟩

/-- What holds of all hexadecimal digits holds of those of a number. -/
theorem forall_mem_hexDigits {P : Char → Prop} (h : ∀ n, P (hexDigit n)) (width n : Nat) :
    ∀ c ∈ hexDigits width n, P c := by
  have hmore (fuel n : Nat) : ∀ c ∈ hexDigits.more fuel n, P c := by
    induction fuel generalizing n with
    | zero => exact fun _ hc => absurd hc List.not_mem_nil
    | succ fuel ih =>
      unfold hexDigits.more
      split
      · exact fun _ hc => absurd hc List.not_mem_nil
      · exact List.forall_mem_append.mpr ⟨ih _, List.forall_mem_singleton.mpr (h n)⟩
  induction width generalizing n with
  | zero => exact hmore 8 n
  | succ width ih => exact List.forall_mem_append.mpr ⟨ih _, List.forall_mem_singleton.mpr (h n)⟩

end Text

open Text

/-! ### Domain names -/

namespace Domain

/-- Whether a character is one of the ASCII characters that stand for themselves in domain
names. -/
def isPlain (c : Char) : Bool := isAllowedAscii c && !c.isUpper

/-- All characters of a text are ASCII characters that stand for themselves in domain names. -/
def IsPlain (cs : List Char) : Prop := ∀ c ∈ cs, isPlain c = true

instance (cs : List Char) : Decidable (IsPlain cs) :=
  List.decidableBAll (fun c => isPlain c = true) cs

theorem isPlain_append {a b : List Char} : IsPlain (a ++ b) ↔ IsPlain a ∧ IsPlain b :=
  List.forall_mem_append

theorem isVisible_of_isPlain {cs : List Char} (h : IsPlain cs) : IsVisible cs := by
  intro c hc
  have hplain := h c hc
  simp only [isPlain, isAllowedAscii, Bool.and_eq_true, decide_eq_true_eq] at hplain
  exact hplain.1.1

/-- Plain characters are none of the others. -/
theorem not_mem_of_isPlain {cs : List Char} (h : IsPlain cs) {c : Char} (hc : isPlain c = false) :
    c ∉ cs := fun hmem => Bool.false_ne_true (hc.symm.trans (h c hmem))

/-! #### Numerals -/

theorem isPlain_digits (n : Nat) : IsPlain (Decimal.digits n) := by
  have hdigit (n : Nat) : isPlain (Decimal.digit n) = true := by
    have h : n % 10 < 10 := Nat.mod_lt _ (by decide)
    unfold Decimal.digit
    generalize n % 10 = m at h
    decide +revert
  induction n using Decimal.digits.induct with
  | case1 n hn =>
    rw [Decimal.digits, if_pos hn]
    exact List.forall_mem_singleton.mpr (hdigit n)
  | case2 n hn ih =>
    rw [Decimal.digits, if_neg hn]
    exact isPlain_append.mpr ⟨ih, List.forall_mem_singleton.mpr (hdigit n)⟩

theorem isPlain_hexDigit (n : Nat) : isPlain (hexDigit n) = true := by
  have h : n % 16 < 16 := Nat.mod_lt _ (by decide)
  unfold hexDigit
  generalize n % 16 = m at h
  decide +revert

theorem isPlain_hexDigits (width n : Nat) : IsPlain (hexDigits width n) :=
  forall_mem_hexDigits isPlain_hexDigit width n

/-! #### Labels -/

/-- Punycode is plain if the ASCII characters of the text are. -/
theorem Punycode.isPlain_encode {cs : List Char} (h : IsPlain (cs.filter isAscii)) :
    IsPlain (encode cs) := by
  have hdigit : ∀ d < 36, isPlain (digit d) = true := by decide
  exact forall_mem_encode (P := (isPlain · = true)) hdigit (by decide) h

/-- The ASCII characters of a label are plain. -/
private theorem isPlain_filter_isAscii {label : List Char} (h : label.all isValid = true) :
    IsPlain (label.filter Punycode.isAscii) := by
  intro c hc
  obtain ⟨hmem, hascii⟩ := List.mem_filter.mp hc
  have hvalid := List.all_eq_true.mp h c hmem
  rwa [isValid, if_pos (of_decide_eq_true hascii)] at hvalid

theorem Label.isPlain_toAscii {label : List Char} (h : Label.isLabel label = true) :
    IsPlain (Label.toAscii label) := by
  have hvalid : label.all isValid = true := by
    simp only [Label.isLabel, Bool.and_eq_true] at h
    exact h.1.1.1
  have hfilter := isPlain_filter_isAscii hvalid
  unfold Label.toAscii
  split
  · next hascii => rwa [List.filter_eq_self.mpr (List.all_eq_true.mp hascii)] at hfilter
  · exact isPlain_append.mpr ⟨by decide, Punycode.isPlain_encode hfilter⟩

/-- Names that are written in ASCII are plain. -/
theorem isPlain_toAscii? {cs domain : List Char} (h : toAscii? cs = some domain) :
    IsPlain domain := by
  unfold toAscii? at h
  split at h
  · cases h
  split at h
  · next hlabels =>
    cases h
    rw [Bool.and_eq_true] at hlabels
    refine forall_mem_join (by decide) fun p hp => ?_
    obtain ⟨label, hlabel, rfl⟩ := List.mem_map.mp hp
    exact Label.isPlain_toAscii (List.all_eq_true.mp hlabels.1 label hlabel)
  · cases h

end Domain

/-! ### Hosts -/

open Domain (IsPlain isPlain_digits isVisible_of_isPlain)

theorem Ipv4.isPlain_toText (ip : Ipv4) : IsPlain ip.toText := by
  refine forall_mem_join (by decide) fun p hp => ?_
  obtain ⟨o, -, rfl⟩ := List.mem_map.mp hp
  exact isPlain_digits _

theorem Ipv4.toText_ne_nil (ip : Ipv4) : ip.toText ≠ [] :=
  List.append_ne_nil_of_left_ne_nil (Decimal.digits_ne_nil _) _

/-- What holds of colons and of all hexadecimal digits holds of the characters that an address of
version 6 is written with. -/
theorem Ipv6.forall_mem_toText {P : Char → Prop} (hcolon : P ':') (hdigit : ∀ n, P (hexDigit n))
    (ip : Ipv6) : ∀ c ∈ ip.toText, P c := by
  have hgroups (gs : List UInt16) : ∀ c ∈ groupsText gs, P c := by
    refine forall_mem_join hcolon fun p hp => ?_
    obtain ⟨g, -, rfl⟩ := List.mem_map.mp hp
    exact forall_mem_hexDigits hdigit _ _
  unfold toText
  dsimp only
  split
  · have hgap : ∀ c ∈ [':', ':'], P c := fun c hc =>
      (List.eq_of_mem_replicate (n := 2) hc) ▸ hcolon
    exact List.forall_mem_append.mpr
      ⟨List.forall_mem_append.mpr ⟨hgroups _, hgap⟩, hgroups _⟩
  · exact hgroups _

/-- An address of version 6 is written with plain characters and colons. -/
theorem Ipv6.isPlain_or_of_mem_toText (ip : Ipv6) :
    ∀ c ∈ ip.toText, Domain.isPlain c = true ∨ c = ':' :=
  ip.forall_mem_toText (.inr rfl) fun n => .inl (Domain.isPlain_hexDigit n)

theorem Ipv6.isVisible_toText (ip : Ipv6) : IsVisible ip.toText := by
  intro c hc
  rcases ip.isPlain_or_of_mem_toText c hc with h | rfl
  · exact isVisible_of_isPlain (List.forall_mem_singleton.mpr h) c List.mem_cons_self
  · decide

namespace Host

theorem toList_toString_v6 (ip : Ipv6) : (toString (.v6 ip)).toList = '[' :: ip.toText ++ [']'] :=
  String.toList_ofList

/-- The form of a host that is looked up: plain characters, or an address of version 6 in
brackets. -/
def IsBareText (cs : List Char) : Prop :=
  cs ≠ [] ∧ IsPlain cs ∨ ∃ ip : Ipv6, cs = '[' :: ip.toText ++ [']']

/-- The hosts that texts write where hosts are looked up: addresses, and domain names in ASCII form
that do not end in a number. -/
inductive IsWeb : Host → Prop
  | v6 (ip : Ipv6) : IsWeb (.v6 ip)
  | v4 (ip : Ipv4) : IsWeb (.v4 ip)
  | name {text domain : List Char} (hdomain : Domain.toAscii? text = some domain)
    (hne : domain ≠ []) (hnumber : endsInNumber domain = false) :
    IsWeb (.name (String.ofList domain))

/-- A host that is read from a text of the web is one of the web. -/
theorem isWeb_of_ofWebText? {cs : List Char} {host : Host} (h : ofWebText? cs = .ok host) :
    IsWeb host := by
  unfold ofWebText? at h
  split at h
  · unfold bracketed? at h
    split at h
    · split at h
      · cases h
        exact .v6 _
      · cases h
    · cases h
  · split at h
    · cases h
    next domain hdomain =>
    obtain ⟨text, -, hdomain⟩ := Option.bind_eq_some_iff.mp hdomain
    split at h
    · cases h
    next hne =>
    split at h
    · split at h
      · cases h
        exact .v4 _
      · cases h
    next hnumber =>
    cases h
    exact .name hdomain (by simpa using hne) (Bool.eq_false_iff.mpr hnumber)

theorem IsWeb.isBareText {host : Host} (h : IsWeb host) : IsBareText host.toString.toList := by
  cases h with
  | v6 ip => exact .inr ⟨ip, toList_toString_v6 ip⟩
  | v4 ip =>
    rw [toString, String.toList_ofList]
    exact .inl ⟨ip.toText_ne_nil, ip.isPlain_toText⟩
  | name hdomain hne =>
    rw [toString, String.toList_ofList]
    exact .inl ⟨hne, Domain.isPlain_toAscii? hdomain⟩

/-- Hosts that are read from texts of the web are written as bare texts. -/
theorem isBareText_of_ofWebText? {cs : List Char} {host : Host} (h : ofWebText? cs = .ok host) :
    IsBareText host.toString.toList :=
  (isWeb_of_ofWebText? h).isBareText

/-- A host that is looked up is written with visible characters. -/
theorem IsBareText.isVisible {cs : List Char} (h : IsBareText cs) : IsVisible cs := by
  rcases h with ⟨-, hplain⟩ | ⟨ip, rfl⟩
  · exact isVisible_of_isPlain hplain
  · exact isVisible_append (a := ['[']).mpr
      ⟨by decide, isVisible_append.mpr ⟨ip.isVisible_toText, by decide⟩⟩

end Host

/-! ### Authorities -/

namespace Authority

/-- A port as it is written behind a host. -/
def portText (port : Option UInt16) : List Char :=
  port.elim [] fun p => ':' :: Decimal.digits p.toNat

/-- A port is written behind its host. -/
theorem toList_hostAndPort {a : Authority} {host : Host} (h : a.host = some host) :
    a.hostAndPort.toList = host.toString.toList ++ portText a.port := by
  rw [hostAndPort, h, String.toList_append]
  cases a.port with
  | none => rfl
  | some p =>
    have hdigits : (Decimal.toString p.toNat).toList = Decimal.digits p.toNat :=
      String.toList_ofList
    change _ ++ (":" ++ Decimal.toString p.toNat).toList = _
    rw [String.toList_append, hdigits]
    rfl

theorem isVisible_portText (port : Option UInt16) : IsVisible (portText port) := by
  cases port with
  | none => decide
  | some p =>
    exact List.forall_mem_cons.mpr ⟨by decide, isVisible_of_isPlain (isPlain_digits p.toNat)⟩

/-- A port that is kept is not the scheme's own. -/
theorem ne_of_portAfter? {kind : Scheme.Kind} {cs rest : List Char} {port : Option UInt16}
    (h : portAfter? kind cs = .ok (port, rest)) : ∀ p, port = some p → kind.port? ≠ some p := by
  rintro p rfl hown
  unfold portAfter? at h
  split at h
  · dsimp only at h
    split at h
    · next q _ _ =>
      obtain ⟨hport, -⟩ := (Prod.mk.injEq ..).mp (Except.ok.inj h)
      split at hport
      · cases hport
      · next hne =>
        obtain rfl := Option.some.inj hport
        exact hne (.inr hown)
    · next q _ _ =>
      obtain ⟨hport, -⟩ := (Prod.mk.injEq ..).mp (Except.ok.inj h)
      split at hport
      · cases hport
      · next hne =>
        obtain rfl := Option.some.inj hport
        exact hne (.inr hown)
    · cases h
  · cases h

/-- The host of an authority is what stands between the user and the port. -/
theorem parts_of_ofText? {kind : Scheme.Kind} {isLast : Bool} {cs rest : List Char}
    {a : Authority} (h : ofText? kind isLast cs = .ok (a, rest)) :
    (∃ front, hostOf? kind front = .ok a.host) ∧ ∀ p, a.port = some p → kind.port? ≠ some p := by
  unfold ofText? at h
  extract_lets go at h
  -- whatever stands in front of the host, the host is read in the same way
  have hgo (user password : String) (hostText : List Char)
      (hx : go (user, password, hostText) = .ok (a, rest)) :
      (∃ front, hostOf? kind front = .ok a.host) ∧
        ∀ p, a.port = some p → kind.port? ≠ some p := by
    obtain ⟨host, hhost, hx⟩ := exists_ok_of_bind hx
    extract_lets go at hx
    split at hx
    · cases hx
    obtain ⟨⟨port, rest⟩, hport, hx⟩ := exists_ok_of_bind hx
    dsimp only at hx
    split at hx
    · cases hx
    · cases hx
      exact ⟨⟨_, hhost⟩, ne_of_portAfter? hport⟩
  split at h
  · exact hgo "" "" cs h
  · split at h
    · cases h
    · exact hgo "" "" _ h
  · exact hgo _ _ _ h

end Authority

/-! ### Addresses -/

namespace Url

/-- Behind the slashes the host is read from a front, and the port of the scheme is left out. -/
theorem parts_of_behindSlashes {kind : Scheme.Kind} {isLast : Bool} {cs : List Char}
    {a : Authority} {segs : List (List Char)} (h : behindSlashes kind isLast cs = .ok (a, segs)) :
    (∃ front, Authority.hostOf? kind front = .ok a.host) ∧
      ∀ p, a.port = some p → kind.port? ≠ some p := by
  obtain ⟨⟨b, rest⟩, hb, h⟩ := exists_ok_of_bind h
  cases h
  exact Authority.parts_of_ofText? hb

theorem exists_of_hostOf? {kind : Scheme.Kind} {cs : List Char} {host : Host}
    (h : Authority.hostOf? kind cs = .ok (some host)) :
    (if kind.isSpecial then Host.ofWebText? cs else Host.ofText? cs) = .ok host := by
  unfold Authority.hostOf? at h
  split at h
  · split at h <;> cases h
  · obtain ⟨found, hfound, hsome⟩ := exists_ok_of_map h
    obtain rfl := Option.some.inj hsome
    exact hfound

/-- A file has a host of the web, or none, and no port. -/
theorem parts_of_ofFile {cs : List Char} {a : Authority} {segs : List (List Char)}
    (h : ofFile cs = .ok (a, segs)) :
    (∀ host, a.host = some host → ∃ front, Host.ofWebText? front = .ok host) ∧ a.port = none := by
  have hkept (found : Option Host) {isHere : Bool} {path : List (List Char)}
      (hfound : ∀ host, found = some host → ∃ front, Host.ofWebText? front = .ok host)
      (hx : (.ok (⟨"", "", if isHere then none else found, none⟩, path) :
        Except UrlFault (Authority × List (List Char))) = .ok (a, segs)) :
      (∀ host, a.host = some host → ∃ front, Host.ofWebText? front = .ok host) ∧
        a.port = none := by
    cases hx
    refine ⟨fun host hhost => hfound host ?_, rfl⟩
    dsimp only at hhost
    split at hhost
    · cases hhost
    · exact hhost
  unfold ofFile at h
  dsimp only at h
  split at h
  · split at h
    · split at h
      · cases h
        exact ⟨nofun, rfl⟩
      · split at h
        · exact hkept none (fun _ hhost => nomatch hhost) h
        · obtain ⟨found, hfound, h⟩ := exists_ok_of_bind h
          refine hkept _ (fun host hhost => ?_) h
          obtain ⟨x, hx, rfl⟩ := exists_ok_of_map hfound
          exact ⟨_, (Option.some.inj hhost) ▸ hx⟩
    · cases h
      exact ⟨nofun, rfl⟩
  · cases h
    exact ⟨nofun, rfl⟩

/-- Whatever the scheme is, its addresses have hosts that are read as it says, and ports that are
not its own. -/
theorem parts_of_ofRest {kind : Scheme.Kind} {isLast : Bool} {cs path : List Char} {a : Authority}
    (h : ofRest kind isLast cs = .ok (some a, path)) :
    (∀ host, a.host = some host → ∃ front,
      (if kind.isSpecial then Host.ofWebText? front else Host.ofText? front) = .ok host) ∧
      ∀ p, a.port = some p → kind.port? ≠ some p := by
  have hslashes {isLast : Bool} {cs : List Char} {segs : List (List Char)}
      (hb : behindSlashes kind isLast cs = .ok (a, segs)) :
      (∀ host, a.host = some host → ∃ front,
        (if kind.isSpecial then Host.ofWebText? front else Host.ofText? front) = .ok host) ∧
        ∀ p, a.port = some p → kind.port? ≠ some p := by
    obtain ⟨⟨front, hfront⟩, hport⟩ := parts_of_behindSlashes hb
    exact ⟨fun host hhost => ⟨front, exists_of_hostOf? (hhost ▸ hfront)⟩, hport⟩
  unfold ofRest at h
  split at h
  · obtain ⟨⟨b, segs⟩, hb, hpair⟩ := exists_ok_of_map h
    cases hpair
    exact hslashes hb
  · obtain ⟨⟨b, segs⟩, hb, hpair⟩ := exists_ok_of_map h
    cases hpair
    obtain ⟨hhost, hport⟩ := parts_of_ofFile hb
    refine ⟨hhost, fun p hp => ?_⟩
    rw [hport] at hp
    cases hp
  · split at h
    · obtain ⟨⟨b, segs⟩, hb, hpair⟩ := exists_ok_of_map h
      cases hpair
      exact hslashes hb
    · cases h
    · cases h

/-- The authority of an address has a host that is read as the scheme says, and a port that is not
the scheme's own. -/
theorem parts_of_ofText? {cs : List Char} {u : Url} (h : ofText? cs = .ok u) {a : Authority}
    (ha : u.authority = some a) :
    (∀ host, a.host = some host → ∃ front,
      (if (Scheme.kind u.scheme).isSpecial then Host.ofWebText? front else Host.ofText? front) =
        .ok host) ∧
      ∀ p, a.port = some p → (Scheme.kind u.scheme).port? ≠ some p := by
  unfold ofText? at h
  split at h
  · cases h
  dsimp only at h
  split at h
  · cases h
  next authority path hrest =>
  cases h
  obtain rfl : authority = some a := ha
  exact parts_of_ofRest hrest

end Url

/-! ### Origins -/

namespace Origin

/-- The schemes of web pages, with the ports that are meant if none is given. -/
def webSchemes : List (String × UInt16) := [("http", 80), ("https", 443)]

theorem kind_of_mem_webSchemes {scheme : String} {own : UInt16} (h : (scheme, own) ∈ webSchemes) :
    Scheme.kind scheme = .web own := by
  have hall : ∀ s ∈ webSchemes, Scheme.kind s.1 = .web s.2 := by decide
  exact hall _ h

theorem exists_mem_webSchemes {scheme : String} (h : scheme = "http" ∨ scheme = "https") :
    ∃ own, (scheme, own) ∈ webSchemes := by
  rcases h with rfl | rfl
  · exact ⟨80, by decide⟩
  · exact ⟨443, by decide⟩

/-- The normal form of an origin is a scheme of web pages, a host that is looked up, and a port
unless it is the scheme's own. -/
theorem exists_of_normal? {entry origin : String} (h : normal? entry = some origin) :
    ∃ scheme own front host port, (scheme, own) ∈ webSchemes ∧
      Host.ofWebText? front = .ok host ∧ port ≠ some own ∧
      origin = scheme ++ "://" ++ Authority.hostAndPort ⟨"", "", some host, port⟩ := by
  unfold normal? at h
  split at h
  · cases h
  next u hu =>
  split at h
  · cases h
  next a ha =>
  split at h
  · next hweb =>
    cases h
    obtain ⟨hhosts, hports⟩ := Url.parts_of_ofText? hu ha
    obtain ⟨own, hown⟩ := exists_mem_webSchemes hweb.1
    have hkind := kind_of_mem_webSchemes hown
    obtain ⟨host, hhost⟩ := Option.isSome_iff_exists.mp hweb.2.1
    obtain ⟨front, hfront⟩ := hhosts host hhost
    rw [hkind] at hfront hports
    refine ⟨u.scheme, own, front, host, a.port, hown, hfront, fun h => hports own h rfl, ?_⟩
    rw [Authority.hostAndPort, hhost]
    rfl
  · cases h

/-- **Origins are visible**: the normal form of one is made of visible characters. -/
theorem isVisible_of_normal? {entry origin : String} (h : normal? entry = some origin) :
    IsVisible origin.toList := by
  obtain ⟨scheme, own, front, host, port, hscheme, hfront, -, rfl⟩ := exists_of_normal? h
  have hvisible : IsVisible scheme.toList := by
    have hall : ∀ s ∈ webSchemes, IsVisible s.1.toList := by decide
    exact hall _ hscheme
  rw [String.toList_append, String.toList_append, Authority.toList_hostAndPort rfl]
  exact isVisible_append.mpr ⟨isVisible_append.mpr ⟨hvisible, by decide⟩,
    isVisible_append.mpr
      ⟨(Host.isBareText_of_ofWebText? hfront).isVisible, Authority.isVisible_portText port⟩⟩

end Origin

end Gateway
