import Gateway.Proofs.Http.Headers
import Gateway.Proofs.Url.Visible
import Gateway.Server.Settings

/-!
# Policies that settings have

A list of origins is read entry by entry (`normals?_eq_ok_iff`), so the list of a policy has one
origin for each entry of the text, of which there is at least one (`exists_of_ofString?`). As
origins are visible, each of them can stand in a header as it is (`spells_of_ofString?`).

Settings are read in five steps (`ServerSettings.ofConfig?_eq`), and the policy in one of them: it
is the one that lets all origins pass or comes from such a text (`ServerSettings.policy_cases`).
-/

namespace Gateway

namespace OriginPolicy

/-! ### Lists -/

/-- A list is read if each of its entries is. -/
theorem normals?_eq_ok_iff {entries origins : List String} :
    normals? entries = .ok origins ↔ entries.map Origin.normal? = origins.map some := by
  induction entries generalizing origins with
  | nil =>
    rw [normals?, List.map_nil, eq_comm (a := []), List.map_eq_nil_iff]
    exact ⟨fun h => (Except.ok.inj h).symm, fun h => congrArg _ h.symm⟩
  | cons entry entries ih =>
    rw [normals?, List.map_cons]
    cases hentry : Origin.normal? entry with
    | none =>
      refine ⟨nofun, fun h => ?_⟩
      cases origins <;> cases h
    | some origin =>
      constructor
      · intro h
        obtain ⟨rest, hrest, rfl⟩ := exists_ok_of_map h
        rw [ih.mp hrest, List.map_cons]
      · intro h
        cases origins with
        | nil => cases h
        | cons o rest =>
          rw [List.map_cons, List.cons.injEq, Option.some.injEq] at h
          obtain ⟨rfl, h⟩ := h
          simp only [ih.mpr h]
          rfl

/-- Every value has an entry, if an empty one. -/
theorem entries_ne_nil (value : String) : entries value ≠ [] := by
  unfold entries Text.splitString
  rw [Ne, List.map_eq_nil_iff, List.map_eq_nil_iff]
  exact Text.split_ne_nil _ _

/-- The list of a policy is not empty, and all on it are origins in normal form. -/
theorem exists_of_ofString? {value : String} {origins : List String}
    (h : ofString? value = .ok (.listed origins)) :
    origins ≠ [] ∧ ∀ origin ∈ origins, ∃ entry, Origin.normal? entry = some origin := by
  unfold ofString? at h
  split at h
  · next policy hpolicy =>
    split at h
    · cases h
    · -- an entry that stands for a policy does not stand for a list
      cases h
      obtain ⟨-, entry, -, -, hentry, -⟩ := List.findSome?_eq_some_iff.mp hpolicy
      unfold ofEntry? at hentry
      split at hentry
      · cases hentry
      · split at hentry <;> cases hentry
  · obtain ⟨origins', hnormals, hlisted⟩ := exists_ok_of_map h
    obtain rfl := OriginPolicy.listed.inj hlisted
    have hmap := normals?_eq_ok_iff.mp hnormals
    constructor
    · rintro rfl
      exact entries_ne_nil value (List.map_eq_nil_iff.mp hmap)
    · intro origin horigin
      have hmem : some origin ∈ (entries value).map Origin.normal? :=
        hmap ▸ List.mem_map_of_mem horigin
      obtain ⟨entry, -, hentry⟩ := List.mem_map.mp hmem
      exact ⟨entry, hentry⟩

/-- The origins on the list of a policy spell themselves in headers. -/
theorem spells_of_ofString? {value : String} {origins : List String}
    (h : ofString? value = .ok (.listed origins)) {origin : String} (ho : origin ∈ origins) :
    Http.Spells (Utf8.ofString origin) origin := by
  obtain ⟨entry, hentry⟩ := (exists_of_ofString? h).2 origin ho
  refine Http.spells_ofString fun c hc => .inr ?_
  have hvisible := Origin.isVisible_of_normal? hentry c hc
  omega

end OriginPolicy

/-! ### Settings -/

namespace ServerSettings

variable {c : Config} {s : ServerSettings}

theorem orFault_eq_ok_iff {α : Type} {fault : SettingFault} {o : Option α} {a : α} :
    orFault fault o = .ok a ↔ o = some a := by
  cases o with
  | none => exact ⟨nofun, nofun⟩
  | some b =>
    exact ⟨fun h => congrArg some (Except.ok.inj h), fun h => congrArg _ (Option.some.inj h)⟩

/-- The method of authentication that a configuration writes. -/
def headerAuthOf? (c : Config) : Except SettingFault (Option HeaderAuth) :=
  match c.headerAuth with
  | none => .ok none
  | some value => (orFault (.headerAuth value) (HeaderAuth.ofString? value)).map some

/-- The policy for origins that a configuration writes. -/
def originsOf? (c : Config) : Except SettingFault OriginPolicy :=
  match c.allowOrigin with
  | none => .ok .any
  | some value => (OriginPolicy.ofString? value).mapError .origins

/-- Settings are read in five steps. -/
theorem ofConfig?_eq (c : Config) :
    ofConfig? c =
      (orFault (.address (c.addr.getD Config.defaultAddr))
        (Ip.ofString? (c.addr.getD Config.defaultAddr)) >>= fun ip =>
      headerAuthOf? c >>= fun headerAuth =>
      originsOf? c >>= fun origins =>
      orFault (.encoding c.apiEncoding) (Encoding.ofString? c.apiEncoding) >>= fun encoding =>
      tlsOf? c >>= fun tls =>
      .ok ⟨ip, c.port, withSlashBefore c.wsPath, withSlashBehind (withSlashBefore c.apiPath),
        headerAuth, origins, encoding, tls⟩) := by
  unfold ofConfig? headerAuthOf? originsOf?
  cases c.headerAuth with
  | none =>
    cases c.allowOrigin with
    | none => rfl
    | some value => rfl
  | some text =>
    cases c.allowOrigin with
    | none => rfl
    | some value => rfl

/-- What checked settings take from the configuration. -/
theorem exists_of_ofConfig? (h : ofConfig? c = .ok s) :
    ∃ ip headerAuth origins encoding tls,
      Ip.ofString? (c.addr.getD Config.defaultAddr) = some ip ∧
      headerAuthOf? c = .ok headerAuth ∧ originsOf? c = .ok origins ∧
      Encoding.ofString? c.apiEncoding = some encoding ∧ tlsOf? c = .ok tls ∧
      s = ⟨ip, c.port, withSlashBefore c.wsPath, withSlashBehind (withSlashBefore c.apiPath),
        headerAuth, origins, encoding, tls⟩ := by
  rw [ofConfig?_eq] at h
  obtain ⟨ip, hip, h⟩ := exists_ok_of_bind h
  obtain ⟨headerAuth, hheaderAuth, h⟩ := exists_ok_of_bind h
  obtain ⟨origins, horigins, h⟩ := exists_ok_of_bind h
  obtain ⟨encoding, hencoding, h⟩ := exists_ok_of_bind h
  obtain ⟨tls, htls, h⟩ := exists_ok_of_bind h
  cases h
  exact ⟨ip, headerAuth, origins, encoding, tls, orFault_eq_ok_iff.mp hip, hheaderAuth, horigins,
    orFault_eq_ok_iff.mp hencoding, htls, rfl⟩

/-- The policy is the one that the configuration writes. If it writes none, it is the one that lets
all origins pass. -/
theorem of_originsOf? {origins : OriginPolicy} (h : originsOf? c = .ok origins) :
    (c.allowOrigin = none → origins = .any) ∧
      ∀ value, c.allowOrigin = some value → OriginPolicy.ofString? value = .ok origins := by
  unfold originsOf? at h
  constructor
  · intro hnone
    rw [hnone] at h
    exact (Except.ok.inj h).symm
  · intro value hvalue
    rw [hvalue] at h
    exact ok_of_mapError h

/-- The policy is read from the value, and open if there is none. -/
theorem origins_of_ofConfig? (h : ofConfig? c = .ok s) :
    (c.allowOrigin = none → s.origins = .any) ∧
      ∀ value, c.allowOrigin = some value → OriginPolicy.ofString? value = .ok s.origins := by
  obtain ⟨ip, headerAuth, origins, encoding, tls, -, -, horigins, -, -, rfl⟩ :=
    exists_of_ofConfig? h
  exact of_originsOf? horigins

/-- A policy is open or read from a value. -/
theorem policy_cases (h : ofConfig? c = .ok s) :
    s.origins = .any ∨ ∃ value, OriginPolicy.ofString? value = .ok s.origins := by
  obtain ⟨hnone, hsome⟩ := origins_of_ofConfig? h
  cases hvalue : c.allowOrigin with
  | none => exact .inl (hnone hvalue)
  | some value => exact .inr ⟨value, hsome value hvalue⟩

end ServerSettings

end Gateway
