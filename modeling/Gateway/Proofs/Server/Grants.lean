import Gateway.Proofs.Server.Gate
import Gateway.Proofs.Server.Policy

/-!
# What responses grant to origins

An origin is admitted if it is the first that a request names, is a text, and is allowed by the
policy to the host that the request was sent to (`Http.Request.Admits`). The answers of the
dispatcher and the refusal say nothing about origins by themselves (`Http.Response.IsNeutral`), so a
response grants what its policy grants to the admitted origin, or to none
(`ServerSettings.exists_granted_eq`). What that is depends on the kind of the policy; the list of
checked settings begins with an origin that a header can show (`ServerSettings.granted_of_listed`).
For the whole server this is `respond_grants`.
-/

namespace Gateway

/-- The first origin that a request names is a text that a policy allows to the host that the
request was sent to. -/
def Http.Request.Admits (r : Http.Request) (policy : OriginPolicy) (origin : Bytes) : Prop :=
  Http.IsFirst "origin" origin r.headers ∧
    ∃ text host, Http.Spells origin text ∧ r.SentTo host ∧ policy.allows text host = true

namespace Http.Response

/-- The origins that a response grants. -/
def granted (r : Response) : List Bytes := values "access-control-allow-origin" r.headers

/-- What a response depends on, as it says itself. -/
def varied (r : Response) : List Bytes := values "vary" r.headers

/-! ### Answers without the gate -/

/-- A response says nothing about origins. -/
def IsNeutral (r : Response) : Prop :=
  ∀ h ∈ r.headers, h.1 ≠ "access-control-allow-origin" ∧ h.1 ≠ "vary"

/-- A bare response grants nothing. -/
theorem isNeutral_make (status : Nat) (type body : String) :
    (make status type body).IsNeutral := by
  simp [IsNeutral, make]

end Http.Response

open Http (Response)

theorem Http.isNeutral_handshake (r : Http.Request) : (Http.handshake r).IsNeutral := by
  unfold Http.handshake
  split
  · next c _ => cases c <;> exact Response.isNeutral_make _ _ _
  · unfold Http.upgraded
    split <;> simp [Response.IsNeutral]

/-- What is dispatched grants nothing by itself. -/
theorem ServerSettings.isNeutral_dispatch (s : ServerSettings) (r : Http.Request) :
    (s.dispatch r).IsNeutral := by
  unfold ServerSettings.dispatch
  split
  · exact Http.isNeutral_handshake r
  · exact Response.isNeutral_make _ _ _
  · exact Response.isNeutral_make _ _ _

/-! ### Answers behind the gate -/

namespace OriginPolicy

variable {policy : OriginPolicy} {r : Http.Request}

/-- A policy admits the origin that a request states, if it is one that it allows. -/
theorem admits_iff {origin : Bytes} :
    r.Admits policy origin ↔ r.header? "origin" = some origin ∧ policy.admits r origin = true := by
  unfold Http.Request.Admits
  rw [← Http.header?_eq_some_iff]
  refine and_congr_right fun _ => ?_
  unfold admits
  constructor
  · rintro ⟨text, host, hspells, hsent, hallows⟩
    obtain rfl := Http.sentTo_iff.mp hsent
    rw [Http.text?_eq_some_iff.mpr hspells]
    exact hallows
  · intro h
    split at h
    · cases h
    · next text htext =>
      exact ⟨text, r.host?, Http.text?_eq_some_iff.mp htext, Http.sentTo_iff.mpr rfl, h⟩

/-- What the gate answers grants the admitted origin, or none in particular. -/
theorem exists_guard_eq (policy : OriginPolicy) (r : Http.Request)
    (dispatch : Http.Request → Response) :
    ∃ (answer : Response) (admitted : Option Bytes),
      (answer = dispatch r ∨ answer = refusal) ∧
      (∀ origin, admitted = some origin ↔ r.Admits policy origin) ∧
      policy.guard (m := Id) dispatch r = answer.withHeaders (policy.grants admitted) := by
  unfold guard
  cases horigin : r.header? "origin" with
  | none =>
    refine ⟨dispatch r, none, .inl rfl, fun origin => ⟨nofun, fun h => ?_⟩, rfl⟩
    cases horigin.symm.trans (admits_iff.mp h).1
  | some origin =>
    by_cases hadmits : policy.admits r origin = true
    · refine ⟨dispatch r, some origin, .inl rfl, fun o => ?_, by simp only [hadmits, if_true]; rfl⟩
      rw [admits_iff, horigin]
      exact ⟨fun h => ⟨h, Option.some.inj h ▸ hadmits⟩, And.left⟩
    · refine ⟨refusal, none, .inr rfl, fun o => ⟨nofun, fun h => ?_⟩,
        by simp only [hadmits]; rfl⟩
      obtain ⟨ho, hadmitted⟩ := admits_iff.mp h
      obtain rfl := Option.some.inj (horigin.symm.trans ho)
      exact absurd hadmitted hadmits

/-- The origins that a policy grants. -/
theorem values_grants_granting (policy : OriginPolicy) (admitted : Option Bytes) :
    Http.values "access-control-allow-origin" (policy.grants admitted) =
      match policy with
      | any => [Utf8.ofString "*"]
      | sameOrigin => admitted.toList
      | listed origins => (admitted.or (origins.head?.bind Http.value?)).toList := by
  have hvary (o : Option Bytes) : Http.values "access-control-allow-origin"
      ((o.map granting).toList ++ [varying]) = o.toList := by
    cases o <;> rfl
  cases policy with
  | any => rfl
  | sameOrigin => exact hvary admitted
  | listed origins => exact hvary _

/-- What a policy makes a response depend on. -/
theorem values_grants_varying (policy : OriginPolicy) (admitted : Option Bytes) :
    Http.values "vary" (policy.grants admitted) =
      if policy = any then [] else [Utf8.ofString "Origin"] := by
  have hvary (o : Option Bytes) : Http.values "vary" ((o.map granting).toList ++ [varying]) =
      [Utf8.ofString "Origin"] := by
    cases o <;> rfl
  cases policy with
  | any => rfl
  | sameOrigin => exact (hvary admitted).trans (if_neg nofun).symm
  | listed origins => exact (hvary _).trans (if_neg nofun).symm

end OriginPolicy

namespace ServerSettings

/-- **Responses say what the policy grants** to the origin that is admitted, or to none. -/
theorem exists_granted_eq (s : ServerSettings) (r : Http.Request) :
    ∃ admitted, (∀ origin, admitted = some origin ↔ r.Admits s.origins origin) ∧
      (s.respond r).granted =
        Http.values "access-control-allow-origin" (s.origins.grants admitted) ∧
      (s.respond r).varied = Http.values "vary" (s.origins.grants admitted) := by
  obtain ⟨answer, admitted, hanswer, hadmitted, hguard⟩ :=
    s.origins.exists_guard_eq r s.dispatch
  have hneutral : answer.IsNeutral := by
    rcases hanswer with rfl | rfl
    · exact s.isNeutral_dispatch r
    · exact Response.isNeutral_make _ _ _
  have hheaders : (s.respond r).headers =
      (answer.withHeaders (s.origins.grants admitted)).headers := by
    unfold respond Response.sentTo
    dsimp only
    rw [hguard]
    split <;> rfl
  refine ⟨admitted, hadmitted, ?_, ?_⟩
  · rw [Response.granted, hheaders]
    exact Response.values_withHeaders _ fun g hg => (hneutral g hg).1
  · rw [Response.varied, hheaders]
    exact Response.values_withHeaders _ fun g hg => (hneutral g hg).2

variable {c : Config} {s : ServerSettings}

/-- Unless the policy is open, every response says that it depends on the origin. -/
theorem varied_respond (s : ServerSettings) (r : Http.Request) :
    (s.respond r).varied = if s.origins = .any then [] else [Utf8.ofString "Origin"] := by
  obtain ⟨admitted, -, -, hvaried⟩ := s.exists_granted_eq r
  rw [hvaried, OriginPolicy.values_grants_varying]

/-- Under an open policy every response is granted to all origins. -/
theorem granted_of_any (h : s.origins = .any) (r : Http.Request) :
    (s.respond r).granted = [Utf8.ofString "*"] := by
  obtain ⟨admitted, -, hgranted, -⟩ := s.exists_granted_eq r
  rw [hgranted, OriginPolicy.values_grants_granting, h]

/-- Under the policy of the same origin a response is granted to the origin of the request at most,
and to that if it is admitted. -/
theorem granted_of_sameOrigin (h : s.origins = .sameOrigin) (r : Http.Request) :
    (s.respond r).granted.length ≤ 1 ∧
      ∀ origin, origin ∈ (s.respond r).granted ↔ r.Admits s.origins origin := by
  obtain ⟨admitted, hadmitted, hgranted, -⟩ := s.exists_granted_eq r
  rw [OriginPolicy.values_grants_granting, h] at hgranted
  dsimp only at hgranted
  rw [hgranted]
  exact ⟨by cases admitted <;> simp, fun origin => Option.mem_toList.trans (hadmitted origin)⟩

/-- Under a list an origin is always granted, which is the first of the list if none is admitted. -/
theorem granted_of_listed (hs : ofConfig? c = .ok s) {origins : List String}
    (h : s.origins = .listed origins) (r : Http.Request) :
    ∃ first rest, origins = first :: rest ∧ Http.Spells (Utf8.ofString first) first ∧
      (∀ origin, r.Admits s.origins origin → (s.respond r).granted = [origin]) ∧
      ((∀ origin, ¬ r.Admits s.origins origin) →
        (s.respond r).granted = [Utf8.ofString first]) := by
  obtain ⟨value, hvalue⟩ : ∃ value, OriginPolicy.ofString? value = .ok (.listed origins) := by
    rw [← h]
    exact (policy_cases hs).resolve_left (h ▸ nofun)
  obtain ⟨first, rest, rfl⟩ :=
    List.exists_cons_of_ne_nil (OriginPolicy.exists_of_ofString? hvalue).1
  have hspells := OriginPolicy.spells_of_ofString? hvalue List.mem_cons_self
  obtain ⟨admitted, hadmitted, hgranted, -⟩ := s.exists_granted_eq r
  rw [OriginPolicy.values_grants_granting, h] at hgranted
  dsimp only [List.head?_cons, Option.bind_some] at hgranted
  rw [Http.value?_of_spells hspells] at hgranted
  refine ⟨first, rest, rfl, hspells, fun origin horigin => ?_, fun hnone => ?_⟩
  · rw [hgranted, (hadmitted origin).mpr horigin]
    rfl
  · have hadmitted : admitted = none :=
      Option.eq_none_iff_forall_ne_some.mpr fun o ho => hnone o ((hadmitted o).mp ho)
    rw [hgranted, hadmitted]
    rfl

/-- Whatever origin is granted, the policy allows it. -/
theorem allows_of_granted (hs : ofConfig? c = .ok s) (h : s.origins ≠ .any) (r : Http.Request)
    {origin : Bytes} (ho : origin ∈ (s.respond r).granted) :
    ∃ text host, Http.Spells origin text ∧ r.SentTo host ∧
      s.origins.allows text host = true := by
  have hadmits (ho : r.Admits s.origins origin) : ∃ text host, Http.Spells origin text ∧
      r.SentTo host ∧ s.origins.allows text host = true := ho.2
  cases hpolicy : s.origins with
  | any => exact absurd hpolicy h
  | sameOrigin =>
    rw [← hpolicy]
    exact hadmits (((granted_of_sameOrigin hpolicy r).2 origin).mp ho)
  | listed origins =>
    obtain ⟨first, rest, rfl, hspells, hadmitted, hnone⟩ := granted_of_listed hs hpolicy r
    rw [← hpolicy]
    by_cases hany : ∃ o, r.Admits s.origins o
    · obtain ⟨o, hadmits'⟩ := hany
      rw [hadmitted o hadmits', List.mem_singleton] at ho
      exact hadmits (ho ▸ hadmits')
    · -- nothing is admitted, and the first origin of the list is allowed to every host
      rw [hnone fun o ho => hany ⟨o, ho⟩, List.mem_singleton] at ho
      refine ⟨first, r.host?, ho ▸ hspells, Http.sentTo_iff.mpr rfl, ?_⟩
      rw [hpolicy, OriginPolicy.allows, List.any_cons, Text.sameIgnoringCase_iff.mpr rfl,
        Bool.true_or]

end ServerSettings

open ServerSettings in
/-- **What responses grant.** A server with checked settings grants at most one origin in each of
its responses. If its policy lets all origins pass, that is always `*`, and nothing is said about
what the response depends on. Under a list an origin is always granted, byte for byte the one that
the request brings if that is admitted, and the first of the list otherwise. Under the policy of the
same origin just the admitted origin is. Both kinds of policy say once that the response depends on
the origin. So no origin is granted that the policy refuses, and responses that grant different
origins both say what they depend on. -/
theorem respond_grants {c : Config} {s : ServerSettings} (hs : ServerSettings.ofConfig? c = .ok s)
    (r : Http.Request) :
    (s.respond r).granted.length ≤ 1 ∧
    (s.origins = .any →
      (s.respond r).granted = [Utf8.ofString "*"] ∧ (s.respond r).varied = []) ∧
    (∀ origins, s.origins = .listed origins →
      ∃ first rest, origins = first :: rest ∧
        (∀ origin, r.Admits s.origins origin → (s.respond r).granted = [origin]) ∧
        ((∀ origin, ¬ r.Admits s.origins origin) →
          (s.respond r).granted = [Utf8.ofString first]) ∧
        (s.respond r).varied = [Utf8.ofString "Origin"]) ∧
    (s.origins = .sameOrigin →
      (∀ origin, origin ∈ (s.respond r).granted ↔ r.Admits s.origins origin) ∧
        (s.respond r).varied = [Utf8.ofString "Origin"]) ∧
    (s.origins ≠ .any → ∀ origin ∈ (s.respond r).granted, ∃ text host,
      Http.Spells origin text ∧ r.SentTo host ∧ s.origins.allows text host = true) ∧
    (∀ r' : Http.Request, (s.respond r').granted ≠ (s.respond r).granted →
      (s.respond r').varied = [Utf8.ofString "Origin"] ∧
        (s.respond r).varied = [Utf8.ofString "Origin"]) := by
  have hvaried (h : s.origins ≠ .any) (r : Http.Request) :
      (s.respond r).varied = [Utf8.ofString "Origin"] :=
    (s.varied_respond r).trans (if_neg h)
  refine ⟨?_, fun h => ⟨granted_of_any h r, (s.varied_respond r).trans (if_pos h)⟩,
    fun origins h => ?_, fun h => ⟨(granted_of_sameOrigin h r).2, hvaried (h ▸ nofun) r⟩,
    fun h origin => allows_of_granted hs h r, fun r' hne => ?_⟩
  · cases h : s.origins with
    | any => exact (granted_of_any h r) ▸ Nat.le_refl 1
    | sameOrigin => exact (granted_of_sameOrigin h r).1
    | listed origins =>
      obtain ⟨first, rest, -, -, hadmitted, hnone⟩ := granted_of_listed hs h r
      by_cases hany : ∃ o, r.Admits s.origins o
      · obtain ⟨o, ho⟩ := hany
        exact hadmitted o ho ▸ Nat.le_refl 1
      · exact (hnone fun o ho => hany ⟨o, ho⟩) ▸ Nat.le_refl 1
  · obtain ⟨first, rest, horigins, -, hadmitted, hnone⟩ := granted_of_listed hs h r
    exact ⟨first, rest, horigins, hadmitted, hnone, hvaried (h ▸ nofun) r⟩
  · -- only a policy that lets all origins pass says nothing, and it always grants the same
    have h : s.origins ≠ .any := fun h =>
      hne ((granted_of_any h r').trans (granted_of_any h r).symm)
    exact ⟨hvaried h r', hvaried h r⟩

/-- Under a list of two origins the second is granted as the request writes it, and to a request
that brings another origin the first. -/
theorem respond_grants_second :
    let c : Config :=
      { Config.standard with allowOrigin := some "http://[::1];https://[::2]:9000" }
    let r (origin : String) : Http.Request :=
      ⟨"GET", ⟨none, "/"⟩, .one, [("origin", Utf8.ofString origin)], [], false⟩
    ∃ s, ServerSettings.ofConfig? c = .ok s ∧
      (s.respond (r "HTTPS://[::2]:9000")).granted = [Utf8.ofString "HTTPS://[::2]:9000"] ∧
      (s.respond (r "https://b.example")).granted = [Utf8.ofString "http://[::1]"] := by
  intro c r
  let s : ServerSettings :=
    ⟨.v4 ⟨0, 0, 0, 0⟩, 8080, "/", "/api/", none, .listed ["http://[::1]", "https://[::2]:9000"],
      .nested, none⟩
  have hs : ServerSettings.ofConfig? c = .ok s := ok_of_toOption (by decide +kernel)
  obtain ⟨first, rest, horigins, hadmitted, -⟩ :=
    (respond_grants hs (r "HTTPS://[::2]:9000")).2.2.1 _ rfl
  obtain ⟨first', rest', horigins', -, hnone, -⟩ :=
    (respond_grants hs (r "https://b.example")).2.2.1 _ rfl
  obtain ⟨rfl, -⟩ := List.cons.inj horigins'
  refine ⟨s, hs, hadmitted _ ?_, hnone fun origin horigin => ?_⟩
  · exact OriginPolicy.admits_iff.mpr ⟨by decide, by decide +kernel⟩
  · obtain ⟨horigin, hadmits⟩ := OriginPolicy.admits_iff.mp horigin
    have hfirst : (r "https://b.example").header? "origin" =
        some (Utf8.ofString "https://b.example") := by decide
    obtain rfl := Option.some.inj (hfirst.symm.trans horigin)
    revert hadmits
    decide +kernel

end Gateway
