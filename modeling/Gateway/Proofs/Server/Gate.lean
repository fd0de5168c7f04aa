import Gateway.Proofs.Http.Headers
import Gateway.Server.Gate

/-!
# What passes the gate for origins

A request is foreign to a policy if it names an origin that the policy does not allow to the host
that the request was sent to, or that is no text at all (`Http.Request.IsForeign`). The gate refuses
the foreign requests and no others (`isForeign_iff`). It answers them by itself, whatever stands
behind it and whatever else they ask for (`guard_of_isForeign`), and it adds no more than headers to
the answers of the others (`guard_of_not_isForeign`). For the whole server this is
`respond_behind_gate`.
-/

namespace Gateway

/-- The first origin that a request names is no text, or one that a policy does not allow to the
host that the request was sent to. -/
def Http.Request.IsForeign (r : Http.Request) (policy : OriginPolicy) : Prop :=
  ∃ origin, Http.IsFirst "origin" origin r.headers ∧
    ∀ text host, Http.Spells origin text → r.SentTo host → policy.allows text host = false

namespace OriginPolicy

variable {policy : OriginPolicy} {r : Http.Request}

/-- Foreign is a request whose origin is not admitted. -/
theorem isForeign_iff :
    r.IsForeign policy ↔
      ∃ origin, r.header? "origin" = some origin ∧ policy.admits r origin = false := by
  unfold Http.Request.IsForeign
  refine exists_congr fun origin => and_congr Http.header?_eq_some_iff.symm ?_
  unfold admits
  constructor
  · intro h
    split
    · rfl
    · next text htext =>
      exact h text r.host? (Http.text?_eq_some_iff.mp htext) (Http.sentTo_iff.mpr rfl)
  · intro h text host hspells hsent
    rw [Http.text?_eq_some_iff.mpr hspells] at h
    obtain rfl := Http.sentTo_iff.mp hsent
    exact h

private theorem body_refusal :
    refusal.body = "\x7b\"code\":\"system.forbidden\",\"message\":\"Forbidden origin\"\x7d" := by
  decide

/-- **Foreign requests are refused** without a run of what stands behind the gate. -/
theorem guard_of_isForeign (h : r.IsForeign policy) {m : Type → Type} [Monad m]
    (dispatch : Http.Request → m Http.Response) :
    policy.guard dispatch r = pure (refusal.withHeaders (policy.grants none)) := by
  obtain ⟨origin, horigin, hadmits⟩ := isForeign_iff.mp h
  unfold guard
  simp only [horigin, hadmits, Bool.false_eq_true, if_false]

/-- **Other requests pass**, and their answers only get more headers. -/
theorem guard_of_not_isForeign (h : ¬ r.IsForeign policy) :
    ∃ headers, ∀ (m : Type → Type) [Monad m] (dispatch : Http.Request → m Http.Response),
      policy.guard dispatch r =
        (fun response : Http.Response => response.withHeaders headers) <$> dispatch r := by
  rw [isForeign_iff] at h
  cases horigin : r.header? "origin" with
  | none =>
    refine ⟨policy.grants none, fun m _ dispatch => ?_⟩
    unfold guard
    simp only [horigin]
  | some origin =>
    have hadmits : policy.admits r origin = true :=
      Bool.of_not_eq_false fun hadmits => h ⟨origin, horigin, hadmits⟩
    refine ⟨policy.grants (some origin), fun m _ dispatch => ?_⟩
    unfold guard
    simp only [horigin, hadmits, if_true]

end OriginPolicy

/-- Behind the gate the dispatcher decides about the status and the body. -/
theorem respond_of_not_isForeign {s : ServerSettings} {r : Http.Request}
    (h : ¬ r.IsForeign s.origins) :
    (s.respond r).status = (s.dispatch r).status ∧
      (s.respond r).body = ((s.dispatch r).sentTo r.method).body := by
  obtain ⟨headers, hguard⟩ := OriginPolicy.guard_of_not_isForeign h
  have hrespond : s.respond r = ((s.dispatch r).withHeaders headers).sentTo r.method :=
    congrArg (Http.Response.sentTo · r.method) (hguard Id s.dispatch)
  rw [hrespond]
  -- the headers that are added do not reach the body
  unfold Http.Response.sentTo
  split
  · exact ⟨rfl, rfl⟩
  · exact ⟨rfl, rfl⟩

/-- **The gate cannot be bypassed.** Under every policy there is one refusal, with status 403 and
the code `system.forbidden`. It is the answer to every foreign request whatever its path, its
method, its other headers and its body, but for the body if the method is `HEAD`; in front of any
dispatcher, with any effects, the gate gives it with no effect. To every other request the answer
has the status and the body that the dispatcher gives, and in front of any dispatcher the gate runs
it once and adds headers to its answer. -/
theorem respond_behind_gate (s : ServerSettings) :
    ∃ refused : Http.Response, refused.status = 403 ∧
      refused.body = "\x7b\"code\":\"system.forbidden\",\"message\":\"Forbidden origin\"\x7d" ∧
      ∀ r : Http.Request,
        (r.IsForeign s.origins →
          (r.method ≠ "HEAD" → s.respond r = refused) ∧
          (r.method = "HEAD" → s.respond r = { refused with body := "" }) ∧
          ∀ (m : Type → Type) [Monad m] (dispatch : Http.Request → m Http.Response),
            s.origins.guard dispatch r = pure refused) ∧
        (¬ r.IsForeign s.origins →
          (s.respond r).status = (s.dispatch r).status ∧
          (s.respond r).body = ((s.dispatch r).sentTo r.method).body ∧
          ∃ headers, ∀ (m : Type → Type) [Monad m] (dispatch : Http.Request → m Http.Response),
            s.origins.guard dispatch r =
              (fun response : Http.Response => response.withHeaders headers) <$> dispatch r) := by
  refine ⟨OriginPolicy.refusal.withHeaders (s.origins.grants none), rfl, OriginPolicy.body_refusal,
    fun r => ⟨?_, ?_⟩⟩
  · intro h
    have hguard : s.origins.guard (m := Id) s.dispatch r =
        OriginPolicy.refusal.withHeaders (s.origins.grants none) :=
      OriginPolicy.guard_of_isForeign (m := Id) h s.dispatch
    have hrespond : s.respond r =
        (OriginPolicy.refusal.withHeaders (s.origins.grants none)).sentTo r.method :=
      congrArg (Http.Response.sentTo · r.method) hguard
    refine ⟨fun hmethod => ?_, fun hmethod => ?_, fun m _ => OriginPolicy.guard_of_isForeign h⟩
    · exact hrespond.trans (if_neg hmethod)
    · exact hrespond.trans (if_pos hmethod)
  · intro h
    obtain ⟨hstatus, hbody⟩ := respond_of_not_isForeign h
    exact ⟨hstatus, hbody, OriginPolicy.guard_of_not_isForeign h⟩

/-- A complete handshake gets its socket, but not for an origin that is not on the list. -/
theorem respond_behind_gate_handshake :
    let s : ServerSettings :=
      ⟨.v4 ⟨127, 0, 0, 1⟩, 8080, "/", "/api/", none, .listed ["https://a.example"], .nested, none⟩
    let r : Http.Request :=
      ⟨"GET", ⟨none, "/"⟩, .one,
        [("connection", Utf8.ofString "Upgrade"), ("upgrade", Utf8.ofString "websocket"),
          ("sec-websocket-key", Utf8.ofString "dGhlIHNhbXBsZSBub25jZQ=="),
          ("sec-websocket-version", Utf8.ofString "13")], [], true⟩
    let foreign : Http.Request :=
      { r with headers := ("origin", Utf8.ofString "https://b.example") :: r.headers }
    (¬ r.IsForeign s.origins ∧ (s.respond r).status = 101) ∧
      foreign.IsForeign s.origins ∧ (s.respond foreign).status = 403 := by
  intro s r foreign
  obtain ⟨refused, hstatus, -, hanswers⟩ := respond_behind_gate s
  have hr : ¬ r.IsForeign s.origins := by
    have hnone : r.header? "origin" = none := by decide
    rw [OriginPolicy.isForeign_iff, hnone]
    rintro ⟨origin, horigin, -⟩
    cases horigin
  have hforeign : foreign.IsForeign s.origins :=
    OriginPolicy.isForeign_iff.mpr ⟨Utf8.ofString "https://b.example", by decide, by decide +kernel⟩
  have hsocket : (s.dispatch r).status = 101 := by decide +kernel
  have hrefused := ((hanswers foreign).1 hforeign).1 (by decide)
  refine ⟨⟨hr, ((hanswers r).2 hr).1.trans hsocket⟩, hforeign, ?_⟩
  rw [hrefused, hstatus]

end Gateway
