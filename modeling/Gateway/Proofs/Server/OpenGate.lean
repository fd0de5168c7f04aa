import Gateway.Proofs.Server.Entries
import Gateway.Proofs.Server.Grants
import Gateway.Proofs.Server.Paths

/-!
# The open gate

The policy that lets all origins pass is asked about texts alone. An origin that is no text is
foreign to it as well, and nothing else is (`OriginPolicy.isForeign_any_iff`). So behind an open
gate the dispatcher answers every request but those whose first origin is no text, and these are
refused although they are granted `*` (`respond_open`). The refusal can be told from every answer of
the dispatcher by its status (`ServerSettings.status_dispatch_ne`).
-/

namespace Gateway

/-- The first origin that a request names is no text. -/
def Http.Request.HasUnreadOrigin (r : Http.Request) : Prop :=
  ∃ origin, Http.IsFirst "origin" origin r.headers ∧ ∀ text, ¬ Http.Spells origin text

namespace OriginPolicy

variable {r : Http.Request}

/-- Under an open policy only an origin that cannot be read is foreign. -/
theorem isForeign_any_iff : r.IsForeign any ↔ r.HasUnreadOrigin := by
  refine exists_congr fun origin => and_congr_right fun _ => ⟨fun h text hspells => ?_, ?_⟩
  · cases h text r.host? hspells (Http.sentTo_iff.mpr rfl)
  · exact fun hnone text host hspells => absurd hspells (hnone text)

/-- An open gate adds one header, whatever the request brings. -/
theorem guard_any (h : ¬ r.HasUnreadOrigin) {m : Type → Type} [Monad m]
    (dispatch : Http.Request → m Http.Response) :
    any.guard dispatch r =
      (fun response : Http.Response => response.withHeaders [granting (Utf8.ofString "*")]) <$>
        dispatch r := by
  unfold guard
  cases horigin : r.header? "origin" with
  | none => rfl
  | some origin =>
    have hadmits : any.admits r origin = true := Bool.of_not_eq_false fun hadmits =>
      h (isForeign_any_iff.mp (isForeign_iff.mpr ⟨origin, horigin, hadmits⟩))
    exact if_pos hadmits

/-- The entries of a text that lets all origins pass. -/
theorem ofString?_eq_any_iff {value : String} :
    ofString? value = .ok .any ↔ entries value = ["*"] :=
  judges_iff.symm.trans judges_any_iff

end OriginPolicy

namespace ServerSettings

/-- No answer of the dispatcher has the status of the refusal. -/
theorem status_dispatch_ne (s : ServerSettings) (r : Http.Request) :
    (s.dispatch r).status ≠ 403 := by
  unfold dispatch
  split
  · have hall : ∀ status ∈ [101, 200, 400, 405, 426], status ≠ 403 := by decide
    exact hall _ (status_handshake_mem r)
  · exact (by decide : 503 ≠ 403)
  · exact (by decide : 404 ≠ 403)

end ServerSettings

theorem Http.Response.status_sentTo (response : Http.Response) (method : String) :
    (response.sentTo method).status = response.status := by
  unfold sentTo
  split
  · rfl
  · rfl

/-- **An open gate** refuses a request exactly if its first origin is no text. Every other request
gets what the dispatcher answers, with the header that grants `*` and no other, as it would in front
of any dispatcher. This header is all that any response grants, a refusal too. -/
theorem respond_open {c : Config} {s : ServerSettings} (hs : ServerSettings.ofConfig? c = .ok s)
    (hopen : ∀ value, c.allowOrigin = some value → OriginPolicy.entries value = ["*"])
    (r : Http.Request) :
    (¬ r.HasUnreadOrigin →
      s.respond r = ((s.dispatch r).withHeaders
        [OriginPolicy.granting (Utf8.ofString "*")]).sentTo r.method ∧
      ∀ (m : Type → Type) [Monad m] (dispatch : Http.Request → m Http.Response),
        s.origins.guard dispatch r =
          (fun response : Http.Response =>
            response.withHeaders [OriginPolicy.granting (Utf8.ofString "*")]) <$> dispatch r) ∧
    (r.HasUnreadOrigin →
      s.respond r = (OriginPolicy.refusal.withHeaders
        [OriginPolicy.granting (Utf8.ofString "*")]).sentTo r.method) ∧
    ((s.respond r).status = 403 ↔ r.HasUnreadOrigin) ∧
    (s.respond r).granted = [Utf8.ofString "*"] := by
  have hany : s.origins = .any := by
    obtain ⟨hnone, hsome⟩ := ServerSettings.origins_of_ofConfig? hs
    cases hvalue : c.allowOrigin with
    | none => exact hnone hvalue
    | some value =>
      have hread := OriginPolicy.ofString?_eq_any_iff.mpr (hopen value hvalue)
      exact Except.ok.inj ((hsome value hvalue).symm.trans hread)
  have hpass (h : ¬ r.HasUnreadOrigin) : s.respond r = ((s.dispatch r).withHeaders
      [OriginPolicy.granting (Utf8.ofString "*")]).sentTo r.method := by
    have hguard := OriginPolicy.guard_any (m := Id) h s.dispatch
    rw [← hany] at hguard
    exact congrArg (Http.Response.sentTo · r.method) hguard
  have hrefuse (h : r.HasUnreadOrigin) : s.respond r = (OriginPolicy.refusal.withHeaders
      [OriginPolicy.granting (Utf8.ofString "*")]).sentTo r.method := by
    have hguard : s.origins.guard (m := Id) s.dispatch r = OriginPolicy.refusal.withHeaders
        [OriginPolicy.granting (Utf8.ofString "*")] := by
      rw [hany]
      exact OriginPolicy.guard_of_isForeign (m := Id) (OriginPolicy.isForeign_any_iff.mpr h)
        s.dispatch
    exact congrArg (Http.Response.sentTo · r.method) hguard
  refine ⟨fun h => ⟨hpass h, fun m _ dispatch => hany ▸ OriginPolicy.guard_any h dispatch⟩,
    hrefuse, ⟨fun hstatus => ?_, fun h => ?_⟩, ServerSettings.granted_of_any hany r⟩
  · by_contra h
    rw [hpass h, Http.Response.status_sentTo] at hstatus
    exact s.status_dispatch_ne r hstatus
  · rw [hrefuse h, Http.Response.status_sentTo]
    rfl

/-- Behind an open gate an origin that is a text, whatever it says, makes no difference. -/
theorem respond_open_text :
    let r : Http.Request :=
      ⟨"GET", ⟨none, "/api/a"⟩, .one, [("origin", Utf8.ofString "no address")], [], false⟩
    ∃ s, ServerSettings.ofConfig? Config.standard = .ok s ∧
      (s.dispatch r).status = 503 ∧
      s.respond r = (s.dispatch r).withHeaders [OriginPolicy.granting (Utf8.ofString "*")] := by
  intro r
  let s : ServerSettings :=
    ⟨.v4 ⟨0, 0, 0, 0⟩, 8080, "/", "/api/", none, .any, .nested, none⟩
  have hs : ServerSettings.ofConfig? Config.standard = .ok s := ok_of_toOption (by decide +kernel)
  have hopen : ∀ value, Config.standard.allowOrigin = some value →
      OriginPolicy.entries value = ["*"] := by
    rintro value ⟨⟩
    decide
  have hread : ¬ r.HasUnreadOrigin := by
    rintro ⟨origin, hfirst, hnone⟩
    have horigin : r.header? "origin" = some (Utf8.ofString "no address") := by decide
    obtain rfl := Option.some.inj (horigin.symm.trans (Http.header?_eq_some_iff.mpr hfirst))
    exact hnone "no address" (Http.spells_ofString (forall_mem_of_all (by decide)))
  exact ⟨s, hs, by decide +kernel, ((respond_open hs hopen r).1 hread).1⟩

/-- Behind an open gate a request whose origin is a single byte outside ASCII is refused, where
without it a resource would be answered for. -/
theorem respond_open_refuses :
    let r (headers : List Http.Header) : Http.Request :=
      ⟨"GET", ⟨none, "/api/a"⟩, .one, headers, [], false⟩
    ∃ s, ServerSettings.ofConfig? Config.standard = .ok s ∧ s.origins = .any ∧
      (s.respond (r [("origin", [0xFF])])).status = 403 ∧
      (s.dispatch (r [("origin", [0xFF])])).status = 503 ∧ (s.respond (r [])).status = 503 := by
  refine ⟨⟨.v4 ⟨0, 0, 0, 0⟩, 8080, "/", "/api/", none, .any, .nested, none⟩,
    ok_of_toOption (by decide +kernel), rfl, ?_⟩
  decide +kernel

end Gateway
