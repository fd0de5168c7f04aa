import Gateway.Server.Dispatch

/-!
# The gate for origins

Before a request is dispatched, the policy for origins decides about the origin that it names. A
request without one passes; one whose origin is not allowed, or is no text, is refused whatever it
is for. The response tells the browser what the policy grants: any origin, the origin of the
request, or, to a request that is not granted its own, the first origin of the list.
-/

namespace Gateway

namespace OriginPolicy

/-- The header that grants an origin. -/
def granting (origin : Bytes) : Http.Header := ("access-control-allow-origin", origin)

/-- The header that says that a response depends on the origin. -/
def varying : Http.Header := ("vary", Utf8.ofString "Origin")

/-- The headers by which a policy grants an origin, or none in particular. -/
def grants (policy : OriginPolicy) (origin : Option Bytes) : List Http.Header :=
  match policy with
  | any => [granting (Utf8.ofString "*")]
  | sameOrigin => (origin.map granting).toList ++ [varying]
  | listed origins =>
    ((origin.or (origins.head?.bind Http.value?)).map granting).toList ++ [varying]

/-- Whether a policy lets a request with an origin pass. -/
def admits (policy : OriginPolicy) (r : Http.Request) (origin : Bytes) : Bool :=
  match Http.text? origin with
  | none => false
  | some text => policy.allows text r.host?

/-- The response to a request whose origin is not allowed. -/
def refusal : Http.Response := .error 403 "system.forbidden" "Forbidden origin"

/-- The response to a request behind the gate. Those that pass are answered by `dispatch`, which may
act in any way; for those that do not, it is not run. -/
def guard {m : Type → Type} [Monad m] (policy : OriginPolicy)
    (dispatch : Http.Request → m Http.Response) (r : Http.Request) : m Http.Response :=
  let pass (granted : Option Bytes) : m Http.Response :=
    (fun response => response.withHeaders (policy.grants granted)) <$> dispatch r
  match r.header? "origin" with
  | none => pass none
  | some origin =>
    if policy.admits r origin then pass (some origin)
    else pure (refusal.withHeaders (policy.grants none))

end OriginPolicy

/-- The response of a server to a request. -/
def ServerSettings.respond (s : ServerSettings) (r : Http.Request) : Http.Response :=
  let answered : Id Http.Response := s.origins.guard s.dispatch r
  answered.sentTo r.method

end Gateway
