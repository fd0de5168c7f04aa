import Mathlib.Data.List.Induction
import Gateway.Proofs.Http.Target
import Gateway.Proofs.Json.Objects
import Gateway.Proofs.Server.Gate
import Gateway.Proofs.Server.Policy

/-!
# What the server answers under a path

Behind the gate the path of a request decides about the answer. The socket endpoint answers under
its own path, wherever that lies. A resource has its path behind the common one (`Route.IsPathOf`):
what stands there without the slashes at its end gives the name, with dots for slashes. Where the
settings send a path is said by `ServerSettings.route_eq_resource_iff` and `route_eq_nowhere_iff`,
and `respond_by_path` says what the client gets to see of it.
-/

namespace Gateway

/-- The request for another path. -/
def Http.Request.movedTo (r : Http.Request) (path : String) : Http.Request :=
  { r with target := { r.target with path := path } }

/-- The response to a request of a method reports an error by its status, and by a body that decodes
as a JSON object of a code and a message. A response to `HEAD` has no body. -/
def Http.Response.Reports (response : Http.Response) (method : String) (status : Nat)
    (code message : String) : Prop :=
  response.status = status ∧
    (method ≠ "HEAD" →
      Json.textsOf? response.body = some [("code", code), ("message", message)]) ∧
    (method = "HEAD" → response.body = "")

/-! ### Names of resources -/

namespace Route

/-- What stands in the name of a resource for a character of its path. -/
def dotted (c : Char) : Char := if c = '/' then '.' else c

/-- A path of a resource: behind the common path, a text that does not end in a slash and gives the
name, and any number of slashes. -/
def IsPathOf (common path name : String) : Prop :=
  ∃ core slashes, path.toList = common.toList ++ (core ++ List.replicate slashes '/') ∧
    core ≠ [] ∧ core.getLast? ≠ some '/' ∧ name.toList = core.map dotted

variable {common path name : String}

/-- The slashes at the end of a text. -/
theorem exists_eq_append_slashes (rest : List Char) :
    ∃ core slashes, rest = core ++ List.replicate slashes '/' ∧ core.getLast? ≠ some '/' := by
  induction rest using List.reverseRecOn with
  | nil => exact ⟨[], 0, rfl, nofun⟩
  | append_singleton rest c ih =>
    by_cases hc : c = '/'
    · obtain ⟨core, slashes, rfl, hcore⟩ := ih
      refine ⟨core, slashes + 1, ?_, hcore⟩
      rw [hc, List.replicate_succ', List.append_assoc]
    · refine ⟨rest ++ [c], 0, (List.append_nil _).symm, ?_⟩
      rw [List.getLast?_concat]
      exact fun h => hc (Option.some.inj h)

/-- **Names** are what is left without the slashes at the end. -/
theorem nameOf_append_slashes {core : List Char} (hcore : core.getLast? ≠ some '/')
    (slashes : Nat) : nameOf (core ++ List.replicate slashes '/') = core.map dotted := by
  have hdrop : (core ++ List.replicate slashes '/').reverse.dropWhile (· == '/') =
      core.reverse := by
    rw [List.reverse_append, List.reverse_replicate, List.dropWhile_append_of_pos]
    · rw [List.dropWhile_eq_self_iff]
      intro hlength hhead
      refine hcore ?_
      rw [← List.head?_reverse, List.head?_eq_getElem?, List.getElem?_eq_getElem hlength]
      exact congrArg some (beq_iff_eq.mp hhead)
    · intro c hc
      exact beq_iff_eq.mpr (List.eq_of_mem_replicate hc)
  unfold nameOf
  rw [hdrop, List.reverse_reverse]
  rfl

/-- The paths of resources are those with something but slashes behind the common path. -/
theorem exists_isPathOf_iff :
    (∃ name, IsPathOf common path name) ↔
      ∃ rest, path.toList = common.toList ++ rest ∧ ∃ c ∈ rest, c ≠ '/' := by
  constructor
  · rintro ⟨name, core, slashes, hpath, hne, hcore, -⟩
    refine ⟨_, hpath, core.getLast hne, List.mem_append_left _ (core.getLast_mem hne), fun hc => ?_⟩
    rw [List.getLast?_eq_some_getLast hne, hc] at hcore
    exact hcore rfl
  · rintro ⟨rest, hpath, c, hmem, hc⟩
    obtain ⟨core, slashes, rfl, hcore⟩ := exists_eq_append_slashes rest
    refine ⟨String.ofList (core.map dotted), core, slashes, hpath, ?_, hcore,
      String.toList_ofList⟩
    rintro rfl
    rw [List.nil_append] at hmem
    exact hc (List.eq_of_mem_replicate hmem)

namespace IsPathOf

theorem ne_empty (h : IsPathOf common path name) : name ≠ "" := by
  obtain ⟨core, slashes, -, hne, -, hname⟩ := h
  rintro rfl
  exact hne (List.map_eq_nil_iff.mp hname.symm)

/-- Nothing in a name can be taken for a path. -/
theorem slash_not_mem (h : IsPathOf common path name) : '/' ∉ name.toList := by
  obtain ⟨core, slashes, -, -, -, hname⟩ := h
  rw [hname, List.mem_map]
  rintro ⟨c, -, hc⟩
  unfold dotted at hc
  split at hc
  · cases hc
  · next hne => exact hne hc

/-- More slashes at the end lead to the same resource. -/
theorem append_slashes (h : IsPathOf common path name) {path' : String} {more : Nat}
    (hpath' : path'.toList = path.toList ++ List.replicate more '/') :
    IsPathOf common path' name := by
  obtain ⟨core, slashes, hpath, hne, hcore, hname⟩ := h
  refine ⟨core, slashes + more, ?_, hne, hcore, hname⟩
  rw [hpath', hpath, List.append_assoc, List.append_assoc, List.replicate_append_replicate]

end IsPathOf

end Route

/-! ### Where paths lead -/

namespace ServerSettings

variable {s : ServerSettings} {path name : String}

/-- One path leads to the socket. -/
theorem route_eq_socket_iff : s.route path = .socket ↔ path = s.socketPath := by
  unfold route
  constructor
  · intro h
    by_contra hpath
    rw [if_neg hpath] at h
    split at h
    · cases h
    · dsimp only at h
      split at h
      · cases h
      · cases h
  · exact fun hpath => if_pos hpath

/-- **Resources** have their paths behind the common one, but for the socket endpoint's. -/
theorem route_eq_resource_iff (hpath : path ≠ s.socketPath) :
    s.route path = .resource name ↔ Route.IsPathOf s.resourcePath path name := by
  unfold route
  rw [if_neg hpath]
  constructor
  · intro h
    split at h
    · cases h
    · next rest hrest =>
      obtain ⟨core, slashes, rfl, hcore⟩ := Route.exists_eq_append_slashes rest
      rw [Route.nameOf_append_slashes hcore] at h
      dsimp only at h
      split at h
      · cases h
      · next hne =>
        cases h
        refine ⟨core, slashes, Text.after?_eq_some_iff.mp hrest, ?_, hcore, String.toList_ofList⟩
        rintro rfl
        exact hne rfl
  · rintro ⟨core, slashes, hrest, hne, hcore, hname⟩
    have hnonempty : (core.map Route.dotted).isEmpty = false := by simpa using hne
    rw [Text.after?_eq_some_iff.mpr hrest]
    simp only [Route.nameOf_append_slashes hcore, hnonempty, Bool.false_eq_true, if_false]
    rw [← hname, String.ofList_toList]

/-- Any other path leads nowhere unless it names a resource. -/
theorem route_eq_nowhere_iff (hpath : path ≠ s.socketPath) :
    s.route path = .nowhere ↔ ¬ ∃ name, Route.IsPathOf s.resourcePath path name := by
  cases hroute : s.route path with
  | socket => exact absurd (route_eq_socket_iff.mp hroute) hpath
  | resource name =>
    refine iff_of_false nofun (not_not_intro ⟨name, (route_eq_resource_iff hpath).mp hroute⟩)
  | nowhere =>
    refine iff_of_true rfl ?_
    rintro ⟨name, hname⟩
    cases hroute.symm.trans ((route_eq_resource_iff hpath).mpr hname)

/-- The common path of resources ends where a segment does. -/
theorem resourcePath_of_ofConfig? {c : Config} (h : ofConfig? c = .ok s) :
    s.resourcePath.toList.head? = some '/' ∧ s.resourcePath.toList.getLast? = some '/' := by
  obtain ⟨ip, headerAuth, origins, encoding, tls, -, -, -, -, -, rfl⟩ := exists_of_ofConfig? h
  have hbefore : (withSlashBefore c.apiPath).toList.head? = some '/' := by
    unfold withSlashBefore
    split
    · next hslash => exact hslash
    · rw [String.toList_append]
      rfl
  change (withSlashBehind (withSlashBefore c.apiPath)).toList.head? = some '/' ∧
    (withSlashBehind (withSlashBefore c.apiPath)).toList.getLast? = some '/'
  generalize withSlashBefore c.apiPath = path at hbefore
  unfold withSlashBehind
  split
  · next hslash => exact ⟨hbefore, hslash⟩
  · rw [String.toList_append]
    refine ⟨?_, List.getLast?_concat⟩
    rw [List.head?_append, hbefore]
    rfl

/-! ### What is answered there -/

variable {r : Http.Request}

/-- At the path of the socket there is a handshake. -/
theorem dispatch_of_socket (hpath : r.target.path = s.socketPath) :
    s.dispatch r = Http.handshake r := by
  unfold dispatch
  rw [route_eq_socket_iff.mpr hpath]

/-- A resource that is named is unavailable. -/
theorem dispatch_of_resource (hpath : r.target.path ≠ s.socketPath)
    (hname : Route.IsPathOf s.resourcePath r.target.path name) :
    s.dispatch r =
      .error 503 "system.unavailable" ("Resource " ++ name ++ " is unavailable") := by
  unfold dispatch
  rw [(route_eq_resource_iff hpath).mpr hname]

/-- What is neither the socket nor a resource is not found. -/
theorem dispatch_of_nowhere (hpath : r.target.path ≠ s.socketPath)
    (hnone : ¬ ∃ name, Route.IsPathOf s.resourcePath r.target.path name) :
    s.dispatch r = .error 404 "system.notFound" "Not found" := by
  unfold dispatch
  rw [(route_eq_nowhere_iff hpath).mpr hnone]

/-- A request that is not for the socket endpoint is answered by its path alone. -/
theorem dispatch_eq_of_path_eq {r' : Http.Request} (hpath : r.target.path ≠ s.socketPath)
    (h : r'.target.path = r.target.path) : s.dispatch r' = s.dispatch r := by
  have hsocket : s.route r.target.path ≠ .socket := fun h => hpath (route_eq_socket_iff.mp h)
  unfold dispatch
  rw [h]
  split
  · next hroute => exact absurd hroute hsocket
  · rfl
  · rfl

/-- The statuses of the endpoint's answers. -/
theorem status_handshake_mem (r : Http.Request) :
    (Http.handshake r).status ∈ [101, 200, 400, 405, 426] := by
  unfold Http.handshake
  split
  · next c _ => cases c <;> decide
  · unfold Http.upgraded
    split
    · exact List.mem_cons_self
    · exact .tail _ List.mem_cons_self

/-- The endpoint's answers are no answers of resources, nor of paths that lead nowhere. -/
theorem status_handshake (r : Http.Request) :
    (Http.handshake r).status ≠ 503 ∧ (Http.handshake r).status ≠ 404 := by
  have hall : ∀ status ∈ [101, 200, 400, 405, 426], status ≠ 503 ∧ status ≠ 404 := by decide
  exact hall _ (status_handshake_mem r)

/-- The gate does not look at the path. -/
theorem respond_movedTo {path : String} (h : s.dispatch (r.movedTo path) = s.dispatch r) :
    s.respond (r.movedTo path) = s.respond r := by
  have hguard : s.origins.guard (m := Id) s.dispatch (r.movedTo path) =
      s.origins.guard (m := Id) s.dispatch r := by
    unfold OriginPolicy.guard
    simp only [h]
    rfl
  exact congrArg (Http.Response.sentTo · r.method) hguard

/-- An error that the dispatcher answers with is what the client gets to see. -/
theorem reports_of_dispatch (h : ¬ r.IsForeign s.origins) {status : Nat} {code message : String}
    (hdispatch : s.dispatch r = .error status code message) :
    (s.respond r).Reports r.method status code message := by
  obtain ⟨hstatus, hbody⟩ := respond_of_not_isForeign h
  rw [hdispatch] at hstatus hbody
  refine ⟨hstatus, fun hmethod => ?_, fun hmethod => ?_⟩
  · rw [hbody, Http.Response.sentTo, if_neg hmethod]
    exact Http.Response.textsOf?_error status code message
  · rw [hbody, Http.Response.sentTo, if_pos hmethod]

end ServerSettings

/-- **Dispatch by path.** Paths of resources are cut off behind a slash if the settings come from a
configuration. A query is no part of a target, and the path of a target that begins with a slash
stands in it as it is. A request that passes the gate and is for the path of the socket endpoint is
answered by its handshake, wherever that path lies. Of the others, those that have something but
slashes behind the common path of the resources get status 503 and are told the name of the
resource, which is unique and has no slash; slashes behind the path make no difference then. The
rest get status 404. Apart from the body for the method `HEAD`, two requests for the same path that
is not the endpoint's get the same status and body. -/
theorem respond_by_path (s : ServerSettings) :
    (∀ c, ServerSettings.ofConfig? c = .ok s →
      s.resourcePath.toList.head? = some '/' ∧ s.resourcePath.toList.getLast? = some '/') ∧
    ∀ r : Http.Request,
      (∀ d front query, Http.Target.byte '?' ∉ front →
        Http.Target.ofBytes? d (front ++ Http.Target.byte '?' :: query) = .ok r.target →
        Http.Target.ofBytes? d front = .ok r.target) ∧
      (∀ d bs, Http.Target.ofBytes? d (Http.Target.byte '/' :: bs) = .ok r.target →
        Utf8.ofString r.target.path = Http.Target.pathBytes (Http.Target.byte '/' :: bs)) ∧
      (¬ r.IsForeign s.origins →
        (r.target.path = s.socketPath →
          (s.respond r).status = (Http.handshake r).status ∧
          (s.respond r).body = ((Http.handshake r).sentTo r.method).body ∧
          (s.respond r).status ≠ 503 ∧ (s.respond r).status ≠ 404) ∧
        (r.target.path ≠ s.socketPath →
          ((∃ rest, r.target.path.toList = s.resourcePath.toList ++ rest ∧ ∃ c ∈ rest, c ≠ '/') →
            ∃ name, (∀ name', Route.IsPathOf s.resourcePath r.target.path name' ↔ name' = name) ∧
              name ≠ "" ∧ '/' ∉ name.toList ∧
              (s.respond r).Reports r.method 503 "system.unavailable"
                ("Resource " ++ name ++ " is unavailable") ∧
              ∀ path more, path.toList = r.target.path.toList ++ List.replicate more '/' →
                path ≠ s.socketPath → s.respond (r.movedTo path) = s.respond r) ∧
          ((¬ ∃ rest, r.target.path.toList = s.resourcePath.toList ++ rest ∧ ∃ c ∈ rest, c ≠ '/') →
            (s.respond r).Reports r.method 404 "system.notFound" "Not found") ∧
          ∀ r' : Http.Request, ¬ r'.IsForeign s.origins → r'.target.path = r.target.path →
            (s.respond r').status = (s.respond r).status ∧
            (r'.method ≠ "HEAD" → r.method ≠ "HEAD" →
              (s.respond r').body = (s.respond r).body))) := by
  refine ⟨fun c => ServerSettings.resourcePath_of_ofConfig?, fun r =>
    ⟨fun d front query hfront => Http.Target.ofBytes?_of_query hfront,
      fun d bs => Http.Target.path_of_ofBytes?_slash,
      fun hgate => ⟨fun hpath => ?_, fun hpath => ⟨fun hrest => ?_, fun hnone => ?_, ?_⟩⟩⟩⟩
  · obtain ⟨hstatus, hbody⟩ := respond_of_not_isForeign hgate
    rw [ServerSettings.dispatch_of_socket hpath] at hstatus hbody
    rw [hstatus]
    exact ⟨rfl, hbody, ServerSettings.status_handshake r⟩
  · obtain ⟨name, hname⟩ := Route.exists_isPathOf_iff.mpr hrest
    have hdispatch := ServerSettings.dispatch_of_resource hpath hname
    have hunique (name' : String) :
        Route.IsPathOf s.resourcePath r.target.path name' ↔ name' = name := by
      rw [← ServerSettings.route_eq_resource_iff hpath,
        (ServerSettings.route_eq_resource_iff hpath).mpr hname, Route.resource.injEq]
      exact eq_comm
    refine ⟨name, hunique, hname.ne_empty, hname.slash_not_mem,
      ServerSettings.reports_of_dispatch hgate hdispatch, fun path more hmore hpath' => ?_⟩
    refine ServerSettings.respond_movedTo ?_
    rw [hdispatch]
    exact ServerSettings.dispatch_of_resource hpath' (hname.append_slashes hmore)
  · rw [← Route.exists_isPathOf_iff] at hnone
    exact ServerSettings.reports_of_dispatch hgate (ServerSettings.dispatch_of_nowhere hpath hnone)
  · intro r' hgate' hpath'
    obtain ⟨hstatus, hbody⟩ := respond_of_not_isForeign hgate
    obtain ⟨hstatus', hbody'⟩ := respond_of_not_isForeign hgate'
    rw [ServerSettings.dispatch_eq_of_path_eq hpath hpath'] at hstatus' hbody'
    refine ⟨hstatus'.trans hstatus.symm, fun hmethod' hmethod => ?_⟩
    rw [hbody, hbody', Http.Response.sentTo, Http.Response.sentTo, if_neg hmethod, if_neg hmethod']

/-- The socket endpoint has its path among those of resources. Quotes and backslashes in the path of
a resource reach the client. -/
theorem respond_by_path_overlapping :
    let s : ServerSettings :=
      ⟨.v4 ⟨127, 0, 0, 1⟩, 8080, "/api/ws", "/api/", none, .any, .nested, none⟩
    let request (path : String) : Http.Request := ⟨"GET", ⟨none, path⟩, .one, [], [], false⟩
    (s.respond (request "/api/ws")).status = 400 ∧
      (s.respond (request "/api/ws/")).status = 503 ∧
      Json.textsOf? (s.respond (request "/api/\"a\"/\\//")).body =
        some [("code", "system.unavailable"),
          ("message", "Resource \"a\".\\ is unavailable")] := by
  intro s request
  have hgate (path : String) : ¬ (request path).IsForeign s.origins := by
    have hnone : (request path).header? "origin" = none := rfl
    rw [OriginPolicy.isForeign_iff, hnone]
    rintro ⟨origin, horigin, -⟩
    cases horigin
  obtain ⟨-, hpaths⟩ := respond_by_path s
  refine ⟨?_, ?_, ?_⟩
  · obtain ⟨hstatus, -⟩ := ((hpaths (request "/api/ws")).2.2 (hgate _)).1 rfl
    rw [hstatus]
    decide +kernel
  · obtain ⟨name, -, -, -, hreports, -⟩ :=
      (((hpaths (request "/api/ws/")).2.2 (hgate _)).2 (by decide)).1
        ⟨['w', 's', '/'], by decide, 'w', by decide, by decide⟩
    exact hreports.1
  · obtain ⟨name, hname, -, -, hreports, -⟩ :=
      (((hpaths (request "/api/\"a\"/\\//")).2.2 (hgate _)).2 (by decide)).1
        ⟨['"', 'a', '"', '/', '\\', '/', '/'], by decide, 'a', by decide, by decide⟩
    obtain rfl := (hname "\"a\".\\").mp
      ⟨['"', 'a', '"', '/', '\\'], 2, by decide, by decide, by decide, by decide⟩
    exact hreports.2.1 (by decide)

end Gateway
