import Gateway.Http.Handshake
import Gateway.Server.Settings

/-!
# Dispatch of requests by path

A request goes to the socket endpoint if its path is the endpoint's, and to a resource if its path
lies below the common path of the resources. The name of a resource is the rest of the path, with
dots for slashes. No resource can be served at present, which the response says.
-/

namespace Gateway

/-- What a request is for. -/
inductive Route where
  /-- The socket endpoint. -/
  | socket
  /-- A resource. -/
  | resource (name : String)
  /-- Nothing that there is. -/
  | nowhere
  deriving DecidableEq, Repr

/-- The name of a resource whose path ends in a text: without the slashes at its end, and with
dots for the others. -/
def Route.nameOf (rest : List Char) : List Char :=
  ((rest.reverse.dropWhile (· == '/')).reverse).map fun c => if c = '/' then '.' else c

namespace ServerSettings

/-- Where the settings send a path. -/
def route (s : ServerSettings) (path : String) : Route :=
  if path = s.socketPath then .socket
  else
    match Text.after? s.resourcePath.toList path.toList with
    | none => .nowhere
    | some rest =>
      let name := Route.nameOf rest
      if name.isEmpty then .nowhere else .resource (String.ofList name)

/-- The response to a request, whatever its origin. -/
def dispatch (s : ServerSettings) (r : Http.Request) : Http.Response :=
  match s.route r.target.path with
  | .socket => Http.handshake r
  | .resource name =>
    .error 503 "system.unavailable" ("Resource " ++ name ++ " is unavailable")
  | .nowhere => .error 404 "system.notFound" "Not found"

end ServerSettings

end Gateway
