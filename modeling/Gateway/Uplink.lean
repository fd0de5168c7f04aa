import Gateway.Config.Basic
import Gateway.FileTree.Basic
import Gateway.Url

/-!
# The link to the message server

The gateway passes requests on to a message server. Its address has one of four schemes; a file of
credentials, if one is given, has to be there.
-/

namespace Gateway

/-- The checked settings of the link to the message server. -/
structure Uplink where
  /-- The address of the message server. -/
  url : Url
  /-- The file of credentials, if there is one. -/
  credentials : Option String
  /-- How long an answer may take, in milliseconds. -/
  timeout : UInt64
  deriving DecidableEq

/-- Why there can be no link to the message server. -/
inductive UplinkFault where
  /-- The text is no address. -/
  | url (text : String) (fault : UrlFault)
  /-- The address is not of a message server. -/
  | scheme (text name : String)
  /-- There is no such file of credentials. -/
  | credentials (path : String)
  deriving DecidableEq, Repr

/-- The wording of a fault. -/
def UplinkFault.message : UplinkFault → String
  | url text fault => "invalid NATS URL (" ++ text ++ "): " ++ fault.message
  | scheme text name => "invalid NATS URL (" ++ text ++ "): unsupported scheme " ++ name
  | credentials path => "NATS credentials file not found: " ++ path

namespace Uplink

/-- The schemes of message servers. -/
def schemes : List String := ["nats", "tls", "ws", "wss"]

/-- The settings of a configuration, with the files that are there. -/
def ofConfig? (t : FileTree) (c : Config) : Except UplinkFault Uplink :=
  match Url.ofString? c.natsUrl with
  | .error fault => .error (.url c.natsUrl fault)
  | .ok url =>
    if url.scheme ∉ schemes then .error (.scheme c.natsUrl url.scheme)
    else
      match c.natsCreds with
      | none => .ok ⟨url, none, c.requestTimeout⟩
      | some path =>
        if t.isRegular (Utf8.ofString path) then .ok ⟨url, some path, c.requestTimeout⟩
        else .error (.credentials path)

end Uplink

end Gateway
