import Gateway.Config.Basic

/-!
# Fields of a configuration document

What a document gives for the settings: nothing, a null, or contents. As a layer a null counts as
nothing; as a configuration in its own right, a document starts from the standard configuration,
and a null makes an optional setting absent.
-/

namespace Gateway

/-- What a document gives: for each setting nothing, a null, or contents. -/
def Fields : Type := (s : Setting) → Option (Option s.Content)

namespace Fields

/-- The fields of a document that gives nothing. -/
def empty : Fields := fun _ => none

/-- The fields with one more given. -/
def set (fs : Fields) (s : Setting) (field : Option s.Content) : Fields := fun t =>
  if h : s = t then some (h ▸ field) else fs t

@[simp] theorem empty_apply (s : Setting) : empty s = none := rfl

@[simp] theorem set_self (fs : Fields) (s : Setting) (field : Option s.Content) :
    fs.set s field s = some field := by
  simp [set]

theorem set_of_ne (fs : Fields) {s t : Setting} (field : Option s.Content) (h : s ≠ t) :
    fs.set s field t = fs t := by
  simp [set, h]

/-- The layer that the fields form. -/
def toLayer (fs : Fields) : Layer := fun s => (fs s).join

/-- The configuration that the fields form. -/
def toConfig (fs : Fields) : Config :=
  let base := Config.standard
  { natsUrl := (fs.toLayer .natsUrl).getD base.natsUrl
    natsCreds := (fs .natsCreds).getD base.natsCreds
    requestTimeout := (fs.toLayer .requestTimeout).getD base.requestTimeout
    debug := (fs.toLayer .debug).getD base.debug
    trace := (fs.toLayer .trace).getD base.trace
    addr := (fs .addr).getD base.addr
    port := (fs.toLayer .port).getD base.port
    wsPath := (fs.toLayer .wsPath).getD base.wsPath
    apiPath := (fs.toLayer .apiPath).getD base.apiPath
    headerAuth := (fs .headerAuth).getD base.headerAuth
    allowOrigin := (fs .allowOrigin).getD base.allowOrigin
    apiEncoding := (fs.toLayer .apiEncoding).getD base.apiEncoding
    tls := (fs.toLayer .tls).getD base.tls
    tlsCert := (fs.toLayer .tlsCert).getD base.tlsCert
    tlsKey := (fs.toLayer .tlsKey).getD base.tlsKey }

end Fields

end Gateway
