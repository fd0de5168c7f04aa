/-!
# What can be configured

The gateway has fifteen settings. Each has a key, under which a configuration file gives it; a
name, under which the log lists it; and a type of contents. A `Layer` gives contents for some of
the settings, as a file or a command line does.

`Setting.all` lists the settings in the order of the log, `Setting.inFile` in the order in which
a file is written; `mem_all` and `mem_inFile` say that neither list forgets one.
-/

namespace Gateway

/-- One of the things that can be configured. -/
inductive Setting where
  | natsUrl
  | addr
  | port
  | wsPath
  | apiPath
  | headerAuth
  | tls
  | tlsCert
  | tlsKey
  | apiEncoding
  | requestTimeout
  | natsCreds
  | allowOrigin
  | debug
  | trace
  deriving DecidableEq, Repr

namespace Setting

/-- The settings in the order of the log. -/
def all : List Setting :=
  [natsUrl, addr, port, wsPath, apiPath, headerAuth, tls, tlsCert, tlsKey, apiEncoding,
    requestTimeout, natsCreds, allowOrigin, debug, trace]

/-- The settings in the order of a written file. -/
def inFile : List Setting :=
  [natsUrl, natsCreds, requestTimeout, debug, trace, addr, port, wsPath, apiPath, headerAuth,
    allowOrigin, apiEncoding, tls, tlsCert, tlsKey]

theorem mem_all (s : Setting) : s ∈ all := by cases s <;> decide

theorem mem_inFile (s : Setting) : s ∈ inFile := by cases s <;> decide

theorem nodup_all : all.Nodup := by decide

theorem nodup_inFile : inFile.Nodup := by decide

/-- The key under which a file gives the setting. -/
def key : Setting → String
  | natsUrl => "natsUrl"
  | addr => "addr"
  | port => "port"
  | wsPath => "wsPath"
  | apiPath => "apiPath"
  | headerAuth => "headerAuth"
  | tls => "tls"
  | tlsCert => "tlsCert"
  | tlsKey => "tlsKey"
  | apiEncoding => "apiEncoding"
  | requestTimeout => "requestTimeout"
  | natsCreds => "natsCreds"
  | allowOrigin => "allowOrigin"
  | debug => "debug"
  | trace => "trace"

/-- The setting that a key of a file names. -/
def ofKey? (key : String) : Option Setting := inFile.find? fun s => s.key == key

/-- A setting is found by its key. -/
theorem ofKey?_key (s : Setting) : ofKey? s.key = some s := by cases s <;> decide

theorem key_of_ofKey? {key : String} {s : Setting} (h : ofKey? key = some s) : s.key = key := by
  simpa using List.find?_some h

/-- The name under which the log lists the setting. -/
def name : Setting → String
  | natsUrl => "NatsUrl"
  | addr => "Addr"
  | port => "Port"
  | wsPath => "WsPath"
  | apiPath => "ApiPath"
  | headerAuth => "HeaderAuth"
  | tls => "Tls"
  | tlsCert => "TlsCert"
  | tlsKey => "TlsKey"
  | apiEncoding => "ApiEncoding"
  | requestTimeout => "RequestTimeout"
  | natsCreds => "NatsCreds"
  | allowOrigin => "AllowOrigin"
  | debug => "Debug"
  | trace => "Trace"

/-- The shapes of contents. -/
inductive Shape where
  /-- A text. -/
  | text
  /-- On or off. -/
  | switch
  /-- A port. -/
  | port
  /-- A number of units of time. -/
  | duration
  deriving DecidableEq, Repr

/-- What a setting of some shape holds. -/
abbrev Shape.Content : Shape → Type
  | text => String
  | switch => Bool
  | port => UInt16
  | duration => UInt64

/-- The shape of a setting's contents. -/
@[reducible] def shape : Setting → Shape
  | debug | trace | tls => .switch
  | port => .port
  | requestTimeout => .duration
  | natsUrl | addr | wsPath | apiPath | headerAuth | tlsCert | tlsKey | apiEncoding | natsCreds
  | allowOrigin => .text

/-- What a setting holds. -/
abbrev Content (s : Setting) : Type := s.shape.Content

/-- Whether a configuration may lack the setting altogether. -/
def isOptional : Setting → Bool
  | natsCreds | addr | headerAuth | allowOrigin => true
  | _ => false

end Setting

/-! ### Layers -/

/-- Contents for some of the settings. -/
def Layer : Type := (s : Setting) → Option s.Content

namespace Layer

/-- The layer that gives nothing. -/
def empty : Layer := fun _ => none

/-- The layer that gives `content` for `s` and agrees with `l` elsewhere. -/
def set (l : Layer) (s : Setting) (content : s.Content) : Layer := fun t =>
  if h : s = t then some (h ▸ content) else l t

@[simp] theorem empty_apply (s : Setting) : empty s = none := rfl

@[simp] theorem set_self (l : Layer) (s : Setting) (content : s.Content) :
    l.set s content s = some content := by
  simp [set]

theorem set_of_ne (l : Layer) {s t : Setting} (content : s.Content) (h : s ≠ t) :
    l.set s content t = l t := by
  simp [set, h]

end Layer

end Gateway
