import Storefront.Config.Load
import Storefront.Net.Address
import Storefront.Server.Logging
import Storefront.Service

/-!
# Launching the server

From a configuration file to a server that listens: the configuration is loaded, its address read,
and its vocabulary made ready. That the server listens is logged.

## Main definitions

* `Server`, `LaunchError`: a server, and why there is none
* `Server.launch`: the server of a configuration file
* `Server.announcement`, `Server.announcementEvent`: what is logged

## Main results

* `launch_eq_ok`: the server has the configuration that was loaded, with its vocabulary
-/

namespace Storefront

open Net

/-- A server that can listen. -/
structure Server where
  /-- Where it listens. -/
  address : Socket
  /-- What it serves. -/
  service : Service

/-- The reason why there is no server. -/
inductive LaunchError where
  /-- There is no configuration. -/
  | config (error : Config.LoadError)
  /-- The address is none. -/
  | address
  /-- There is no service. -/
  | service (error : SearchError)

/-- The sentence of an error. -/
def LaunchError.message : LaunchError → String
  | .config .unreadable => "Failed to read the configuration."
  | .config .unparsable => "Failed to parse the configuration."
  | .config (.invalid fault) => fault.message
  | .address => "invalid socket address syntax"
  | .service error => error.message

namespace Server

/-- **The server of a configuration file**, given its text if it can be read. -/
def launch (text : Option String) : Except LaunchError Server :=
  match Config.load text with
  | .error e => .error (.config e)
  | .ok config =>
    match Socket.ofText? config.server.httpBind.toList with
    | none => .error .address
    | some address =>
      match Service.ofConfig? config with
      | .error e => .error (.service e)
      | .ok service => .ok { address, service }

/-- The server has the configuration that was loaded, and extracts with the vocabulary of that. -/
theorem launch_eq_ok {text : Option String} {s : Server} (h : launch text = .ok s) :
    Config.load text = .ok s.service.config ∧
      s.service.extractor = .ofVocabulary (s.service.config.vocabulary.getD .standard) := by
  unfold launch at h
  split at h
  · cases h
  · next config hl =>
    split at h
    · cases h
    · split at h
      · cases h
      · next hs =>
        obtain rfl := Except.ok.inj h
        obtain ⟨rfl, hx⟩ := Service.ofConfig?_eq_ok hs
        exact ⟨hl, hx⟩

/-- What the server logs when it listens. -/
def announcement : String := "HTTP server listening."

/-- The event that is logged when the server listens. -/
def announcementEvent : LogEvent where
  target := "shelf_api"
  level := .info
  fields := ["message", "http_addr", "backend", "class_name", "embedding"]

/-- Whether the server logs that it listens. -/
def announces (s : Server) : Bool :=
  (LogFilter.ofSetting s.service.config.server.logLevel).logs announcementEvent

end Server

end Storefront
