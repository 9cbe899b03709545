import SearchIndex.Config.Settings
import SearchIndex.Index.Gateway
import SearchIndex.Wire.Client

/-!
# The gateway to a remote domain

A client of a search domain serves as the backend of a gateway. The gateway of the settings needs
an endpoint, which may be missing from them as long as nothing asks for the backend.

## Main definitions

* `Backend.ofClient`: a client as a backend
* `Gateway.ofSettings`: the gateway of the settings
-/

namespace SearchIndex.Index

variable {σ : Type}

/-- **A client as a backend.** -/
def Backend.ofClient [Json.Limits] (c : Wire.Client) (session : Wire.Session σ) : Backend σ where
  search compiled := do return .map (← c.search session compiled)
  upload := c.upload session
  note := session.note

/-- The client of the settings. -/
def clientOf (s : Config.SearchSettings) : Except Failure Wire.Client :=
  if s.endpoint = "" then .error (.noEndpoint s.endpointVariable)
  else
    Wire.Client.ofEndpoint (.text s.endpoint) (.text s.documentEndpoint) (.text s.apiVersion)
      (.float s.timeout)

/-- **The gateway of the settings.** -/
def Gateway.ofSettings [Json.Limits] (s : Config.SearchSettings) (session : Wire.Session σ) :
    Except Failure (Gateway σ) := do
  let client ← clientOf s
  return ⟨Backend.ofClient client session, .text s.typeField⟩

end SearchIndex.Index
