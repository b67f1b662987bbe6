/-
**Connections as an exchange sees them.**

An exchange needs little of a connection: it fixes the method, writes a body, asks for the status
and for the stream of the response, and disconnects.  A connection is known by these actions, on a
state that holds the connection and whatever belongs to it.  An *opener* hands out connections, and
keeps the log.

Main definitions:

* `ServiceClient.Connection`: the actions of a connection;
* `ServiceClient.Opener`: hands out connections.
-/

import ServiceClient.LogEvent
import ServiceClient.Stream

set_option autoImplicit false

namespace ServiceClient

/-- A connection, by its actions on a state. -/
structure Connection (σ : Type) where
  url : String
  /-- Allows a body to be written. -/
  enableOutput : σ → σ
  /-- Fixes the method of the request. -/
  setMethod (method : String) : σ → σ
  /-- The stream that takes the body. -/
  output : Action σ (Sink σ)
  /-- The status of the response. -/
  status : Action σ Int
  /-- The stream of a response that is no error; none if the response has no body. -/
  input : Action σ (Option (Source σ))
  /-- The stream of an error response; none if there is none. -/
  errorInput : Action σ (Option (Source σ))
  disconnect : Action σ Unit
  /-- Writes to the log. -/
  log (event : LogEvent) : σ → σ

/-- Hands out connections and keeps the log. -/
structure Opener (σ : Type) where
  /-- Opens a connection to a URL with headers. -/
  connect (url : String) (headers : List (String × String)) : Action σ (Connection σ)
  /-- Writes to the log. -/
  log (event : LogEvent) : σ → σ

namespace Connection

/-- The wording of an error status where the stream of a response was asked for. -/
def statusText (status : Int) (url : String) : String :=
  "Server returned HTTP response code: " ++ toString status ++ " for URL: " ++ url

/-- What happens to a body on a connection that is not meant to send one. -/
def outputNotEnabled : Failure :=
  .worded .io "Output is not enabled on this connection"

variable {σ τ : Type}

def within (part : Part τ σ) (c : Connection σ) : Connection τ where
  url := c.url
  enableOutput t := part.set (c.enableOutput (part.get t)) t
  setMethod method t := part.set (c.setMethod method (part.get t)) t
  output := do pure ((← c.output.within part).within part)
  status := c.status.within part
  input := do pure ((← c.input.within part).map (·.within part))
  errorInput := do pure ((← c.errorInput.within part).map (·.within part))
  disconnect := c.disconnect.within part
  log event t := part.set (c.log event (part.get t)) t

end Connection

end ServiceClient
