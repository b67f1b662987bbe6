/-
**Recording connections.**

A recording connection reaches no service.  It records what an exchange does with it, answers with
a prepared status and body, and fails on demand.  A *recorder* hands out prepared connections in
order.

Main definitions:

* `ServiceClient.Recording`: the connection;
* `ServiceClient.Recording.connection`: its actions, on a state that also holds the log;
* `ServiceClient.Recorder`, `ServiceClient.Recorder.opener`: prepared connections.
-/

import ServiceClient.Connection
import ServiceClient.Exchange
import ServiceClient.Header
import ServiceClient.Stream.Tracked

set_option autoImplicit false

namespace ServiceClient

/-- A connection that records what is done with it. -/
structure Recording where
  url : String := "http://localhost/odata.svc"
  method : String := "GET"
  outputEnabled : Bool := false
  statusCode : Int := 200
  /-- The body of the response; none if it has no stream. -/
  body : Option Bytes := some []
  headers : List (String × String) := []
  output : Option Tracked := none
  responseStream : Option Tracked := none
  disconnectCount : Nat := 0
  statusCalls : Nat := 0
  statusFailure : Option Failure := none
  disconnectFailure : Option Failure := none
  deriving Repr, Inhabited

namespace Recording

/-! ### Parts -/

/-- The stream that takes the body. -/
def outputPart : Part Recording Tracked where
  get r := r.output.getD {}
  set t r := { r with output := some t }

def responsePart : Part Recording Tracked where
  get r := r.responseStream.getD {}
  set t r := { r with responseStream := some t }

/-! ### Views -/

def headerMap (r : Recording) : HeaderMap := .ofPairs r.headers

/-- The body as the stream held it when it was last closed. -/
def sentBody (r : Recording) : Bytes :=
  (r.output.map Tracked.captured).getD []

/-! ### Actions -/

def setHeader (name value : String) : Action Recording Unit :=
  .modify fun r => { r with headers := r.headers ++ [(name, value)] }

/-- The stream that takes the body, once output is enabled. -/
def openOutput : Action Recording (Sink Recording) := do
  if ← Action.gets outputEnabled then
    .modify fun r => { r with output := some (r.output.getD {}) }
    pure (Tracked.sink.within outputPart)
  else .raise Connection.outputNotEnabled

/-- Fails if a failure is set for the status. -/
def strikeStatus : Action Recording Unit :=
  .strike statusFailure fun f r => { r with statusFailure := some f }

def status : Action Recording Int := do
  .modify fun r => { r with statusCalls := r.statusCalls + 1 }
  strikeStatus
  .gets statusCode

/-- The stream of the response, made from the body when it is first asked for. -/
def openResponse : Action Recording (Option (Source Recording)) := do
  let r ← Action.gets id
  match r.responseStream, r.body with
  | none, none => pure none
  | some _, _ => pure (some (Tracked.source.within responsePart))
  | none, some body =>
      .modify fun r => { r with responseStream := some { content := body } }
      pure (some (Tracked.source.within responsePart))

/-- The stream of a response that is no error. -/
def input : Action Recording (Option (Source Recording)) := do
  strikeStatus
  let r ← Action.gets id
  if r.statusCode ≥ failingStatus then
    .raise (.worded .io (Connection.statusText r.statusCode r.url))
  else openResponse

def errorInput : Action Recording (Option (Source Recording)) := do
  let r ← Action.gets id
  if r.statusCode < failingStatus then pure none else openResponse

/-- Counts a disconnect, and fails if a failure is set for it. -/
def disconnect : Action Recording Unit := do
  .modify fun r => { r with disconnectCount := r.disconnectCount + 1 }
  .strike disconnectFailure fun f r => { r with disconnectFailure := some f }

/-- The actions of a recording connection with a URL; the log stands beside the connection. -/
def connection (url : String) : Connection (Recording × List LogEvent) :=
  { url
    enableOutput := fun (r, log) => ({ r with outputEnabled := true }, log)
    setMethod := fun method (r, log) => ({ r with method }, log)
    output := do pure ((← openOutput.within .first).within .first)
    status := status.within .first
    input := do pure ((← input.within .first).map (·.within .first))
    errorInput := do pure ((← errorInput.within .first).map (·.within .first))
    disconnect := disconnect.within .first
    log := fun event (r, log) => (r, log ++ [event]) }

end Recording

/-! ### Prepared connections -/

/-- Connections that are handed out in order. -/
structure Recorder where
  connections : List Recording
  /-- What was opened so far: its URL and its headers. -/
  opened : List (String × HeaderMap) := []
  /-- Lets every attempt to open fail, for this cause. -/
  openFailure : Option Failure := none
  log : List LogEvent := []
  deriving Repr, Inhabited

namespace Recorder

/-- One of the connections, together with the log. -/
def part (index : Nat) : Part Recorder (Recording × List LogEvent) where
  get s := (s.connections.getD index {}, s.log)
  set p s := { s with connections := s.connections.set index p.1, log := p.2 }

def connect (url : String) (headers : HeaderMap) : Action Recorder (Connection Recorder) := do
  let s ← Action.gets id
  match s.openFailure with
  | some f => .raiseFrom .unopened f
  | none =>
      let index := s.opened.length
      if index < s.connections.length then
        Action.within (part index)
          (.modify fun (r, log) => ({ r with url, headers := r.headers ++ headers }, log))
        .modify fun s => { s with opened := s.opened ++ [(url, headers)] }
        pure ((Recording.connection url).within (part index))
      else .raise (.plain .index)

def opener : Opener Recorder where
  connect := connect
  log event s := { s with log := s.log ++ [event] }

end Recorder

end ServiceClient
