/-
**Connections over the wire.**

A channel makes one exchange with the service.  Nothing is sent before the status or the stream of
the response is first asked for; headers, method and body are fixed by then.  An exchange that fails
leaves the channel as it was, so it can be tried again.  If the way leads through a proxy, failing
to reach the proxy is an error of the client.

Main definitions:

* `ServiceClient.Wire.RequestBody`: the body while it is written;
* `ServiceClient.Wire.Channel`, `ServiceClient.Wire.Session`: a channel, and with it the service and
  the log;
* `ServiceClient.Wire.Session.connection`: the actions of a channel.
-/

import ServiceClient.Connection
import ServiceClient.Failure.Classification
import ServiceClient.Stream.Buffered
import ServiceClient.Wire.Service

set_option autoImplicit false

namespace ServiceClient.Wire

/-! ### The body of a request -/

/-- The body of a request; it keeps its content when it is closed. -/
structure RequestBody where
  content : Bytes := []
  closed : Bool := false
  deriving Repr, Inhabited

namespace RequestBody

def demandOpen : Action RequestBody Unit := do
  if ← Action.gets closed then .raise closedStream

def sink : Sink RequestBody where
  name := "RequestBody"
  attach := demandOpen
  write data := do
    demandOpen
    .modify fun b => { b with content := b.content ++ data }
  close := .modify fun b => { b with closed := true }
  written := do
    demandOpen
    .gets content

end RequestBody

/-! ### Channels -/

/-- One connection to the service. -/
structure Channel where
  url : String
  /-- The address of the proxy on the way. -/
  proxyUrl : Option String := none
  method : String := "GET"
  outputEnabled : Bool := false
  headers : List (String × String) := []
  body : Option RequestBody := none
  response : Option Response := none
  /-- The streams that were handed out, all over the one response. -/
  streams : List (Buffer × Reading) := []
  disconnected : Bool := false
  /-- How often what serves the channel was closed. -/
  closings : Nat := 0
  deriving Repr, Inhabited

namespace Channel

/-- Whether what serves the channel is still open. -/
def serving (c : Channel) : Bool := c.closings == 0

def bodyPart : Part Channel RequestBody where
  get c := c.body.getD {}
  set b c := { c with body := some b }

def responsePart : Part Channel Response where
  get c := c.response.getD {}
  set r c := { c with response := some r }

/-- One of the streams, with the response under it. -/
def streamPart (index : Nat) : Part Channel (Buffer × Reading.State) where
  get c :=
    let (b, k) := c.streams.getD index default
    (b, c.response.getD {}, k)
  set s c := { c with response := some s.2.1, streams := c.streams.set index (s.1, s.2.2) }

/-- Adds a header, as long as nothing was sent. -/
def setHeader (name value : String) : Action Channel Unit := do
  if ← Action.gets fun c => c.response.isSome then
    .raise (.worded .runtime "Cannot set a header after the request was sent")
  .modify fun c => { c with headers := c.headers ++ [(name, value)] }

/-- The stream that takes the body, once output is enabled and as long as nothing was sent. -/
def openOutput : Action Channel (Sink Channel) := do
  let c ← Action.gets id
  if !c.outputEnabled then .raise Connection.outputNotEnabled
  else if c.response.isSome then
    .raise (.worded .io "Cannot write output after the request was sent")
  else
    .modify fun c => { c with body := some (c.body.getD {}) }
    pure (RequestBody.sink.within bodyPart)

def request (c : Channel) : Except Failure Request :=
  Request.build c.method c.url c.headers ((c.body.map RequestBody.content).getD [])

def streamName : String := "BufferedReader"

/-- Hands out a new stream over the response. -/
def openStream : Action Channel (Source Channel) := do
  let index ← Action.gets fun c => c.streams.length
  .modify fun c => { c with streams := c.streams ++ [default] }
  pure ((Reading.source.buffered streamName).within (streamPart index))

/-- Closes the reader under one of the streams, which leaves its buffer as it is. -/
def closeReader (index : Nat) : Action Channel Unit :=
  (Reading.close.within .second).within (streamPart index)

/-- Disconnects, once; what serves the channel is closed also when the response cannot be. -/
def disconnect : Action Channel Unit := do
  let c ← Action.gets id
  if c.disconnected then pure ()
  else
    .modify fun c => { c with disconnected := true }
    Action.ensure
      (if c.response.isSome then Response.close.within responsePart else pure ())
      (.modify fun c => { c with closings := c.closings + 1 })

end Channel

/-! ### Sessions -/

/-- A channel, the service at its end, and the log. -/
structure Session where
  channel : Channel
  service : Service
  log : List LogEvent := []
  deriving Repr, Inhabited

namespace Session

def channelPart : Part Session Channel where
  get := channel
  set channel s := { s with channel }

def servicePart : Part Session Service where
  get := service
  set service s := { s with service }

def note (event : LogEvent) (s : Session) : Session :=
  { s with log := s.log ++ [event] }

/-- The failures to reach a proxy. -/
def isProxyFailure (f : Failure) : Bool :=
  f.isA .connect || f.isA .connectTimeout || f.isA .proxy

/-- Handles a failed exchange: on a way through a proxy, not reaching it is reported. -/
def unreached (f : Failure) : Action Session Response := do
  let c ← Action.gets channel
  match c.proxyUrl with
  | some proxyUrl =>
      if isProxyFailure f then
        .modify (note (.openFailed c.url f.fault))
        .modify (note (.proxyAddressed proxyUrl))
        .raiseFrom (.unreachedProxy c.url proxyUrl) f
      else .rethrow f
  | none => .rethrow f

/-- The response; the exchange is made if there is none yet. -/
def respond : Action Session Response := do
  let c ← Action.gets channel
  match c.response with
  | some response => pure response
  | none =>
      if c.disconnected then
        .raise (.worded .io ("Connection to " ++ c.url ++ " is already disconnected"))
      else
        match c.request with
        | .error f => .raise f
        | .ok request =>
            let response ← ((Service.send request).within servicePart).rescue unreached
            .modify fun s => { s with channel := { s.channel with response := some response } }
            pure response

def status : Action Session Int := do
  pure (← respond).status

/-- The stream of a response that is no error. -/
def input : Action Session (Option (Source Session)) := do
  let response ← respond
  if response.isError then
    let url ← Action.gets fun s => s.channel.url
    .raise (.worded .httpStatus (Connection.statusText response.status url))
  else if response.hasBody then
    pure (some ((← Channel.openStream.within channelPart).within channelPart))
  else pure none

/-- The stream of an error response that has come and is not said to be empty. -/
def errorInput : Action Session (Option (Source Session)) := do
  match ← Action.gets fun s => s.channel.response with
  | none => pure none
  | some response =>
      if response.isError && response.header? "Content-Length" != some "0" then
        pure (some ((← Channel.openStream.within channelPart).within channelPart))
      else pure none

/-- The actions of a channel with a URL. -/
def connection (url : String) : Connection Session where
  url := url
  enableOutput s := { s with channel := { s.channel with outputEnabled := true } }
  setMethod method s := { s with channel := { s.channel with method } }
  output := do pure ((← Channel.openOutput.within channelPart).within channelPart)
  status := status
  input := input
  errorInput := errorInput
  disconnect := Channel.disconnect.within channelPart
  log := note

end Session

end ServiceClient.Wire
