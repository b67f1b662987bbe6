/-
**Calling an endpoint.**

Each call opens a connection of its own, makes one exchange over it, and releases it.  Only the
call that hands out the stream of a response leaves its connection open: the stream is a *lease*,
and closing it disconnects.

Main definitions:

* `ServiceClient.callEndpoint`, `ServiceClient.postEntity`, `ServiceClient.putEntity`,
  `ServiceClient.deleteEntity`: the calls that read their response;
* `ServiceClient.openResponse`: the call that hands out the stream of its response;
* `ServiceClient.Lease`: that stream.
-/

import ServiceClient.Exchange
import ServiceClient.Header
import ServiceClient.Stream.Buffered

set_option autoImplicit false

namespace ServiceClient

variable {σ : Type}

/-! ### Calls that read their response -/

/-- Gets the text of a resource, as XML. -/
def callEndpoint (o : Opener σ) (headers : Option HeaderMap) (url : String) : Action σ String := do
  .modify (o.log (.callPrepared url))
  let c ← o.connect url (HeaderMap.describe headers (-1) none (some .xml))
  pure (← readResponse c).text

/-- Sends a body and reads the response.  If sending fails, the connection is released and the
response is not asked for. -/
def exchange (o : Opener σ) (headers : HeaderMap) (url : String) (body : List Text.CodePoint)
    (method : Method) : Action σ String := do
  let c ← o.connect url headers
  (send c body method.name).rescue fun f => do
    disconnecting c
    .rethrow f
  pure (← readResponse c).text

/-- Creates an entity from a body of one type, and accepts an answer of another. -/
def postEntity (o : Opener σ) (headers : Option HeaderMap) (url : String)
    (body : List Text.CodePoint) (content accepted : Option MediaType) : Action σ String :=
  exchange o (HeaderMap.describe headers (bodyLength body) content accepted) url body .post

/-- Replaces an entity by a body, and accepts an answer of the same type. -/
def putEntity (o : Opener σ) (headers : Option HeaderMap) (url : String)
    (body : List Text.CodePoint) (media : Option MediaType) : Action σ String :=
  exchange o (HeaderMap.describe headers (bodyLength body) media media) url body .put

def deleteEntity (o : Opener σ) (headers : Option HeaderMap) (url : String) : Action σ Unit := do
  let _ ← exchange o (HeaderMap.describe headers 0 (some .atomXml) (some .atomXml)) url [] .delete

/-! ### The stream of a response -/

/-- The stream of a response together with its connection. -/
structure Lease (σ : Type) where
  connection : Connection σ
  /-- The stream; a response without one is empty. -/
  source : Option (Source σ)

/-- Opens a connection and hands out the stream of its response.  If there is none to hand out, the
connection is released. -/
def openResponse (o : Opener σ) (headers : Option HeaderMap) (url : String) :
    Action σ (Lease σ) := do
  let c ← o.connect url (headers.getD [])
  let source ← c.input.rescue fun f =>
    if f.fault.isClient then do
      disconnecting c
      .rethrow f
    else if f.isExchangeFailure then do
      disconnecting c
      .raiseFrom (.unobtained url) f
    else .rethrow f
  match source with
  | some s => s.attach
  | none => pure ()
  pure { connection := c, source }

/-- What a lease remembers: its buffer, and whether a stream without bytes was closed. -/
structure LeaseState where
  buffer : Buffer := {}
  emptyClosed : Bool := false
  deriving Repr, Inhabited

namespace Lease

/-- The source without bytes; the state tells whether it is closed. -/
def emptySource : Source Bool where
  name := "EmptyStream"
  attach := pure ()
  read _ := pure []
  readInto _ := pure []
  readAll := pure []
  readLine := pure []
  close := .modify fun _ => true
  isClosed closed := closed
  extent _ := 0

def raw (l : Lease σ) : Source (Bool × σ) :=
  match l.source with
  | some s => s.within .second
  | none => emptySource.within .first

/-- The buffer, apart from the rest. -/
def layout : Part (LeaseState × σ) (Buffer × Bool × σ) where
  get p := (p.1.buffer, p.1.emptyClosed, p.2)
  set q _ := ({ buffer := q.1, emptyClosed := q.2.1 }, q.2.2)

def streamName : String := "_ConnectionStream"

/-- The stream that the caller reads.  Closing it closes the stream of the response and disconnects,
also when the stream cannot be closed. -/
def stream (l : Lease σ) : Source (LeaseState × σ) :=
  let buffered := (l.raw.buffered streamName).within layout
  { buffered with
    close := do
      if ← Action.gets buffered.isClosed then pure ()
      else buffered.close.ensure ((disconnecting l.connection).within .second) }

/-- Closes the stream under the buffer, which leaves the connection as it is. -/
def closeRaw (l : Lease σ) : Action (LeaseState × σ) Unit :=
  (l.raw.close.within .second).within layout

end Lease

end ServiceClient
