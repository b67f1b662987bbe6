/-
**An exchange over a connection.**

The body of a request is written in one piece, also an empty one.  Then the writer is closed and
after it the stream, on every path; a failure to close counts for more than a failure to write.

The status of the response decides which stream is read.  Its text is drained, the reader is closed,
and the connection is disconnected, on every path.  A response with a failing status is an error
whose message holds the drained text.

Whatever was opened is closed on every path.  A failure to release is an error of its own, also
when another failure is in flight; that one then stands behind it.

Main definitions:

* `ServiceClient.closing`, `ServiceClient.closingSome`: closes a stream, a reader or a writer, which
  may be absent;
* `ServiceClient.disconnecting`: disconnects a connection;
* `ServiceClient.bodyLength`: the number of bytes of a body;
* `ServiceClient.send`: sends a body with a method;
* `ServiceClient.ResponseResult`: a response that is no error;
* `ServiceClient.readResponse`: reads a response and releases the connection.
-/

import ServiceClient.Connection
import ServiceClient.Failure.Classification
import ServiceClient.Text.Encoding

set_option autoImplicit false

namespace ServiceClient

variable {σ : Type}

/-! ### Releasing resources -/

/-- An action whose expected failures become an error of the client. -/
def reporting {α : Type} (e : ClientError) (m : Action σ α) : Action σ α :=
  m.rescue fun f => if f.isExchangeFailure then .raiseFrom e f else .rethrow f

/-- Closes what is called `name`. -/
def closing (name : String) (close : Action σ Unit) : Action σ Unit :=
  reporting (.unclosed name) close

def closingSome : Option (String × Action σ Unit) → Action σ Unit
  | none => pure ()
  | some (name, close) => closing name close

def disconnecting (c : Connection σ) : Action σ Unit :=
  reporting (.undisconnected c.url) c.disconnect

/-- The name of the reader and of the writer that are put over a stream. -/
def textStreamName : String := "TextIOWrapper"

/-! ### Sending a body -/

/-- The number of bytes that a body takes. -/
def bodyLength (body : List Text.CodePoint) : Nat :=
  (Text.encode body).length

/-- The failures of a writer: those of the system's input and output, and texts that cannot be
encoded. -/
def Failure.isWriteFailure (f : Failure) : Bool :=
  f.isA .io || f.isA .unicode

/-- A step of sending: a failure of the writer is logged and becomes an error of the client. -/
def sending {α : Type} (c : Connection σ) (method : String) (m : Action σ α) : Action σ α :=
  m.rescue fun f =>
    if f.isWriteFailure then do
      .modify (c.log (.writeFailed c.url method f.fault))
      .raiseFrom (.unwritten method c.url) f
    else .rethrow f

def send (c : Connection σ) (body : List Text.CodePoint) (method : String) : Action σ Unit := do
  .modify c.enableOutput
  .modify (c.setMethod method)
  let out ← sending c method c.output
  Action.ensure
    (do
      sending c method out.attach
      Action.ensure
        (sending c method (out.write (Text.encode body)))
        (closing textStreamName out.close))
    (closing out.name out.close)

/-! ### Reading a response -/

def failingStatus : Int := 400

/-- The text of a response without a stream. -/
def noResponse : String := "No Response."

/-- What an exchange has brought. -/
structure ResponseResult where
  statusCode : Int
  text : String
  isError : Bool
  deriving DecidableEq, Repr, Inhabited

/-- A step of reading: an expected failure is logged and classified. -/
def reading {α : Type} (c : Connection σ) (m : Action σ α) : Action σ α :=
  m.rescue fun f =>
    if f.isExchangeFailure then do
      .modify (c.log (.readFailed c.url f.fault))
      .raiseFrom (.ofTransport f.fault) f
    else .rethrow f

def responseStream (c : Connection σ) : Action σ (Int × Option (Source σ)) := do
  let status ← c.status
  let source ← if status ≥ failingStatus then c.errorInput else c.input
  .modify (c.log (.requestCompleted c.url status))
  pure (status, source)

/-- The outcome of a response with a given text. -/
def concluding (status : Int) (text : String) : Action σ ResponseResult :=
  if status ≥ failingStatus then
    .raise (.client (.ofStatus status (ClientError.statusPreamble ++ text)))
  else pure { statusCode := status, text, isError := false }

def readResponse (c : Connection σ) : Action σ ResponseResult :=
  Action.ensure
    (do
      let (status, source) ← reading c (responseStream c)
      match source with
      | none => concluding status noResponse
      | some source => do
          reading c source.attach
          Action.ensure
            (do
              let bytes ← reading c source.readAll
              concluding status (Text.drainBytes bytes))
            (closing textStreamName source.close))
    (disconnecting c)

end ServiceClient
