/-
**Streams of bytes.**

A stream is known by the actions it offers on a state that holds it.  A *source* is read, a *sink*
is written.  Putting a text reader or a text writer over a stream may fail already; this is the
action `attach`.

Main definitions:

* `ServiceClient.Bytes`;
* `ServiceClient.Source`, `ServiceClient.Sink`;
* `ServiceClient.Source.within`, `ServiceClient.Sink.within`: a stream in a part of the state;
* `ServiceClient.Source.fill`: reads into a buffer.
-/

import ServiceClient.Action

set_option autoImplicit false

namespace ServiceClient

abbrev Bytes := List UInt8

/-- A stream that is read. -/
structure Source (σ : Type) where
  /-- The name shown when the stream cannot be closed. -/
  name : String
  /-- A reader is put over the stream. -/
  attach : Action σ Unit
  /-- At most `n` bytes; none at the end of the stream. -/
  read (n : Nat) : Action σ Bytes
  /-- As `read`, for a buffer of `n` bytes that the caller owns. -/
  readInto (n : Nat) : Action σ Bytes
  /-- All bytes that are left. -/
  readAll : Action σ Bytes
  /-- The bytes up to and with the next line feed, or all bytes that are left. -/
  readLine : Action σ Bytes
  close : Action σ Unit
  isClosed : σ → Bool
  /-- No more bytes than these are left. -/
  extent : σ → Nat

/-- A stream that is written. -/
structure Sink (σ : Type) where
  /-- The name shown when the stream cannot be closed. -/
  name : String
  /-- A writer is put over the stream. -/
  attach : Action σ Unit
  write (data : Bytes) : Action σ Unit
  close : Action σ Unit
  /-- What has been written, as long as the stream is open. -/
  written : Action σ Bytes

namespace Source

variable {σ τ : Type}

def within (part : Part τ σ) (s : Source σ) : Source τ where
  name := s.name
  attach := s.attach.within part
  read n := (s.read n).within part
  readInto n := (s.readInto n).within part
  readAll := s.readAll.within part
  readLine := s.readLine.within part
  close := s.close.within part
  isClosed t := s.isClosed (part.get t)
  extent t := s.extent (part.get t)

/-- Reads into a buffer, from its beginning: how many bytes were placed there, and the buffer. -/
def fill (s : Source σ) (buffer : Bytes) : Action σ (Nat × Bytes) := do
  let got ← s.readInto buffer.length
  pure (got.length, got ++ buffer.drop got.length)

end Source

namespace Sink

variable {σ τ : Type}

def within (part : Part τ σ) (s : Sink σ) : Sink τ where
  name := s.name
  attach := s.attach.within part
  write data := (s.write data).within part
  close := s.close.within part
  written := s.written.within part

end Sink

/-- What happens to an operation on a closed stream. -/
def closedStream : Failure := .plain .value

end ServiceClient
