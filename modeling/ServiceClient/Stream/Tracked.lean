/-
**Tracked streams.**

A tracked stream lies in memory.  It counts how often it was closed, remembers what it held then,
and fails on demand: each write and each read while a failure is set for them, the first close only
for closing, which then leaves the stream open.

Main definitions:

* `ServiceClient.Tracked`: the stream;
* `ServiceClient.Tracked.source`, `ServiceClient.Tracked.sink`: its two sides.
-/

import ServiceClient.Stream

set_option autoImplicit false

namespace ServiceClient

/-- A stream in memory that counts its closes and fails on demand. -/
structure Tracked where
  content : Bytes := []
  position : Nat := 0
  closed : Bool := false
  closeCount : Nat := 0
  /-- What the stream held when it was last closed. -/
  captured : Bytes := []
  writeFailure : Option Failure := none
  readFailure : Option Failure := none
  closeFailure : Option Failure := none
  deriving Repr, Inhabited

namespace Tracked

def left (t : Tracked) : Bytes :=
  t.content.drop t.position

/-- Writes at the position: what stands there is overwritten. -/
def put (data : Bytes) (t : Tracked) : Tracked :=
  { t with
    content := t.content.take t.position ++ data ++ t.content.drop (t.position + data.length)
    position := t.position + data.length }

def demandOpen : Action Tracked Unit := do
  if ← Action.gets closed then .raise closedStream

/-- Fails if a failure is set for reading. -/
def strikeRead : Action Tracked Unit :=
  .strike readFailure fun f t => { t with readFailure := some f }

def advance (n : Nat) : Action Tracked Bytes := fun _ t =>
  (.ok (t.left.take n), { t with position := t.position + (t.left.take n).length })

def read (n : Nat) : Action Tracked Bytes := do
  strikeRead
  demandOpen
  advance n

def readAll : Action Tracked Bytes := do
  strikeRead
  demandOpen
  advance (← Action.gets fun t => t.left.length)

/-- The bytes up to and with the next line feed.  No failure is set for reading lines. -/
def readLine : Action Tracked Bytes := do
  demandOpen
  let left ← Action.gets Tracked.left
  advance ((left.takeWhile (· != 10)).length + 1)

def write (data : Bytes) : Action Tracked Unit := do
  .strike writeFailure fun f t => { t with writeFailure := some f }
  demandOpen
  .modify (put data)

/-- Closes the stream, unless it is closed. -/
def close : Action Tracked Unit := do
  if ← Action.gets closed then pure ()
  else
    .modify fun t => { t with closeCount := t.closeCount + 1, captured := t.content }
    .strike closeFailure fun _ t => { t with closeFailure := none }
    .modify fun t => { t with closed := true }

def streamName : String := "TrackingStream"

def source : Source Tracked where
  name := streamName
  attach := demandOpen
  read := read
  readInto := read
  readAll := readAll
  readLine := readLine
  close := close
  isClosed := closed
  extent t := t.left.length

def sink : Sink Tracked where
  name := streamName
  attach := demandOpen
  write := write
  close := close
  written := do
    demandOpen
    .gets content

end Tracked

end ServiceClient
