/-
**Buffered reading.**

A buffered source reads a raw source in blocks.  A sized read is answered from the buffer if it can
be; otherwise the buffer is emptied first, whole blocks are read straight from the raw source, and
the last part is read through the buffer.  A failure of the raw source therefore loses what the read
had collected, and later reads start after it.

Main definitions:

* `ServiceClient.Buffer`: the buffer;
* `ServiceClient.Source.gather`: reads on until enough bytes are there;
* `ServiceClient.Source.buffered`: the buffered source over a raw one.
-/

import ServiceClient.Stream

set_option autoImplicit false

namespace ServiceClient

def blockSize : Nat := 8192

structure Buffer where
  bytes : Bytes := []
  /-- The buffer is given up when the source is closed. -/
  released : Bool := false
  deriving Repr, Inhabited

/-- A line and the bytes after it: the line ends with the first line feed, if there is one. -/
def splitLine? (bytes : Bytes) : Option (Bytes × Bytes) :=
  match bytes.findIdx? (· == 10) with
  | some i => some (bytes.take (i + 1), bytes.drop (i + 1))
  | none => none

/-- Splits off the first line feed and what precedes it. -/
theorem splitLine?_append {bytes line rest : Bytes} (h : splitLine? bytes = some (line, rest)) :
    line ++ rest = bytes := by
  unfold splitLine? at h
  split at h
  · obtain ⟨rfl, rfl⟩ := by simpa using h
    simp
  · simp at h

namespace Source

variable {σ : Type}

/-- Reads on until `want` bytes have come or the raw source ends.  A remainder that `direct` maps to
a size is asked for at once; any other one is asked for through the buffer, in which `filled` bytes
stand already.  Each round brings a byte, so `want` rounds are enough. -/
def gather (direct : Nat → Option Nat) (raw : Source σ) : Nat → Nat → Nat → Action σ Bytes
  | 0, _, _ => pure []
  | fuel + 1, want, filled =>
      if want = 0 then pure []
      else
        match direct want with
        | some size => do
            let got ← raw.readInto size
            if got.isEmpty then pure []
            else
              let rest ← gather direct raw fuel (want - got.length) filled
              pure (got ++ rest)
        | none => do
            let got ← raw.readInto (blockSize - filled)
            if got.isEmpty then pure []
            else
              let rest ← gather direct raw fuel (want - got.length) (filled + got.length)
              pure (got ++ rest)

/-- Reads blocks until one holds a line feed or the raw source ends: the line, and the rest of its
last block. -/
def gatherLine (raw : Source σ) : Nat → Action σ (Bytes × Bytes)
  | 0 => pure ([], [])
  | fuel + 1 => do
      let got ← raw.readInto blockSize
      if got.isEmpty then pure ([], [])
      else
        match splitLine? got with
        | some split => pure split
        | none =>
            let (line, rest) ← gatherLine raw fuel
            pure (got ++ line, rest)

/-- Whole blocks of a remainder are read directly. -/
def wholeBlocks (want : Nat) : Option Nat :=
  if want < blockSize then none else some (want / blockSize * blockSize)

/-- A remainder of more than a block is read directly. -/
def beyondBlock (want : Nat) : Option Nat :=
  if want ≤ blockSize then none else some want

/-- Fails if the buffered source is closed. -/
def demandOpen (raw : Source σ) : Action (Buffer × σ) Unit := do
  if ← Action.gets fun (b, s) => b.released || raw.isClosed s then .raise closedStream

def buffered.peek : Action (Buffer × σ) Bytes :=
  .gets fun (b, _) => b.bytes

def buffered.fill (bytes : Bytes) : Action (Buffer × σ) Unit :=
  .modify fun (b, s) => ({ b with bytes }, s)

/-- At most `n` bytes through the buffer. -/
def buffered.take (direct : Nat → Option Nat) (raw : Source σ) (n : Nat) :
    Action (Buffer × σ) Bytes := do
  raw.demandOpen
  let held ← buffered.peek
  if n ≤ held.length then
    buffered.fill (held.drop n)
    pure (held.take n)
  else
    buffered.fill []
    let want := n - held.length
    let got ← (raw.gather direct want want 0).within .second
    buffered.fill (got.drop want)
    pure (held ++ got.take want)

def buffered (name : String) (raw : Source σ) : Source (Buffer × σ) where
  name := name
  attach := pure ()
  read := buffered.take wholeBlocks raw
  readInto := buffered.take beyondBlock raw
  readAll := do
    raw.demandOpen
    let held ← buffered.peek
    buffered.fill []
    let rest ← raw.readAll.within .second
    pure (held ++ rest)
  readLine := do
    raw.demandOpen
    let held ← buffered.peek
    match splitLine? held with
    | some (line, rest) =>
        buffered.fill rest
        pure line
    | none =>
        buffered.fill []
        let left ← Action.gets fun (_, s) => raw.extent s
        let (line, rest) ← (raw.gatherLine (left + 1)).within .second
        buffered.fill rest
        pure (held ++ line)
  close := do
    if ← Action.gets fun (_, s) => raw.isClosed s then pure ()
    else
      (raw.close.within .second).ensure
        (.modify fun (_, s) => ({ bytes := [], released := true }, s))
  isClosed p := raw.isClosed p.2
  extent p := p.1.bytes.length + raw.extent p.2

end Source

end ServiceClient
