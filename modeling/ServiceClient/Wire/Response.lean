/-
**Responses that arrive in pieces.**

The body of a response arrives as chunks, empty ones among them, and may break off with a failure.
Only one reader can consume it.  A response closes itself when its body has been read to the end,
and it closes once; closing may fail.

Main definitions:

* `ServiceClient.Wire.Response`: a response, with what is left of its body;
* `ServiceClient.Wire.Reading`: one reader of a response;
* `ServiceClient.Wire.Reading.source`: the raw stream that it reads.

Main results:

* `ServiceClient.Wire.Reading.nextChunk_ok_nonempty`: a chunk that is delivered is not empty.
-/

import ServiceClient.Stream

set_option autoImplicit false

namespace ServiceClient.Wire

/-- A response and what is left of its body. -/
structure Response where
  status : Int := 200
  headers : List (String × String) := []
  chunks : List Bytes := []
  /-- Breaks the body off after its last chunk. -/
  readFailure : Option Failure := none
  /-- Lets closing fail. -/
  closeFailure : Option Failure := none
  /-- The method of the request that it answers. -/
  method : String := "GET"
  consumed : Bool := false
  closed : Bool := false
  deriving Repr, Inhabited

namespace Response

/-- The values of a header, joined; names are told apart without regard to case. -/
def header? (name : String) (r : Response) : Option String :=
  match r.headers.filter fun (n, _) => n.toLower == name.toLower with
  | [] => none
  | found => some (", ".intercalate (found.map (·.2)))

/-- A status of an error, of the caller or of the service. -/
def isError (r : Response) : Bool :=
  400 ≤ r.status && r.status ≤ 599

/-- A status that sends the caller elsewhere, with the place to go to. -/
def isRedirect (r : Response) : Bool :=
  [301, 302, 303, 307, 308].contains r.status && (r.header? "Location").isSome

/-- Whether a response carries a body at all. -/
def hasBody (r : Response) : Bool :=
  !(r.method == "HEAD") && !(r.status < 200) && !(r.status == 204) && !(r.status == 304)

/-- Closes a response, unless it is closed. -/
def close : Action Response Unit := do
  if ← Action.gets closed then pure ()
  else
    .modify fun r => { r with closed := true }
    .strike closeFailure fun f r => { r with closeFailure := some f }

end Response

/-! ### One reader of a response -/

/-- How far a reader has come. -/
inductive Phase
  | fresh | running | over
  deriving DecidableEq, Repr, Inhabited

structure Reading where
  phase : Phase := .fresh
  /-- What is left of the chunk that was fetched last. -/
  pending : Bytes := []
  closed : Bool := false
  deriving Repr, Inhabited

namespace Reading

/-- A reader and the response that it reads. -/
abbrev State := Response × Reading

def enter (phase : Phase) : Action State Unit :=
  .modify fun (r, k) => (r, { k with phase })

/-- Begins to read: a response can be consumed once, and not after it was closed. -/
def begin : Action State Unit := do
  let (r, k) ← Action.gets id
  if k.phase = .fresh then
    if r.consumed then
      enter .over
      .raise (.plain .streamConsumed)
    else if r.closed then
      enter .over
      .raise (.plain .streamClosed)
    else
      .modify fun (r, k) => ({ r with consumed := true }, { k with phase := .running })

/-- Takes the next chunk that is not empty off a list. -/
def splitChunk : List Bytes → Option (Bytes × List Bytes)
  | [] => none
  | c :: rest => if c.isEmpty then splitChunk rest else some (c, rest)

/-- Fetches the next chunk that is not empty; nothing at the end of the body, which closes the
response. -/
def nextChunk : Action State Bytes := do
  begin
  let (r, k) ← Action.gets id
  if k.phase = .over then pure []
  else
    match splitChunk r.chunks with
    | some (c, rest) =>
        .modify fun (r, k) => ({ r with chunks := rest }, k)
        pure c
    | none =>
        .modify fun (r, k) => ({ r with chunks := [] }, { k with phase := .over })
        match r.readFailure with
        | some f => .raise f
        | none =>
            Response.close.within .first
            pure []

/-- At most `n` bytes: what is left of the last chunk, or the beginning of the next one. -/
def read (n : Nat) : Action State Bytes := do
  let (_, k) ← Action.gets id
  let chunk ← if k.pending.isEmpty then nextChunk else pure k.pending
  .modify fun (r, k) => (r, { k with pending := chunk.drop n })
  pure (chunk.take n)

def readAll : Action State Bytes := do
  let (r, k) ← Action.gets id
  .modify fun (r, k) => (r, { k with pending := [] })
  let rest ← go (r.chunks.length + 1)
  pure (k.pending ++ rest)
where
  /-- Fetches chunks until there is none; each round takes one of them away. -/
  go : Nat → Action State Bytes
    | 0 => pure []
    | fuel + 1 => do
        let chunk ← nextChunk
        if chunk.isEmpty then pure []
        else
          let rest ← go fuel
          pure (chunk ++ rest)

/-- Closes the reader, and with it the response. -/
def close : Action State Unit := do
  if ← Action.gets fun (_, k) => k.closed then pure ()
  else
    (Response.close.within .first).ensure (.modify fun (r, k) => (r, { k with closed := true }))

/-- The bytes that may still come. -/
def extent : State → Nat
  | (r, k) => k.pending.length + r.chunks.flatten.length

/-- The raw stream of a response.  It is always read through a buffer, which finds the lines. -/
def source : Source State where
  name := "ResponseBody"
  attach := pure ()
  read := read
  readInto := read
  readAll := readAll
  readLine := readAll
  close := close
  isClosed p := p.2.closed
  extent := extent

/-- A chunk that is delivered is not empty. -/
theorem nextChunk_ok_nonempty {chunks rest : List Bytes} {c : Bytes}
    (h : splitChunk chunks = some (c, rest)) : c ≠ [] := by
  induction chunks with
  | nil => simp [splitChunk] at h
  | cons d ds ih =>
      by_cases hd : d.isEmpty = true
      · rw [splitChunk, if_pos hd] at h
        exact ih h
      · rw [splitChunk, if_neg hd] at h
        obtain ⟨rfl, rfl⟩ := by simpa using h
        simpa using hd

end Reading

end ServiceClient.Wire
