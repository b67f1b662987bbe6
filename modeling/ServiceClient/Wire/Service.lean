/-
**A scripted service.**

The service answers requests in the order of its script: by a failure, or by a response.  Sending a
request follows redirects, twenty at most; the response of each of them is read to its end first.
A request whose URL has lost its scheme reaches the service as well, but no response to it is kept.

Main definitions:

* `ServiceClient.Wire.Service`: the script, and the requests that reached the service;
* `ServiceClient.Wire.Service.send`: sends a request.
-/

import ServiceClient.Wire.Request

set_option autoImplicit false

namespace ServiceClient.Wire

inductive Reply
  | fails (f : Failure)
  | answers (r : Response)
  deriving Repr, Inhabited

/-- A service: what it will answer, and what reached it. -/
structure Service where
  script : List Reply := []
  /-- The requests that reached the service, those of redirects among them. -/
  reached : List Request := []
  /-- The requests that were meant for the service, each as it was built. -/
  handed : List Request := []
  deriving Repr, Inhabited

namespace Service

def maxRedirects : Nat := 20

/-- Whether a request is handed to the service at all: its URL has a scheme of the protocol, or none,
as it is with a URL that names no host. -/
def takes (request : Request) : Bool :=
  request.url.scheme.isEmpty || schemes.contains request.url.scheme

/-- What a script answers to a request.  A response is first asked for its cookies, which takes a URL
with a scheme. -/
def answer (request : Request) : List Reply → Except Failure Response
  | [] => .error (.plain .index)
  | .fails f :: _ => .error f
  | .answers r :: _ =>
      if request.url.scheme.isEmpty then .error (.plain .value)
      else .ok { r with method := request.method }

def transmit (request : Request) : Action Service Response := do
  if takes request then
    let s ← Action.gets id
    .modify fun s => { s with script := s.script.tail, reached := s.reached ++ [request] }
    match answer request s.script with
    | .error f => .raise f
    | .ok r => pure r
  else .raise (.plain .unsupportedProtocol)

/-- An action on a response that stands beside the service, and the response after it; a failure
closes the response. -/
def leaving (response : Response) (m : Action Reading.State Unit) : Action Service Unit :=
  fun inFlight s =>
    let closing := m.rescue fun f => do
      Response.close.within .first
      .rethrow f
    ((closing inFlight (response, {})).1, s)

/-- Reads the body of a response to its end. -/
def skip (response : Response) : Action Service Unit :=
  leaving response do
    let _ ← Reading.readAll

/-- Hands one request to the service: its response, and the request that is to follow it.  The
response of a redirect is read to its end. -/
def advance (request : Request) : Action Service (Response × Option Request) := do
  let response ← transmit request
  if response.isRedirect then
    match request.redirect response with
    | .error f =>
        leaving response (.raise f)
        .raise f
    | .ok next =>
        skip response
        pure (response, some next)
  else pure (response, none)

/-- Sends a request and follows redirects, as long as `left` of them may still be followed. -/
def follow : Nat → Request → Action Service Response
  | 0, request => do
      match ← advance request with
      | (response, none) => pure response
      | (_, some _) => .raise (.plain .tooManyRedirects)
  | left + 1, request => do
      match ← advance request with
      | (response, none) => pure response
      | (_, some next) => follow left next

def send (request : Request) : Action Service Response := do
  .modify fun s => { s with handed := s.handed ++ [request] }
  follow maxRedirects request.authorized

end Service

end ServiceClient.Wire
