/-
**Opening connections over the wire.**

A dialer knows how long to wait and which proxy to go through.  It opens channels: the URL must be
one, its scheme one of the two of the protocol, the address of the proxy a URL as well.  What fails
here is reported, together with the proxy that was to be used.

Main definitions:

* `ServiceClient.Wire.Dialer`, `ServiceClient.Wire.Dialer.options`: a dialer, and what it asks for;
* `ServiceClient.Wire.Network`, `ServiceClient.Wire.Dialer.opener`: the channels that were opened,
  and the opener that adds to them.
-/

import ServiceClient.Wire.Channel

set_option autoImplicit false

namespace ServiceClient.Wire

/-- The port of a proxy for which none is given. -/
def defaultProxyPort : Int := 8888

/-- How connections are opened. -/
structure Dialer where
  /-- The time to wait for a connection and for each read, in milliseconds. -/
  timeout : Option Int := none
  proxyHost : Option String := none
  proxyPort : Int := defaultProxyPort
  /-- Lets what is to serve a channel fail. -/
  failure : Option Failure := none
  deriving Repr, Inhabited

structure DialOptions where
  /-- The time to wait for a connection and for each read, in seconds. -/
  timeout : Option Binary64 := none
  proxy : Option Url := none
  deriving Repr, Inhabited

namespace Dialer

def proxyUrl (d : Dialer) : Option String :=
  d.proxyHost.map fun host => "http://" ++ host ++ ":" ++ toString d.proxyPort

/-- Milliseconds in seconds; a number of them may be too large. -/
def seconds (milliseconds : Int) : Except Failure Binary64 :=
  match Binary64.ofRatio (milliseconds < 0) milliseconds.natAbs 1000 with
  | .infinity _ => .error (.plain .overflow)
  | x => .ok x

def proxyAt (address : String) : Except Failure Url :=
  match Url.parse? address with
  | some u => .ok u
  | none => .error (.plain .invalidUrl)

def options (d : Dialer) : Except Failure DialOptions := do
  let timeout ← d.timeout.mapM seconds
  let proxy ← d.proxyUrl.mapM proxyAt
  pure { timeout, proxy }

/-- Checks a URL and builds what is to serve a channel to it. -/
def prepare (d : Dialer) (url : String) : Except Failure Unit := do
  let some target := Url.parse? url | throw (.plain .invalidUrl)
  unless schemes.contains target.scheme do
    throw (.worded .unsupportedProtocol
      ("Unsupported protocol '" ++ target.scheme ++ "' in URL: " ++ url))
  let _ ← d.options
  if let some f := d.failure then throw f

/-- The failures of opening that are reported as such. -/
def isOpenFailure (f : Failure) : Bool :=
  f.isA .invalidUrl || f.isA .transport || f.isA .io || f.isA .value

def report (d : Dialer) (url : String) (f : Failure) : List LogEvent :=
  .openFailed url f.fault ::
    match d.proxyHost with
    | some host => [.proxyUsed host d.proxyPort]
    | none => []

end Dialer

/-! ### Opening -/

/-- The channels that were opened, the service, and the log. -/
structure Network where
  channels : List Channel := []
  service : Service := {}
  log : List LogEvent := []
  deriving Repr, Inhabited

namespace Network

/-- One of the channels, with the service and the log. -/
def session (index : Nat) : Part Network Session where
  get n := { channel := n.channels.getD index default, service := n.service, log := n.log }
  set s n :=
    { n with channels := n.channels.set index s.channel, service := s.service, log := s.log }

/-- The number of channels that are still served. -/
def serving (n : Network) : Nat :=
  (n.channels.filter Channel.serving).length

def note (event : LogEvent) (n : Network) : Network :=
  { n with log := n.log ++ [event] }

end Network

namespace Dialer

/-- Opens a channel and sets its headers. -/
def connect (d : Dialer) (url : String) (headers : List (String × String)) :
    Action Network (Connection Network) := do
  match d.prepare url with
  | .ok _ =>
      let index ← Action.gets fun n => n.channels.length
      .modify fun n =>
        { n with channels := n.channels ++ [{ url, proxyUrl := d.proxyUrl, headers }] }
      pure ((Session.connection url).within (Network.session index))
  | .error f =>
      Action.rescue (.raise f) fun f =>
        if isOpenFailure f then do
          .modify fun n => { n with log := n.log ++ d.report url f }
          .raiseFrom .unopened f
        else .rethrow f

def opener (d : Dialer) : Opener Network where
  connect := d.connect
  log := Network.note

end Dialer

end ServiceClient.Wire
