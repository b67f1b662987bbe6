/-
**Setting up a caller.**

A caller gets its properties as they are, from single fields, from flat properties, or from a
configuration.  Setting it up is logged.  A caller that is set up from a configuration may be given
a logging service, which it configures and asks for its logger before it reads its properties.

Main definitions:

* `ServiceClient.Setup`, `ServiceClient.Setup.properties`: where the properties come from;
* `ServiceClient.LoggingCall`, `ServiceClient.Setup.loggingCalls`: what is asked of a logging
  service;
* `ServiceClient.Properties.announce`: the event of a caller that was set up;
* `ServiceClient.Properties.dialer`: the dialer of a caller that is given none.
-/

import ServiceClient.Config
import ServiceClient.Connection
import ServiceClient.Wire.Dialer

set_option autoImplicit false

namespace ServiceClient

/-- Where the properties of a caller come from. -/
inductive Setup
  | usual
  | fields (entries : Value.Entries)
  | flat (properties : Value)
  | config (c : Config)
  deriving Inhabited

/-- What is asked of a logging service. -/
inductive LoggingCall
  | configure
  | getLogger (name : String) (context : List (String × String))
  deriving DecidableEq, Repr, Inhabited

namespace Setup

def properties (env : Environment) : Setup → Except Rejection Properties
  | .usual => .ok {}
  | .fields entries => (Properties.check entries).mapError .invalid
  | .flat v => Properties.ofFlat v
  | .config c => c.bind env

def loggerName : String := "odata_client.caller.basic"

/-- What a caller asks of its logging service; only a caller from a configuration takes one. -/
def loggingCalls : Setup → List LoggingCall
  | .config _ => [.configure, .getLogger loggerName [("component", "endpoint_caller")]]
  | _ => []

end Setup

namespace Properties

/-- The event of a caller that was set up. -/
def announcement (p : Properties) : LogEvent :=
  .callerInitialized (p.timeout.map Int.ofNat)
    (p.proxyHost.map fun host => (host, (p.proxyPort.number : Int)))

/-- Logs that a caller was set up. -/
def announce {σ : Type} (p : Properties) (o : Opener σ) : σ → σ :=
  o.log p.announcement

def dialer (p : Properties) : Wire.Dialer where
  timeout := p.timeout.map Int.ofNat
  proxyHost := p.proxyHost
  proxyPort := p.proxyPort.number

end Properties

end ServiceClient
