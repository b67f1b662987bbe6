/-
**Log events.**

Main definitions:

* `ServiceClient.LogLevel`: the levels at which an event is logged;
* `ServiceClient.LogEvent`: an event, with its fields in the order in which they were given;
* `ServiceClient.LogEvent.named`: the events of one name.
-/

import ServiceClient.Failure

set_option autoImplicit false

namespace ServiceClient

inductive LogLevel
  | debug | info | warning | error | critical
  deriving DecidableEq, Repr, Inhabited

def LogLevel.name : LogLevel → String
  | .debug => "debug"
  | .info => "info"
  | .warning => "warning"
  | .error => "error"
  | .critical => "critical"

def LogLevel.ofName? (name : String) : Option LogLevel :=
  [.debug, .info, .warning, .error, .critical].find? fun l => l.name == name

structure LogEvent where
  level : LogLevel := .debug
  event : String
  fields : List (String × Value) := []
  deriving Repr, Inhabited

namespace LogEvent

/-- The events of one name, in their order. -/
def named (name : String) (events : List LogEvent) : List LogEvent :=
  events.filter fun e => e.event == name

def openFailed (url : String) (f : Fault) : LogEvent :=
  { level := .error, event := "connection_open_failed"
    fields := [("url", .text url), ("error", .text f.logText)] }

/-- The proxy that was to be used, by its host and port. -/
def proxyUsed (host : String) (port : Int) : LogEvent :=
  { level := .info, event := "connection_proxy"
    fields := [("proxy_host", .text host), ("proxy_port", .int port)] }

/-- The proxy that was to be used, by its address. -/
def proxyAddressed (url : String) : LogEvent :=
  { level := .info, event := "connection_proxy", fields := [("proxy_url", .text url)] }

/-- The body of a request could not be written. -/
def writeFailed (url method : String) (f : Fault) : LogEvent :=
  { event := "request_write_failed"
    fields := [("url", .text url), ("method", .text method), ("error", .text f.logText)] }

/-- A response has begun. -/
def requestCompleted (url : String) (status : Int) : LogEvent :=
  { event := "request_completed", fields := [("url", .text url), ("status_code", .int status)] }

def readFailed (url : String) (f : Fault) : LogEvent :=
  { event := "response_read_failed"
    fields := [("url", .text url), ("error", .text f.logText)] }

def callPrepared (url : String) : LogEvent :=
  { event := "endpoint_call_prepared", fields := [("url", .text url)] }

def callerInitialized (timeout : Option Int) (proxy : Option (String × Int)) : LogEvent :=
  { event := "endpoint_caller_initialized"
    fields := ("timeout", timeout.elim .null .int) ::
      match proxy with
      | some (host, port) => [("proxy_host", .text host), ("proxy_port", .int port)]
      | none => [] }

end LogEvent

end ServiceClient
