/-
**Failures and what stands behind them.**

A failure is what went wrong, its *fault*, and the line of faults behind it.  The first fault of the
line is either the explicit *cause* of the failure or the fault that was *in flight* when it was
raised, and so on; so a failure to release a resource leads to the fault that it hides.

Faults of the client itself are tagged with an `ErrorKind`.  All others belong to a class of a
fixed hierarchy and carry a wording only where the wording is ours or was given to us.

Main definitions:

* `ServiceClient.FailureClass`, `ServiceClient.FailureClass.isA`: the hierarchy;
* `ServiceClient.ErrorKind`, `ServiceClient.ClientError`: the faults of the client;
* `ServiceClient.Fault`, `ServiceClient.Failure`: faults, and failures with their line;
* `ServiceClient.Failure.of`, `ServiceClient.Failure.raisedDuring`: how a line grows;
* `ServiceClient.Failure.reported`: the part of the line that is reported.
-/

import ServiceClient.Text.Character
import ServiceClient.Value

set_option autoImplicit false

namespace ServiceClient

/-! ### The hierarchy of classes -/

inductive FailureClass
  -- failures of an exchange
  | http | httpStatus | request | contentDecoding | tooManyRedirects
  | transport | timeout | connectTimeout | readTimeout | writeTimeout | poolTimeout
  | network | connect | read | write | close
  | protocol | localProtocol | remoteProtocol
  | proxy | unsupportedProtocol
  -- misuse of a client or of a response
  | invalidUrl | stream | streamConsumed | streamClosed
  -- failures of the system
  | io | connection | connectionReset | connectionRefused | connectionAborted | brokenPipe
  | timedOut | fileNotFound | permission | addressLookup
  -- failures of a computation
  | value | unicode | encoding | decoding | runtime | index | key | attribute | type | overflow
  -- failures to read a configuration
  | yaml | toml
  deriving DecidableEq, Repr, Inhabited

namespace FailureClass

/-- The class directly above. -/
def parent? : FailureClass → Option FailureClass
  | .httpStatus | .request => some .http
  | .contentDecoding | .tooManyRedirects | .transport => some .request
  | .timeout | .network | .protocol | .proxy | .unsupportedProtocol => some .transport
  | .connectTimeout | .readTimeout | .writeTimeout | .poolTimeout => some .timeout
  | .connect | .read | .write | .close => some .network
  | .localProtocol | .remoteProtocol => some .protocol
  | .stream => some .runtime
  | .streamConsumed | .streamClosed => some .stream
  | .connection | .timedOut | .fileNotFound | .permission | .addressLookup => some .io
  | .connectionReset | .connectionRefused | .connectionAborted | .brokenPipe => some .connection
  | .unicode | .toml => some .value
  | .encoding | .decoding => some .unicode
  | _ => none

/-- The class and the classes above it, at most `steps` of them. -/
def upward : Nat → FailureClass → List FailureClass
  | 0, c => [c]
  | steps + 1, c => c :: match c.parent? with
      | some p => upward steps p
      | none => []

/-- Whether a class is another one or lies below it.  The hierarchy has five levels. -/
def isA (c d : FailureClass) : Bool :=
  (upward 4 c).contains d

end FailureClass

/-! ### Faults -/

/-- The origin of a failure of the client. -/
inductive ErrorKind
  | connectionOpen | socket | timeout | unauthorized | httpStatus | generic | resourceRelease
  deriving DecidableEq, Repr, Inhabited

namespace ErrorKind

/-- The kinds in their customary order. -/
def all : List ErrorKind :=
  [.connectionOpen, .socket, .timeout, .unauthorized, .httpStatus, .generic, .resourceRelease]

def code : ErrorKind → String
  | .connectionOpen => "CONNECTION_OPEN"
  | .socket => "SOCKET"
  | .timeout => "TIMEOUT"
  | .unauthorized => "UNAUTHORIZED"
  | .httpStatus => "HTTP_STATUS"
  | .generic => "GENERIC"
  | .resourceRelease => "RESOURCE_RELEASE"

def ofCode? (code : String) : Option ErrorKind :=
  all.find? fun k => k.code == code

end ErrorKind

structure ClientError where
  message : String
  kind : ErrorKind := .generic
  statusCode : Option Int := none
  context : List (String × Value) := []
  deriving Repr, Inhabited

/-- The fault in one line: its kind, its status and its message in quotes. -/
def ClientError.summary (e : ClientError) : String :=
  let status := match e.statusCode with
    | some n => toString n
    | none => "None"
  "ODataClientException(kind=" ++ e.kind.code ++ ", status_code=" ++ status ++ ", message=" ++
    Text.quoted e.message ++ ")"

inductive Fault
  /-- A fault of the client. -/
  | client (error : ClientError)
  /-- A fault of a class; `wording` is present where it is ours or was given to us. -/
  | system (cls : FailureClass) (wording : Option String)
  deriving Repr, Inhabited

namespace Fault

def isA (cls : FailureClass) : Fault → Bool
  | .client _ => false
  | .system c _ => c.isA cls

def isClient : Fault → Bool
  | .client _ => true
  | .system .. => false

/-- The text of a fault, where its wording is known. -/
def text? : Fault → Option String
  | .client e => some e.message
  | .system _ wording => wording

/-- The text of a fault in the log; a star stands for a wording that is not ours. -/
def logText (f : Fault) : String :=
  f.text?.getD "*"

@[simp] theorem isA_client (cls : FailureClass) (e : ClientError) :
    (Fault.client e).isA cls = false := rfl

@[simp] theorem isA_system (cls c : FailureClass) (wording : Option String) :
    (Fault.system c wording).isA cls = c.isA cls := rfl

end Fault

/-! ### Failures -/

/-- How a fault stands behind another one. -/
inductive Link
  /-- It was named as the cause. -/
  | cause
  /-- It was in flight when the other one was raised. -/
  | inFlight
  deriving DecidableEq, Repr, Inhabited

/-- A fault with the line of faults behind it. -/
structure Failure where
  fault : Fault
  behind : List (Link × Fault) := []
  deriving Repr, Inhabited

namespace Failure

/-- A failure of a class with a wording of ours. -/
def worded (cls : FailureClass) (text : String) : Failure :=
  { fault := .system cls (some text) }

/-- A failure of a class without a wording of ours. -/
def plain (cls : FailureClass) : Failure :=
  { fault := .system cls none }

def client (e : ClientError) : Failure :=
  { fault := .client e }

def of (e : ClientError) (cause : Failure) : Failure :=
  { fault := .client e, behind := (.cause, cause.fault) :: cause.behind }

/-- The failure as it is raised while another one may be in flight.  With none in flight it keeps
the line that it had. -/
def raisedDuring (inFlight : Option Failure) (f : Failure) : Failure :=
  match inFlight with
  | none => f
  | some g => { f with behind := (.inFlight, g.fault) :: g.behind }

def cause? (f : Failure) : Option Fault :=
  match f.behind with
  | (.cause, g) :: _ => some g
  | _ => none

/-- All faults of a failure, its own first. -/
def faults (f : Failure) : List Fault :=
  f.fault :: f.behind.map (·.2)

/-- The faults of a list up to the first one without a wording of ours, that one included. -/
def upToUnworded : List Fault → List Fault
  | [] => []
  | f :: rest => f :: if f.text?.isSome then upToUnworded rest else []

/-- The faults behind a failure that are reported. -/
def reported (f : Failure) : List Fault :=
  upToUnworded (f.behind.map (·.2))

def isA (cls : FailureClass) (f : Failure) : Bool :=
  f.fault.isA cls

/-- The failures that an exchange with a service is expected to have: those of the system's
input and output, and those of the protocol. -/
def isExchangeFailure (f : Failure) : Bool :=
  f.isA .http || f.isA .io

@[simp] theorem raisedDuring_none (f : Failure) : f.raisedDuring none = f := rfl

@[simp] theorem fault_raisedDuring (g : Option Failure) (f : Failure) :
    (f.raisedDuring g).fault = f.fault := by
  cases g <;> rfl

theorem isExchangeFailure_congr {f f' : Failure} (h : f.fault = f'.fault) :
    f.isExchangeFailure = f'.isExchangeFailure := by
  simp only [isExchangeFailure, isA, h]

@[simp] theorem isExchangeFailure_raisedDuring (g : Option Failure) (f : Failure) :
    (f.raisedDuring g).isExchangeFailure = f.isExchangeFailure := by
  cases g <;> rfl

@[simp] theorem faults_raisedDuring_some (f g : Failure) :
    (f.raisedDuring (some g)).faults = f.fault :: g.faults := rfl

@[simp] theorem faults_of (e : ClientError) (cause : Failure) :
    (of e cause).faults = .client e :: cause.faults := rfl

end Failure

end ServiceClient
