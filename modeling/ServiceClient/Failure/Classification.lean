/-
**The kind of a failure.**

An error status is a timeout (408), a refusal (401), any other status of the service (a positive
code), or nothing in particular.  A failure below the protocol is a proxy's, a socket's, or nothing
in particular.

Main definitions:

* `ServiceClient.ClientError.ofStatus`: the error of a response;
* `ServiceClient.ClientError.ofTransport`: the error of a failure below the protocol;
* `ServiceClient.ClientError.unopened`, `ServiceClient.ClientError.undisconnected`, …: the other
  errors of the client, with their wording.
-/

import ServiceClient.Failure

set_option autoImplicit false

namespace ServiceClient

namespace ClientError

/-! ### Wording -/

def connectionOpenMessage : String := "Could not open connection to the service endpoint."

def socketMessage : String := "Could not initiate connection to the endpoint."

/-- The message of any other error below the protocol. -/
def processingMessage : String := "Unable to process response from OData service."

/-- What stands before the text of an error response. -/
def statusPreamble : String := "Unable to get response from OData service: "

/-! ### Classification -/

/-- The status that refuses the caller. -/
def unauthorizedStatus : Int := 401

/-- The status of a request that took too long. -/
def timeoutStatus : Int := 408

def statusKind (status : Int) : ErrorKind :=
  if status = timeoutStatus then .timeout
  else if status = unauthorizedStatus then .unauthorized
  else if status > 0 then .httpStatus
  else .generic

def ofStatus (status : Int) (message : String) : ClientError :=
  { message, kind := statusKind status, statusCode := some status }

/-- The error of a failure below the protocol; an error of the client stays what it is. -/
def ofTransport : Fault → ClientError
  | .client e => e
  | f =>
      if f.isA .proxy then { message := connectionOpenMessage, kind := .connectionOpen }
      else if f.isA .network || f.isA .connection then { message := socketMessage, kind := .socket }
      else { message := processingMessage, kind := .generic }

/-! ### The other errors -/

def unopened : ClientError :=
  { message := connectionOpenMessage, kind := .connectionOpen }

/-- The proxy on the way to a service could not be reached. -/
def unreachedProxy (url proxyUrl : String) : ClientError :=
  { unopened with context := [("url", .text url), ("proxy_url", .text proxyUrl)] }

/-- A stream, a reader or a writer could not be closed. -/
def unclosed (name : String) : ClientError :=
  { message := "Could not close '" ++ name ++ "'.", kind := .resourceRelease }

def undisconnected (url : String) : ClientError :=
  { message := "Could not disconnect from '" ++ url ++ "'.", kind := .resourceRelease }

/-- A request body could not be written. -/
def unwritten (method url : String) : ClientError :=
  { message := "Could not perform " ++ method ++ " request."
    kind := .generic
    context := [("method", .text method), ("url", .text url)] }

/-- The stream of a response could not be obtained. -/
def unobtained (url : String) : ClientError :=
  { message := "Unable to get connection input stream for url: " ++ url
    kind := .generic
    context := [("url", .text url)] }

end ClientError

end ServiceClient
