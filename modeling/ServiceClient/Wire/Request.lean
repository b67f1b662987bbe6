/-
**Requests.**

A request is built from the method, the URL, the headers and the body of a connection.  The text of
a header must be ASCII.  A body without a given length gets one; so does a method that promises a
body and has none.  The headers that every client adds for itself (the host, the user agent, the
accepted encodings) are not part of a request here.

A redirect repeats a request elsewhere.  The statuses that change the method to GET drop the body
and the headers that describe it; credentials do not follow to another origin.

Main definitions:

* `ServiceClient.Wire.Request`, `ServiceClient.Wire.Request.build`;
* `ServiceClient.Wire.Request.redirect`: the request that follows a response.
-/

import ServiceClient.Text.Base64
import ServiceClient.Url
import ServiceClient.Wire.Response

set_option autoImplicit false

namespace ServiceClient.Wire

/-- Headers as they are sent: in order, names possibly repeated. -/
abbrev Headers := List (String × String)

namespace Headers

/-- Whether two header names are the same. -/
def sameName (m n : String) : Bool := m.toLower == n.toLower

/-- Whether there is a header of a name. -/
def has (name : String) (headers : Headers) : Bool :=
  headers.any fun (n, _) => sameName n name

/-- The headers without those of a name. -/
def without (name : String) (headers : Headers) : Headers :=
  headers.filter fun (n, _) => !sameName n name

/-- Sets the only header of a name, in the place of the first one. -/
def assign (name value : String) : Headers → Headers
  | [] => [(name, value)]
  | (n, v) :: rest =>
      if sameName n name then (name, value) :: without name rest
      else (n, v) :: assign name value rest

def isAscii (headers : Headers) : Bool :=
  headers.all fun (n, v) => n.toList.all (·.toNat < 128) && v.toList.all (·.toNat < 128)

end Headers

def schemes : List String := ["http", "https"]

structure Request where
  method : String
  url : Url
  headers : Headers := []
  body : Bytes := []
  deriving Repr, Inhabited

namespace Request

/-- The header that gives the length of a body. -/
def lengthName : String := "Content-Length"

/-- The header that announces a body of unknown length. -/
def encodingName : String := "Transfer-Encoding"

/-- Completes headers by the length of the body. -/
def completeHeaders (method : String) (body : Bytes) (headers : Headers) : Headers :=
  if !body.isEmpty then
    if headers.has lengthName then headers
    else headers ++ [(lengthName, toString body.length)]
  else if ["POST", "PUT", "PATCH"].contains method && !headers.has lengthName &&
      !headers.has encodingName then
    (lengthName, "0") :: headers
  else headers

/-- A URL as a request uses it: one without a host loses its scheme as well. -/
def target (u : Url) : Url :=
  if u.isAbsolute then u
  else { path := "/" ++ String.ofList (u.path.toList.dropWhile (· == '/')), query := u.query }

def build (method url : String) (headers : Headers) (body : Bytes) : Except Failure Request :=
  match Url.parse? url with
  | none => .error (.plain .invalidUrl)
  | some u =>
      if headers.isAscii then
        let method := Text.upper method
        .ok { method, url := target u, headers := completeHeaders method body headers, body }
      else .error (.plain .encoding)

def authorizationName : String := "Authorization"

/-- The credentials of a URL as a header carries them. -/
def basic (u : Url) : String :=
  let (name, password) := u.credentials
  "Basic " ++ String.ofList (Text.Base64.encode (Text.encodeChars (name ++ ':' :: password)))

/-- A request with the credentials that its URL carries. -/
def authorized (r : Request) : Request :=
  if r.url.credentials = ([], []) then r
  else { r with headers := r.headers.assign authorizationName (basic r.url) }

/-! ### Redirects -/

def redirectMethod (r : Request) (status : Int) : String :=
  if (status = 303 ∨ status = 302) ∧ r.method ≠ "HEAD" then "GET"
  else if status = 301 ∧ r.method = "POST" then "GET"
  else r.method

/-- A place, or what keeps it from being one. -/
def valid : Option Url → Except Failure Url
  | some u => .ok u
  | none => .error (.plain .invalidUrl)

/-- A place at the host of a request, if it has a scheme but no host. -/
def atHost (r : Request) (u : Url) : Except Failure Url :=
  if !u.scheme.isEmpty && u.host.isEmpty then valid (u.withHost? r.url.host) else .ok u

/-- A place relative to the URL of a request, if it does not lead somewhere by itself. -/
def atUrl (r : Request) (u : Url) : Except Failure Url :=
  if u.isAbsolute then .ok u else valid (r.url.join? u)

/-- A place with the fragment of a request, if it has none. -/
def withFragment (r : Request) (u : Url) : Url :=
  let said := fun (s : Option String) => (s.getD "") != ""
  if said r.url.fragment && !said u.fragment then { u with fragment := r.url.fragment } else u

def redirectUrl (r : Request) (place : String) : Except Failure Url := do
  let some u := Url.parse? place | throw (.plain .remoteProtocol)
  let u ← r.atHost u
  let u ← r.atUrl u
  pure (r.withFragment u)

def redirectHeaders (r : Request) (url : Url) (method : String) : Headers :=
  let headers :=
    if url.sameOrigin r.url || r.url.isUpgrade url then r.headers
    else r.headers.without authorizationName
  let headers :=
    if method != r.method && method == "GET" then
      (headers.without lengthName).without encodingName
    else headers
  headers.without "Cookie"

/-- The request that follows a response which sends the caller elsewhere. -/
def redirect (r : Request) (response : Response) : Except Failure Request := do
  let method := redirectMethod r response.status
  let url ← redirectUrl r ((response.header? "Location").getD "")
  pure
    { method, url
      headers := redirectHeaders r url method
      body := if method != r.method && method == "GET" then [] else r.body }

end Request

end ServiceClient.Wire
