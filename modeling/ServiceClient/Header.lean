/-
**Request headers.**

A header map keeps its headers in the order in which their names first came; writing a header that
is there replaces its value in place.  Names are told apart by case.  The headers of a call are the
caller's, with the accepted type, the type of the body and its length written over them.

Main definitions:

* `ServiceClient.HeaderMap`, `ServiceClient.HeaderMap.put`, `ServiceClient.HeaderMap.ofPairs`;
* `ServiceClient.HeaderMap.describe`: the headers of a call.

Main results:

* `ServiceClient.HeaderMap.get?_put_self`: what was put is found.
-/

import ServiceClient.MediaType

set_option autoImplicit false

namespace ServiceClient

/-- Headers with pairwise different names, in order. -/
abbrev HeaderMap := List (String × String)

namespace HeaderMap

/-- The header that names the accepted type. -/
def accept : String := "Accept"

/-- The header that names the type of the body. -/
def contentType : String := "Content-Type"

/-- The header that gives the length of the body. -/
def contentLength : String := "Content-Length"

/-- Writes a header: in its place if it is there, and else at the end. -/
def put (name value : String) : HeaderMap → HeaderMap
  | [] => [(name, value)]
  | (n, v) :: rest => if n = name then (n, value) :: rest else (n, v) :: put name value rest

def get? (name : String) : HeaderMap → Option String
  | [] => none
  | (n, v) :: rest => if n = name then some v else get? name rest

/-- Writes a header if there is a value for it. -/
def putSome (name : String) (value : Option String) (headers : HeaderMap) : HeaderMap :=
  match value with
  | some v => put name v headers
  | none => headers

/-- The map of a list of pairs: the last value for a name counts, in the first place of the name. -/
def ofPairs (pairs : List (String × String)) : HeaderMap :=
  pairs.foldl (fun done (n, v) => put n v done) []

/-- The headers of a call.  A negative length leaves the length out. -/
def describe (given : Option HeaderMap) (bodyLength : Int) (content accepted : Option MediaType) :
    HeaderMap :=
  let length := if bodyLength > -1 then some (toString bodyLength) else none
  (given.getD [])
    |> putSome accept (accepted.map MediaType.toText)
    |> putSome contentType (content.map MediaType.toText)
    |> putSome contentLength length

@[simp] theorem get?_nil (name : String) : get? name [] = none := rfl

@[simp] theorem get?_put_self (name value : String) (headers : HeaderMap) :
    get? name (put name value headers) = some value := by
  induction headers with
  | nil => simp [put, get?]
  | cons h rest ih =>
      obtain ⟨n, v⟩ := h
      by_cases hn : n = name
      · simp [put, get?, hn]
      · simp [put, get?, hn, ih]

end HeaderMap

end ServiceClient
