/-
**Media types and methods.**

Main definitions:

* `ServiceClient.MediaType`: the media types that are sent;
* `ServiceClient.Method`: the methods of the calls.

Main results:

* `ServiceClient.MediaType.ofText?_text`: a media type is found again by its text.
-/

set_option autoImplicit false

namespace ServiceClient

/-- The media types that are sent as the type of a body or as the type that is accepted. -/
inductive MediaType
  | xml | atomXml | atomServiceXml | json | text | multipart
  deriving DecidableEq, Repr, Inhabited

namespace MediaType

/-- The media types in their customary order. -/
def all : List MediaType := [.xml, .atomXml, .atomServiceXml, .json, .text, .multipart]

def toText : MediaType → String
  | .xml => "application/xml"
  | .atomXml => "application/atom+xml"
  | .atomServiceXml => "application/atomsvc+xml"
  | .json => "application/json"
  | .text => "text/plain"
  | .multipart => "multipart/mixed"

def ofText? (text : String) : Option MediaType :=
  all.find? fun m => m.toText == text

theorem ofText?_text (m : MediaType) : ofText? m.toText = some m := by
  cases m <;> decide

end MediaType

inductive Method
  | get | post | put | delete
  deriving DecidableEq, Repr, Inhabited

namespace Method

/-- The methods in their customary order. -/
def all : List Method := [.get, .post, .put, .delete]

def name : Method → String
  | .get => "GET"
  | .post => "POST"
  | .put => "PUT"
  | .delete => "DELETE"

def ofName? (name : String) : Option Method :=
  all.find? fun m => m.name == name

end Method

end ServiceClient
