/-
**Properties of a client.**

A client has a time to wait and, possibly, a proxy.  The properties are checked field by field;
every field that does not fit is reported, in the order of the fields.  A number may be given as an
integer, a truth value, a floating-point number without a fraction, or a text; and a text may be
given by its bytes.

Main definitions:

* `ServiceClient.Properties`, `ServiceClient.Port`: the properties;
* `ServiceClient.Issue`, `ServiceClient.FieldIssue`: why a field does not fit;
* `ServiceClient.Properties.check`: the properties that entries give;
* `ServiceClient.Properties.assign`: properties never change.
-/

import ServiceClient.Text.Encoding
import ServiceClient.Text.Integer
import ServiceClient.Value

set_option autoImplicit false

namespace ServiceClient

/-! ### Properties -/

structure Port where
  number : Nat
  positive : 0 < number := by decide
  bounded : number ≤ 65535 := by decide
  deriving DecidableEq, Repr

/-- The port of a proxy for which none is given. -/
def Port.proxyDefault : Port := { number := 8888 }

instance : Inhabited Port := ⟨.proxyDefault⟩

structure Properties where
  /-- The time to wait, in milliseconds; without one, the one that is usual for the transport. -/
  timeout : Option Nat := some 45000
  proxyHost : Option String := none
  proxyPort : Port := .proxyDefault
  deriving DecidableEq, Repr, Inhabited

/-! ### Issues -/

/-- Why a value does not fit a field. -/
inductive Issue
  | unreadableInteger
  | notInteger
  | fraction
  | notFinite
  | tooManyDigits
  | below (least : Nat)
  | above (greatest : Nat)
  | notText
  | undecodable
  | frozen
  deriving DecidableEq, Repr, Inhabited

namespace Issue

def code : Issue → String
  | .unreadableInteger => "int_parsing"
  | .notInteger => "int_type"
  | .fraction => "int_from_float"
  | .notFinite => "finite_number"
  | .tooManyDigits => "int_parsing_size"
  | .below _ => "greater_than_equal"
  | .above _ => "less_than_equal"
  | .notText => "string_type"
  | .undecodable => "string_unicode"
  | .frozen => "frozen_instance"

def message : Issue → String
  | .unreadableInteger =>
      "Input should be a valid integer, unable to parse string as an integer"
  | .notInteger => "Input should be a valid integer"
  | .fraction => "Input should be a valid integer, got a number with a fractional part"
  | .notFinite => "Input should be a finite number"
  | .tooManyDigits => "Unable to parse input string as an integer, exceeded maximum size"
  | .below least => "Input should be greater than or equal to " ++ toString least
  | .above greatest => "Input should be less than or equal to " ++ toString greatest
  | .notText => "Input should be a valid string"
  | .undecodable =>
      "Input should be a valid string, unable to parse raw data as a unicode string"
  | .frozen => "Instance is frozen"

end Issue

/-- A field and why its value does not fit. -/
structure FieldIssue where
  field : String
  issue : Issue
  deriving DecidableEq, Repr, Inhabited

namespace Properties

/-! ### Fields -/

def timeoutField : String := "timeout"

def proxyHostField : String := "proxy_host"

def proxyPortField : String := "proxy_port"

def fields : List String := [timeoutField, proxyHostField, proxyPortField]

/-- A floating-point number stands for an integer below this magnitude only. -/
def floatLimit : Nat := Nat.pow 2 63

/-- The integer that a text writes. -/
def checkDigits (s : String) : Except Issue Int :=
  match Text.strictInteger s.toList with
  | .integer n => .ok n
  | .tooLong => .error .tooManyDigits
  | .malformed => .error .unreadableInteger

def checkInteger : Value → Except Issue Int
  | .int n => .ok n
  | .bool b => .ok (if b then 1 else 0)
  | .float x =>
      if x.isFinite then
        match x.toInt? with
        | none => .error .fraction
        | some n => if n.natAbs < floatLimit then .ok n else .error .tooManyDigits
      else .error .notFinite
  | .text s => checkDigits s
  | .bytes bs => (Text.decode? bs).elim (.error .unreadableInteger) checkDigits
  | _ => .error .notInteger

/-- A time to wait: null, or an integer that is not negative. -/
def checkTimeout : Value → Except Issue (Option Nat)
  | .null => .ok none
  | v => do
      match ← checkInteger v with
      | .ofNat n => pure (some n)
      | .negSucc _ => throw (.below 0)

/-- The host of a proxy: null, or a text; a blank text is no host, but blank bytes are one. -/
def checkProxyHost : Value → Except Issue (Option String)
  | .null => .ok none
  | .text s => .ok (if Text.allBlank s then none else some s)
  | .bytes bs => (Text.decode? bs).elim (.error .undecodable) fun s => .ok (some s)
  | _ => .error .notText

def leastPort : Nat := 1

def greatestPort : Nat := 65535

def checkPort (n : Int) : Except Issue Port :=
  if low : n < leastPort then .error (.below leastPort)
  else if high : n > greatestPort then .error (.above greatestPort)
  else
    .ok
      { number := n.toNat
        positive := by simp only [leastPort, Int.not_lt] at low; omega
        bounded := by simp only [greatestPort, gt_iff_lt, Int.not_lt] at high; omega }

/-- Whether a value leaves a port open: null, or a blank text. -/
def isMissing : Value → Bool
  | .null => true
  | .text s => Text.allBlank s
  | _ => false

/-- The port of a proxy; a missing one is the usual one. -/
def checkProxyPort (v : Value) : Except Issue Port :=
  if isMissing v then .ok .proxyDefault
  else do checkPort (← checkInteger v)

/-! ### Checking -/

/-- One field of entries: `absent` stands for an entry that is not there. -/
def checkField {α : Type} (entries : Value.Entries) (field : String) (absent : α)
    (check : Value → Except Issue α) : Except FieldIssue α :=
  match Value.find? (.text field) entries with
  | none => .ok absent
  | some v => (check v).mapError fun issue => { field, issue }

/-- The issue of a field, if there is one. -/
def issueOf {α : Type} : Except FieldIssue α → List FieldIssue
  | .ok _ => []
  | .error e => [e]

/-- The properties that entries give; entries for other fields are left aside. -/
def check (entries : Value.Entries) : Except (List FieldIssue) Properties :=
  let usual : Properties := {}
  let timeout := checkField entries timeoutField usual.timeout checkTimeout
  let proxyHost := checkField entries proxyHostField usual.proxyHost checkProxyHost
  let proxyPort := checkField entries proxyPortField usual.proxyPort checkProxyPort
  match timeout, proxyHost, proxyPort with
  | .ok timeout, .ok proxyHost, .ok proxyPort => .ok { timeout, proxyHost, proxyPort }
  | timeout, proxyHost, proxyPort =>
      .error (issueOf timeout ++ issueOf proxyHost ++ issueOf proxyPort)

/-- Sets a field.  Only names that begin with an underscore, which are no fields, can be set. -/
def assign (field : String) (p : Properties) : Except (List FieldIssue) Properties :=
  if field.toList.head? = some '_' then .ok p
  else .error [{ field, issue := .frozen }]

theorem checkPort_number (p : Port) : checkPort p.number = .ok p := by
  have low : ¬ ((p.number : Int) < (leastPort : Nat)) := by
    have := p.positive
    simp only [leastPort]
    omega
  have high : ¬ ((p.number : Int) > (greatestPort : Nat)) := by
    have := p.bounded
    simp only [greatestPort]
    omega
  simp [checkPort, low, high]

end Properties

end ServiceClient
