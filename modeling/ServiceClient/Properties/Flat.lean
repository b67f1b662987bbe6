/-
**Flat properties.**

Flat properties are one mapping from names to values of any kind.  The text of a value counts,
without the blanks at its ends; a property that is absent, null or blank falls back to a default.

Main definitions:

* `ServiceClient.FlatProperties.text?`, `ServiceClient.FlatProperties.integer?`: one property;
* `ServiceClient.Properties.ofFlat`: the properties of a client;
* `ServiceClient.Rejection`: why there are none.

Main results:

* `ServiceClient.FlatProperties.text?_absent`: an absent property has no text.
-/

import ServiceClient.Failure
import ServiceClient.Properties
import ServiceClient.Value.Text

set_option autoImplicit false

namespace ServiceClient

/-- Why there are no properties. -/
inductive Rejection
  /-- A value could not be read. -/
  | unreadable (f : Failure)
  /-- Fields do not fit. -/
  | invalid (issues : List FieldIssue)
  /-- The section of a configuration does not fit. -/
  | unbound (wording : String) (issues : List FieldIssue)
  deriving Repr, Inhabited

namespace FlatProperties

def timeoutName : String := "ConnectionTimeout"

def proxyHostName : String := "ServiceProxyHostName"

def proxyPortName : String := "ServiceProxyPort"

/-- The entries of a value that is looked into; only a mapping has them. -/
def entries : Value → Except Failure Value.Entries
  | .mapping es => .ok es
  | _ => .error (.plain .attribute)

/-- The text of a value, without the blanks at its ends.  A value may have no text. -/
def trimmed (v : Value) : Except Failure String :=
  match v.text? with
  | some s => .ok (Text.trim Text.isBlank s)
  | none => .error (.plain .value)

/-- The text of a property, if it has one that is not blank. -/
def text? (properties : Value.Entries) (name : String) : Except Failure (Option String) :=
  match Value.find? (.text name) properties with
  | none | some .null => .ok none
  | some v => do
      let s ← trimmed v
      pure (if s.isEmpty then none else some s)

def notInteger (name text : String) : String :=
  "Property '" ++ name ++ "' must be an integer, got '" ++ text ++ "'"

/-- The integer of a property, if it has a text that is not blank. -/
def integer? (properties : Value.Entries) (name : String) : Except Failure (Option Int) := do
  match ← text? properties name with
  | none => pure none
  | some s =>
      match Text.freeInteger? s.toList with
      | some n => pure (some n)
      | none => throw (.worded .value (notInteger name s))

theorem text?_absent {properties : Value.Entries} {name : String}
    (h : Value.find? (.text name) properties = none) : text? properties name = .ok none := by
  simp [text?, h]

end FlatProperties

namespace Properties

def flatEntries (properties : Value.Entries) : Except Failure Value.Entries := do
  let usual : Properties := {}
  let timeout ← FlatProperties.integer? properties FlatProperties.timeoutName
  let host ← FlatProperties.text? properties FlatProperties.proxyHostName
  let port ← FlatProperties.integer? properties FlatProperties.proxyPortName
  let timeout := timeout <|> usual.timeout.map Int.ofNat
  pure
    [ (.text timeoutField, timeout.elim .null .int)
    , (.text proxyHostField, host.elim .null .text)
    , (.text proxyPortField, .int (port.getD usual.proxyPort.number)) ]

/-- The properties of a client from flat ones; what is empty gives none. -/
def ofFlat (v : Value) : Except Rejection Properties := do
  let properties ← if v.isEmpty then pure [] else (FlatProperties.entries v).mapError .unreadable
  let entries ← (flatEntries properties).mapError .unreadable
  (check entries).mapError .invalid

end Properties

end ServiceClient
