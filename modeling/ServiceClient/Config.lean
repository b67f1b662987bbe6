/-
**Configurations.**

A configuration is a tree of mappings.  A dotted key leads from the root into it, one name for each
mapping on the way.  A variable of the environment overrides the value at a key.  A text in the tree
may hold placeholders; each stands for a variable, the text of the value at a key, or its fallback.

Main definitions:

* `ServiceClient.Config`, `ServiceClient.Config.lookup`: the tree, and the value at a key;
* `ServiceClient.Config.resolve`: a text with its placeholders replaced;
* `ServiceClient.Config.get`, `ServiceClient.Config.part`: values and mappings at keys;
* `ServiceClient.Config.bind`: the properties of a client.

Main results:

* `ServiceClient.Config.get_of_override`: a variable wins over the tree.
-/

import ServiceClient.Config.Template
import ServiceClient.Environment
import ServiceClient.Properties.Flat

set_option autoImplicit false

namespace ServiceClient

/-- A configuration: its tree, and where it was read. -/
structure Config where
  data : Value := .mapping []
  sources : List String := []
  deriving Repr, Inhabited

namespace Config

/-- The configuration of a value; what is empty gives an empty mapping. -/
def ofValue (v : Value) : Config where
  data := if v.isEmpty then .mapping [] else v

/-! ### Keys -/

def names (key : String) : List String :=
  (Text.splitAt (· == '.') key.toList).map String.ofList

/-- What a name leads to; null if it leads nowhere. -/
def child (v : Value) (name : String) : Value :=
  (Value.find? (.text name) v.entries).getD .null

/-- The value at a key; null if there is none. -/
def lookup (c : Config) (key : String) : Value :=
  (names key).foldl child c.data

/-- The entries of the mapping at a key; none if there is no mapping. -/
def part (c : Config) (key : String) : Value.Entries :=
  (c.lookup key).entries

/-! ### Placeholders -/

/-- How many placeholders may lead from one to the next. -/
def maxDepth : Nat := 10

/-- A text whose placeholders lead too far. -/
def tooDeep (text : String) : Failure :=
  .worded .value
    ("Placeholders in '" ++ text ++ "' nest too deeply; check for circular references")

/-- A placeholder that stands for nothing. -/
def unresolved (inner : List Char) : Failure :=
  .worded .value
    ("Cannot resolve placeholder '$\x7b" ++ String.ofList inner ++
      "\x7d': not found in environment or config")

/-- What a placeholder stands for; `expand` replaces the placeholders of a text that it leads to. -/
def substitute (c : Config) (env : Environment) (expand : String → Except Failure String)
    (inner : List Char) : Except Failure String :=
  let p := Template.Placeholder.ofInner inner
  match env.get? p.reference with
  | some text => .ok text
  | none =>
      match c.lookup p.reference with
      | .null =>
          match p.fallback with
          | some text => .ok text
          | none => .error (unresolved inner)
      | v =>
          match v.text? with
          | none => .error (.plain .value)
          | some text => if Template.mayHold text.toList then expand text else .ok text

/-- A text with its placeholders replaced, while `left` steps may still be made. -/
def resolveWithin (c : Config) (env : Environment) : Nat → String → Except Failure String
  | 0, text => .error (tooDeep text)
  | left + 1, text => do
      let parts ← (Template.pieces text.toList).mapM fun
        | .char ch => pure (String.singleton ch)
        | .placeholder inner => substitute c env (resolveWithin c env left) inner
      pure (String.join parts)

def resolve (c : Config) (env : Environment) (text : String) : Except Failure String :=
  resolveWithin c env (maxDepth + 1) text

/-! ### Values -/

/-- The value at a key, as the environment and the placeholders make it; `absent` stands for a value
that is not there. -/
def get (c : Config) (env : Environment) (key : String) (absent : Value) : Except Failure Value :=
  match env.get? (Environment.override key) with
  | some text => .ok (.text text)
  | none =>
      match c.lookup key with
      | .null => .ok absent
      | .text text =>
          if Template.mayHold text.toList then (c.resolve env text).map .text else .ok (.text text)
      | v => .ok v

/-! ### Binding -/

/-- The key of the section that holds the properties of a client. -/
def clientKey : String := "odata.client"

/-- The name under which the properties of a client are reported. -/
def clientModel : String := "ClientProperties"

/-- A model without a section of its own. -/
def unmarked (model : String) : Failure :=
  .worded .value (model ++ " is not decorated with @config_properties")

/-- The wording for a section that does not fit. -/
def misfit : String :=
  "Configuration validation failed for '" ++ clientModel ++ "' (prefix='" ++ clientKey ++ "'):"

/-- The entries of the section of a client, each field as it is read from its key. -/
def clientEntries (c : Config) (env : Environment) : Except Failure Value.Entries :=
  Properties.fields.foldlM
    (fun entries field => do
      match ← c.get env (clientKey ++ "." ++ field) .null with
      | .null => pure entries
      | v => pure (Value.put (.text field) v entries))
    (c.part clientKey)

def bind (c : Config) (env : Environment) : Except Rejection Properties := do
  let entries ← (c.clientEntries env).mapError .unreadable
  (Properties.check entries).mapError (.unbound misfit)

/-! ### Small lemmas -/

theorem get_of_override {c : Config} {env : Environment} {key text : String}
    (h : env.get? (Environment.override key) = some text) (absent : Value) :
    c.get env key absent = .ok (.text text) := by
  simp [get, h]

theorem get_of_null {c : Config} {env : Environment} {key : String}
    (h : env.get? (Environment.override key) = none) (hv : c.lookup key = .null)
    (absent : Value) : c.get env key absent = .ok absent := by
  simp [get, h, hv]

end Config

end ServiceClient
