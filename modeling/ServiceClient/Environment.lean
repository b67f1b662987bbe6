/-
**Environment variables.**

Main definitions:

* `ServiceClient.Environment`: names and values;
* `ServiceClient.Environment.override`: the variable that overrides a key of a configuration.

Main results:

* `ServiceClient.Environment.get?_set_self`, `ServiceClient.Environment.get?_unset_self`.
-/

import ServiceClient.Text.UpperCase

set_option autoImplicit false

namespace ServiceClient

abbrev Environment := List (String × String)

namespace Environment

def get? (name : String) (env : Environment) : Option String :=
  env.lookup name

def unset (name : String) (env : Environment) : Environment :=
  env.filter fun (n, _) => n != name

def set (name value : String) (env : Environment) : Environment :=
  (name, value) :: unset name env

/-- What the names of all overriding variables begin with. -/
def family : List Char := "ODATA_".toList

/-- A character of a variable name in the place of one of a key. -/
def nameChar (c : Char) : Char :=
  if c = '.' ∨ c = '-' then '_' else c

/-- The variable that overrides a key: its upper-case form, with underscores for points and hyphens,
as a member of the family. -/
def override (key : String) : String :=
  let name := (Text.upper key).toList.map nameChar
  String.ofList (if family.isPrefixOf name then name else family ++ name)

@[simp] theorem get?_set_self (name value : String) (env : Environment) :
    get? name (set name value env) = some value := by
  simp [get?, set]

@[simp] theorem get?_unset_self (name : String) (env : Environment) :
    get? name (unset name env) = none := by
  unfold get? unset
  rw [List.lookup_eq_none_iff]
  intro p hp
  have h := (List.mem_filter.1 hp).2
  simp only [bne_iff_ne, ne_eq] at h
  simpa using Ne.symm h

end Environment

end ServiceClient
