/-
**Values of configurations, properties and log fields.**

A mapping keeps its entries in the order in which their keys first came.  Two keys are the same
when they are equal as values, where a truth value, an integer and a floating-point number are
equal when they stand for the same number; a later entry for a key keeps the place and the key of
the earlier one.

Main definitions:

* `ServiceClient.Value`: the values;
* `ServiceClient.Value.sameKey`: when two keys are the same;
* `ServiceClient.Value.find?`, `ServiceClient.Value.put`: reading and writing an entry;
* `ServiceClient.Value.overlay`, `ServiceClient.Value.merge`: a mapping laid over another one.

Main results:

* `ServiceClient.Value.find?_put_self`: what was put is found.
-/

import ServiceClient.Binary64
import ServiceClient.Moment

set_option autoImplicit false

namespace ServiceClient

inductive Value
  | null
  | bool (b : Bool)
  | int (n : Int)
  | float (x : Binary64)
  | text (s : String)
  | bytes (bs : List UInt8)
  | moment (m : Moment)
  | list (items : List Value)
  /-- The members of a set, each once. -/
  | members (items : List Value)
  | mapping (entries : List (Value × Value))
  deriving Repr, Inhabited

namespace Value

abbrev Entries := List (Value × Value)

/-! ### Keys -/

def number? : Value → Option Int
  | .bool b => some (if b then 1 else 0)
  | .int n => some n
  | .float x => x.toInt?
  | _ => none

def sameKey : Value → Value → Bool
  | .null, .null => true
  | .text s, .text t => s == t
  | .bytes b, .bytes c => b == c
  | .moment m, .moment n => m == n
  | .float x, .float y =>
      match x.toInt?, y.toInt? with
      | some m, some n => m == n
      | none, none => x == y && x != .nan
      | _, _ => false
  | v, w =>
      match v.number?, w.number? with
      | some m, some n => m == n
      | _, _ => false

@[simp] theorem sameKey_text (s t : String) : sameKey (.text s) (.text t) = (s == t) := rfl

/-! ### Entries -/

def find? (key : Value) : Entries → Option Value
  | [] => none
  | (k, v) :: rest => if k.sameKey key then some v else find? key rest

/-- Sets the value under a key; a new key comes last. -/
def put (key value : Value) : Entries → Entries
  | [] => [(key, value)]
  | (k, v) :: rest => if k.sameKey key then (k, value) :: rest else (k, v) :: put key value rest

/-- Entries, a later one for a key written over an earlier one. -/
def ofEntries (entries : Entries) : Entries :=
  entries.foldl (fun done (k, v) => put k v done) []

/-- The entries of a mapping; any other value has none. -/
def entries : Value → Entries
  | .mapping es => es
  | _ => []

/-- What was put under a text is found there. -/
theorem find?_put_self (name : String) (value : Value) (es : Entries) :
    find? (.text name) (put (.text name) value es) = some value := by
  induction es with
  | nil => simp [put, find?]
  | cons e rest ih =>
      obtain ⟨k, v⟩ := e
      by_cases h : k.sameKey (.text name) = true
      · simp [put, find?, h]
      · simp [put, find?, h, ih]

/-! ### Layers -/

mutual

/-- A value laid over another one: two mappings are merged, and otherwise the upper value wins. -/
def overlay (base : Option Value) : Value → Value
  | .mapping upper =>
      match base with
      | some (.mapping lower) => .mapping (merge lower upper)
      | _ => .mapping upper
  | v => v
termination_by structural v => v

/-- The entries of a mapping with those of another one laid over them. -/
def merge (lower : Entries) : Entries → Entries
  | [] => lower
  | e :: rest => merge (overlayEntry lower e) rest
termination_by structural es => es

/-- The entries of a mapping with one entry laid over them. -/
def overlayEntry (lower : Entries) : Value × Value → Entries
  | (k, v) => put k (overlay (find? k lower) v) lower
termination_by structural e => e

end

@[simp] theorem merge_cons (lower : Entries) (k v : Value) (rest : Entries) :
    merge lower ((k, v) :: rest) = merge (put k (overlay (find? k lower) v) lower) rest := rfl

/-! ### Emptiness -/

/-- A value without a fixed identity, which cannot be a key. -/
def isMutable : Value → Bool
  | .list _ | .members _ | .mapping _ => true
  | _ => false

/-- A value that stands for nothing: null, false, zero, and what is empty. -/
def isEmpty : Value → Bool
  | .null => true
  | .bool b => !b
  | .int n => n == 0
  | .float x => x.isZero
  | .text s => s.isEmpty
  | .bytes bs => bs.isEmpty
  | .moment _ => false
  | .list items | .members items => items.isEmpty
  | .mapping es => es.isEmpty

end Value

end ServiceClient
