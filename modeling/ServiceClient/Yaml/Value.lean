/-
**The values of YAML nodes.**

A scalar stands for the value that its tag makes of its text.  Mappings are put together in the
order of their entries; the entries of mappings that a merge key names come first, so that those of
the mapping itself are written over them.

Scalars fail at once, and containers when all that surrounds them has been put together.  So of
several failures the one counts that lies at the outermost level, and there the first.

Main definitions:

* `ServiceClient.Yaml.scalarValue`: the value of a scalar;
* `ServiceClient.Yaml.Node.value`: the value of a node;
* `ServiceClient.Yaml.read`: the value of a text.
-/

import ServiceClient.Binary64.Decimal
import ServiceClient.Text.Base64
import ServiceClient.Value
import ServiceClient.Yaml.Lexer
import ServiceClient.Yaml.Node

set_option autoImplicit false

namespace ServiceClient.Yaml

/-! ### Scalars -/

def truth (text : String) : Except Failure Value :=
  match truthWords.lookup (text.map Char.toLower) with
  | some b => .ok (.bool b)
  | none => .error (.plain .key)

/-- The integer of digits in a base up to sixteen, with a sign and blanks around it. -/
def basedInteger? (base : Nat) (cs : List Char) : Option Int := do
  let (negative, body) := Text.takeSign (Text.trimList Text.isBlank cs)
  let body := match body with
    | '0' :: m :: rest => if base = 8 ∧ (m = 'o' ∨ m = 'O') then rest else body
    | _ => body
  let ds ← body.mapM fun c => (Text.hexDigit? c).filter (· < base)
  if ds.isEmpty then none
  else
    let n : Int := Text.number base ds
    some (if negative then -n else n)

/-- A number with its sign split off: whether it is a minus, and the rest. -/
def splitSign (cs : List Char) : Except Failure (Bool × List Char) :=
  if cs.isEmpty then .error (.plain .index) else .ok (Text.takeSign cs)

/-- The integer of numbers in base sixty, the least significant first. -/
def sixtieths (parts : List Int) : Int :=
  parts.foldr (fun n rest => n + 60 * rest) 0

/-- The integer of a text without its sign. -/
def unsignedInteger (body : List Char) : Except Failure Int :=
  let read := fun (n : Option Int) => match n with
    | some n => Except.ok n
    | none => Except.error (Failure.plain .value)
  match body with
  | [] => .error (.plain .index)
  | ['0'] => .ok 0
  | '0' :: 'b' :: digits => read (basedInteger? 2 digits)
  | '0' :: 'x' :: digits => read (basedInteger? 16 digits)
  | '0' :: _ => read (basedInteger? 8 body)
  | _ => do
      let parts ← (Text.splitAt (· == ':') body).mapM fun part => read (Text.freeInteger? part)
      pure (sixtieths parts.reverse)

/-- The integer that a text writes; underscores do not count. -/
def integer (text : String) : Except Failure Value := do
  let (negative, body) ← splitSign (text.toList.filter (· != '_'))
  let n ← unsignedInteger body
  pure (.int (if negative then -n else n))

/-- The floating-point number of numbers in base sixty, the least significant first. -/
def floatSixtieths (parts : List Binary64) : Binary64 :=
  (parts.foldl (fun (sum, unit) part => (sum.add (part.scale unit), unit * 60))
    (Binary64.zero false, 1)).1

/-- The floating-point number that a text writes; underscores do not count. -/
def float (text : String) : Except Failure Value := do
  let (negative, body) ← splitSign ((text.toList.filter (· != '_')).map Char.toLower)
  let x ←
    if body = ".inf".toList then pure (Binary64.infinity false)
    else if body = ".nan".toList then pure Binary64.nan
    else do
      let parts ← (Text.splitAt (· == ':') body).mapM fun part =>
        match Binary64.read? (String.ofList part) with
        | some x => Except.ok x
        | none => Except.error (Failure.plain .value)
      match parts with
      | [x] => pure x
      | parts => pure (floatSixtieths parts.reverse)
  pure (.float (if negative then x.neg else x))

/-- The point in time of its written fields. -/
def Stamp.moment? (s : Stamp) : Option Moment :=
  let date : CalendarDate := { year := s.year, month := s.month, day := s.day }
  if date.isValid then
    match s.clock with
    | none => some (.date date)
    | some (hour, minute, second, fraction) =>
        let digits := fraction.take 6 ++ List.replicate (6 - fraction.length) 0
        let time : ClockTime := { hour, minute, second, microsecond := Text.number 10 digits }
        if time.isValid && s.offset.all fun o => decide (o.natAbs < 1440) then
          some (.dateTime date time s.offset)
        else none
  else none

/-- The point in time that a text writes. -/
def timestamp (text : String) : Except Failure Value :=
  let cs := text.toList
  match stamp? (if cs.getLast? = some '\n' then cs.dropLast else cs) with
  | none => .error (.plain .attribute)
  | some s =>
      match s.moment? with
      | some m => .ok (.moment m)
      | none => .error (.plain .value)

/-- The bytes that a text writes in base 64. -/
def binary (text : String) : Except Failure Value :=
  if text.toList.all (·.toNat < 128) then
    match Text.Base64.decode? text.toList with
    | some bs => .ok (.bytes bs)
    | none => .error malformed
  else .error malformed

/-- The value that a tag makes of a text.  The tags of containers and those that nobody knows make
none. -/
def scalarValue (tag : Tag) (text : String) : Except Failure Value :=
  match tag with
  | .null => .ok .null
  | .bool => truth text
  | .int => integer text
  | .float => float text
  | .binary => binary text
  | .timestamp => timestamp text
  | .text => .ok (.text text)
  | _ => .error malformed

/-! ### Failures of several parts -/

/-- A value, or a failure and the level at which it lies. -/
abbrev Leveled (α : Type) := Except (Nat × Failure) α

/-- Two parts, put together; the outermost failure counts, and of two at one level the first. -/
def Leveled.both {α β : Type} : Leveled α → Leveled β → Leveled (α × β)
  | .ok a, .ok b => .ok (a, b)
  | .ok _, .error e => .error e
  | .error e, .ok _ => .error e
  | .error (l, f), .error (m, g) => if m < l then .error (m, g) else .error (l, f)

def Leveled.all {α : Type} : List (Leveled α) → Leveled (List α)
  | [] => .ok []
  | r :: rest => (r.both (Leveled.all rest)).map fun (a, more) => a :: more

def atLevel {α : Type} (level : Nat) (r : Except Failure α) : Leveled α :=
  r.mapError fun f => (level, f)

/-! ### Nodes -/

namespace Node

/-- The tag of a container: its node is put together one level further in. -/
def isContainerTag : Tag → Bool
  | .mapping | .sequence | .set | .orderedMapping | .pairs => true
  | _ => false

mutual

/-- The text of a scalar; a mapping has the text of its default value. -/
def text? : Node → Option String
  | .scalar _ s => some s
  | .sequence .. => none
  | .mapping _ entries => defaultText? entries
termination_by structural n => n

def defaultText? : List (Node × Node) → Option String
  | [] => none
  | e :: rest => (defaultEntryText? e).getD (defaultText? rest)
termination_by structural es => es

/-- The text of an entry, if it is the default one. -/
def defaultEntryText? : Node × Node → Option (Option String)
  | (k, v) => if k.tag = .defaultValue then some v.text? else none
termination_by structural e => e

end

/-- An entry of a mapping, put together; a key must have a fixed identity. -/
def keyed (level : Nat) (k v : Leveled Value) : Leveled (Value × Value) :=
  let key : Leveled Value := match k with
    | .ok k => if k.isMutable then .error (level, malformed) else .ok k
    | .error (l, f) => if l > level then .error (level, malformed) else .error (l, f)
  key.both v

mutual

/-- The value of a node that is reached at a level. -/
def valueAt (level : Nat) : Node → Leveled Value
  | .scalar tag s => atLevel (if isContainerTag tag then level + 1 else level) (scalarValue tag s)
  | .sequence tag items =>
      match tag with
      | .sequence => (Leveled.all (itemsAt (level + 1) items)).map .list
      | .orderedMapping | .pairs => (Leveled.all (pairsAt (level + 1) items)).map .list
      | tag => .error (if isContainerTag tag then level + 1 else level, malformed)
  | .mapping tag entries =>
      let put := fun (level : Nat) => do
        let (merged, own) ← atLevel level (entriesAt level entries)
        let pairs ← Leveled.all (merged ++ own)
        pure (Value.ofEntries pairs)
      match tag with
      | .mapping => (put (level + 1)).map .mapping
      | .set => (put (level + 1)).map fun es => .members (es.map (·.1))
      | tag =>
          if isContainerTag tag then .error (level + 1, malformed)
          else
            match defaultText? entries with
            | some s => atLevel level (scalarValue tag s)
            | none => .error (level, malformed)
termination_by structural n => n

def itemsAt (level : Nat) : List Node → List (Leveled Value)
  | [] => []
  | n :: rest => valueAt level n :: itemsAt level rest
termination_by structural ns => ns

/-- The values of items each of which is a mapping with one entry. -/
def pairsAt (level : Nat) : List Node → List (Leveled Value)
  | [] => []
  | n :: rest => pairAt level n :: pairsAt level rest
termination_by structural ns => ns

/-- The value of a mapping with one entry: its key and its value. -/
def pairAt (level : Nat) : Node → Leveled Value
  | .mapping _ entries =>
      match pairEntriesAt level entries with
      | [r] => r
      | _ => .error (level, malformed)
  | _ => .error (level, malformed)
termination_by structural n => n

def pairEntriesAt (level : Nat) : List (Node × Node) → List (Leveled Value)
  | [] => []
  | e :: rest => pairEntryAt level e :: pairEntriesAt level rest
termination_by structural es => es

def pairEntryAt (level : Nat) : Node × Node → Leveled Value
  | (k, v) => ((valueAt level k).both (valueAt level v)).map fun (k, v) => .list [k, v]
termination_by structural e => e

/-- The entries of a mapping: those that merge keys bring, and its own. -/
def entriesAt (level : Nat) : List (Node × Node) →
    Except Failure (List (Leveled (Value × Value)) × List (Leveled (Value × Value)))
  | [] => .ok ([], [])
  | e :: rest => do
      let (merged, own) ← entryAt level e
      let (moreMerged, moreOwn) ← entriesAt level rest
      pure (merged ++ moreMerged, own ++ moreOwn)
termination_by structural es => es

/-- One entry of a mapping: what it merges, or itself. -/
def entryAt (level : Nat) : Node × Node →
    Except Failure (List (Leveled (Value × Value)) × List (Leveled (Value × Value)))
  | (k, v) =>
      if k.tag = .merge then do pure (← mergedAt level v, [])
      else
        let key : Leveled Value := match k with
          | .scalar .defaultValue s => .ok (.text s)
          | k => valueAt level k
        .ok ([], [keyed level key (valueAt level v)])
termination_by structural e => e

/-- The entries of a mapping, or of the mappings of a sequence, that is merged.  Of several mappings
the first one counts most, so it comes last. -/
def mergedAt (level : Nat) : Node → Except Failure (List (Leveled (Value × Value)))
  | .mapping _ entries => do
      let (merged, own) ← entriesAt level entries
      pure (merged ++ own)
  | .sequence _ items => do pure (← mergedItemsAt level items).reverse.flatten
  | .scalar .. => .error malformed
termination_by structural n => n

/-- The entries of each of some mappings. -/
def mergedItemsAt (level : Nat) : List Node → Except Failure (List (List (Leveled (Value × Value))))
  | [] => .ok []
  | n :: rest => do
      let first ← mergedItemAt level n
      pure (first :: (← mergedItemsAt level rest))
termination_by structural ns => ns

/-- The entries of a mapping among those of a sequence. -/
def mergedItemAt (level : Nat) : Node → Except Failure (List (Leveled (Value × Value)))
  | .mapping _ entries => do
      let (merged, own) ← entriesAt level entries
      pure (merged ++ own)
  | _ => .error malformed
termination_by structural n => n

end

def value (n : Node) : Except Failure Value :=
  (valueAt 0 n).mapError (·.2)

end Node

/-! ### Texts -/

/-- The value of a text with uniform line ends; a text without a document stands for null. -/
def read (text : List Char) : Except Failure Value := do
  match ← Node.ofTokens? (tokens text) with
  | some n => n.value
  | none => pure .null

end ServiceClient.Yaml
