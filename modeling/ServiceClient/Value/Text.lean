/-
**Values as text.**

A text is its own text.  Inside a list or a mapping it is quoted, and every other value is written
there as it is written alone.  An integer of more than 4300 digits has no text, and neither has a
value that holds one.

Main definitions:

* `ServiceClient.Value.literal?`: the text of a value inside a list or a mapping;
* `ServiceClient.Value.text?`: the text of a value.
-/

import ServiceClient.Binary64.Decimal
import ServiceClient.Text.Character
import ServiceClient.Text.Integer
import ServiceClient.Value

set_option autoImplicit false

namespace ServiceClient

def integerText? (n : Int) : Option String :=
  if n.natAbs < Nat.pow 10 Text.digitLimit then some (toString n) else none

namespace Value

/-- The text of a byte between quotes `mark`. -/
def byteText (mark : Char) (b : UInt8) : List Char :=
  let c := Char.ofNat b.toNat
  if c = mark ∨ c = '\\' then ['\\', c]
  else if c = '\n' then ['\\', 'n']
  else if c = '\r' then ['\\', 'r']
  else if c = '\t' then ['\\', 't']
  else if 32 ≤ b ∧ b < 127 then [c]
  else '\\' :: 'x' :: Text.hexDigits 2 b.toNat

/-- The text of bytes: in quotes, after a letter that tells them from characters. -/
def bytesLiteral (bs : List UInt8) : String :=
  let mark := Text.quoteMark (bs.map fun b => Char.ofNat b.toNat)
  String.ofList ('b' :: mark :: bs.flatMap (byteText mark) ++ [mark])

mutual

/-- The text of a value inside a list or a mapping. -/
def literal? : Value → Option String
  | .null => some "None"
  | .bool b => some (if b then "True" else "False")
  | .int n => integerText? n
  | .float x => some x.text
  | .text s => some (Text.quoted s)
  | .bytes bs => some (bytesLiteral bs)
  | .moment m => some m.literal
  | .list items => (itemLiterals? items).map fun ts => "[" ++ ", ".intercalate ts ++ "]"
  | .members items =>
      if items.isEmpty then some "set()"
      else (itemLiterals? items).map fun ts => "\x7b" ++ ", ".intercalate ts ++ "\x7d"
  | .mapping es => (entryLiterals? es).map fun ts => "\x7b" ++ ", ".intercalate ts ++ "\x7d"
termination_by structural v => v

def itemLiterals? : List Value → Option (List String)
  | [] => some []
  | v :: rest =>
      match v.literal?, itemLiterals? rest with
      | some t, some ts => some (t :: ts)
      | _, _ => none
termination_by structural vs => vs

def entryLiterals? : Entries → Option (List String)
  | [] => some []
  | e :: rest =>
      match entryLiteral? e, entryLiterals? rest with
      | some t, some ts => some (t :: ts)
      | _, _ => none
termination_by structural es => es

def entryLiteral? : Value × Value → Option String
  | (k, v) =>
      match k.literal?, v.literal? with
      | some s, some t => some (s ++ ": " ++ t)
      | _, _ => none
termination_by structural e => e

end

def text? : Value → Option String
  | .text s => some s
  | .moment m => some m.text
  | v => v.literal?

@[simp] theorem text?_text (s : String) : (Value.text s).text? = some s := rfl

@[simp] theorem text?_int (n : Int) : (Value.int n).text? = integerText? n := rfl

end Value

end ServiceClient
