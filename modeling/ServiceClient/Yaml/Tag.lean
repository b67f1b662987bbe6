/-
**Tags of YAML nodes.**

A tag says what a node stands for.  A scalar that stands as it is, without a tag, gets the tag of
the first form that it has: a truth value, a floating-point number, an integer, a merge key, null, a
point in time, or the default key.  All others are texts.

Main definitions:

* `ServiceClient.Yaml.Tag`, `ServiceClient.Yaml.Tag.ofName`: the tags;
* `ServiceClient.Yaml.Tag.ofPlain`: the tag of a scalar as it stands;
* `ServiceClient.Yaml.Stamp`, `ServiceClient.Yaml.stamp?`: points in time as they are written.
-/

import ServiceClient.Text.Integer
import ServiceClient.Yaml.Cursor

set_option autoImplicit false

namespace ServiceClient.Yaml

/-- What a node stands for. -/
inductive Tag
  | null | bool | int | float | binary | timestamp
  | orderedMapping | pairs | set
  | text | sequence | mapping
  /-- Merges a mapping into the one that it is a key of. -/
  | merge
  /-- The default value of a mapping. -/
  | defaultValue
  | other (name : String)
  deriving DecidableEq, Repr, Inhabited

namespace Tag

/-- What the names of the common tags begin with. -/
def commonLeading : String := "tag:yaml.org,2002:"

/-- The common tags, by the ends of their names. -/
def common : List (String × Tag) :=
  [ ("null", .null), ("bool", .bool), ("int", .int), ("float", .float), ("binary", .binary)
  , ("timestamp", .timestamp), ("omap", .orderedMapping), ("pairs", .pairs), ("set", .set)
  , ("str", .text), ("seq", .sequence), ("map", .mapping), ("merge", .merge)
  , ("value", .defaultValue) ]

def ofName (name : String) : Tag :=
  ((common.find? fun (ending, _) => commonLeading ++ ending == name).map (·.2)).getD (.other name)

end Tag

/-! ### Points in time -/

/-- A point in time as it is written: its fields, and how they are written. -/
structure Stamp where
  year : Nat
  month : Nat
  day : Nat
  /-- Month and day have two digits each. -/
  fullDate : Bool
  /-- Hour, minute, second, and the digits of the fraction. -/
  clock : Option (Nat × Nat × Nat × List Nat) := none
  /-- The minutes ahead of universal time. -/
  offset : Option Int := none
  deriving DecidableEq, Repr, Inhabited

/-- A number of `least` up to `most` digits, how many there are, and the rest. -/
def digitField? (least most : Nat) (cs : List Char) : Option (Nat × Nat × List Char) :=
  let front := (cs.take most).takeWhile fun c => (Text.asciiDigit? c).isSome
  let ds := front.filterMap Text.asciiDigit?
  if ds.length < least then none else some (Text.number 10 ds, ds.length, cs.drop ds.length)

/-- The rest of a text after a character. -/
def after? (mark : Char) : List Char → Option (List Char)
  | c :: rest => if c = mark then some rest else none
  | [] => none

def isSeparator (c : Char) : Bool := c == ' ' || c == '\t'

/-- The offset at the end of a point in time. -/
def stampOffset? (cs : List Char) : Option (Option Int) :=
  match cs with
  | [] => some none
  | _ =>
      match cs.dropWhile isSeparator with
      | ['Z'] => some (some 0)
      | c :: rest =>
          if c = '+' ∨ c = '-' then do
            let (hours, _, rest) ← digitField? 1 2 rest
            let minutes ←
              if rest.isEmpty then some 0
              else do
                let (minutes, _, rest) ← digitField? 2 2 (← after? ':' rest)
                if rest.isEmpty then some minutes else none
            let total : Int := hours * 60 + minutes
            some (some (if c = '-' then -total else total))
          else none
      | [] => none

/-- The time and the offset of a point in time. -/
def stampClock? (cs : List Char) : Option ((Nat × Nat × Nat × List Nat) × Option Int) := do
  let (hour, _, rest) ← digitField? 1 2 cs
  let (minute, _, rest) ← digitField? 2 2 (← after? ':' rest)
  let (second, _, rest) ← digitField? 2 2 (← after? ':' rest)
  let (fraction, rest) := match rest with
    | '.' :: rest => rest.span fun c => (Text.asciiDigit? c).isSome
    | rest => ([], rest)
  let offset ← stampOffset? rest
  pure ((hour, minute, second, fraction.filterMap Text.asciiDigit?), offset)

/-- The point in time that a text writes. -/
def stamp? (cs : List Char) : Option Stamp := do
  let (year, _, rest) ← digitField? 4 4 cs
  let (month, monthDigits, rest) ← digitField? 1 2 (← after? '-' rest)
  let (day, dayDigits, rest) ← digitField? 1 2 (← after? '-' rest)
  let date : Stamp := { year, month, day, fullDate := monthDigits == 2 && dayDigits == 2 }
  match rest with
  | [] => pure date
  | c :: rest =>
      let rest ←
        if c = 'T' ∨ c = 't' then some rest
        else if isSeparator c then some (rest.dropWhile isSeparator)
        else none
      let (clock, offset) ← stampClock? rest
      pure { date with clock := some clock, offset }

/-! ### Forms of plain scalars -/

def isDigit (c : Char) : Bool := '0' ≤ c && c ≤ '9'

def isDigitOrLine (c : Char) : Bool := isDigit c || c == '_'

def unsigned (cs : List Char) : List Char := (Text.takeSign cs).2

/-- A decimal digit, then digits and underscores. -/
def isNumeral : List Char → Bool
  | c :: rest => isDigit c && rest.all isDigitOrLine
  | [] => false

/-- A numeral that does not begin with zero. -/
def isPositiveNumeral (cs : List Char) : Bool :=
  isNumeral cs && cs.head? != some '0'

/-- A part of a number in base sixty: one digit, or two of which the first is less than six. -/
def isSixtieth : List Char → Bool
  | [c] => isDigit c
  | [c, d] => '0' ≤ c && c ≤ '5' && isDigit d
  | _ => false

/-- A list that is not empty, and whose elements belong to a class. -/
def someAll (p : Char → Bool) (cs : List Char) : Bool :=
  !cs.isEmpty && cs.all p

/-- The form of an integer: binary, octal, decimal, hexadecimal, or in base sixty. -/
def isInteger (cs : List Char) : Bool :=
  match unsigned cs with
  | '0' :: 'b' :: rest => someAll (fun c => c == '0' || c == '1' || c == '_') rest
  | '0' :: 'x' :: rest => someAll (fun c => c == '_' || (Text.hexDigit? c).isSome) rest
  | '0' :: rest => rest.all fun c => ('0' ≤ c && c ≤ '7') || c == '_'
  | body =>
      match Text.splitAt (· == ':') body with
      | first :: rest => isPositiveNumeral first && rest.all isSixtieth
      | [] => false

/-- The end of a floating-point number: an exponent with a sign, or nothing. -/
def isExponent : List Char → Bool
  | [] => true
  | e :: sign :: digits =>
      (e == 'e' || e == 'E') && (sign == '+' || sign == '-') && someAll isDigit digits
  | _ => false

/-- The form of a floating-point number: with a point, in base sixty, or by name. -/
def isFloat (cs : List Char) : Bool :=
  let body := unsigned cs
  let whole := body.takeWhile (· != '.')
  let fraction := body.dropWhile (· != '.')
  match fraction with
  | [] => false
  | _ :: fraction =>
      if whole.isEmpty then
        ["inf".toList, "Inf".toList, "INF".toList].contains fraction ||
          (body.length == cs.length &&
            (["nan".toList, "NaN".toList, "NAN".toList].contains fraction ||
              (isNumeral (fraction.takeWhile isDigitOrLine) &&
                isExponent (fraction.dropWhile isDigitOrLine))))
      else
        (isNumeral whole && isExponent (fraction.dropWhile isDigitOrLine)) ||
          (fraction.all isDigitOrLine &&
            match Text.splitAt (· == ':') whole with
            | first :: second :: rest => isNumeral first && (second :: rest).all isSixtieth
            | _ => false)

/-- The words for truth values, in lower case. -/
def truthWords : List (String × Bool) :=
  [("yes", true), ("no", false), ("true", true), ("false", false), ("on", true), ("off", false)]

/-- A word in lower case, in upper case, or with a capital letter. -/
def isWord (word : String) (cs : List Char) : Bool :=
  let lower := word.toList
  cs == lower || cs == lower.map Char.toUpper ||
    cs == (lower.take 1).map Char.toUpper ++ lower.drop 1

/-- The form of a point in time; a date alone is written with two digits for month and day. -/
def isStamp (cs : List Char) : Bool :=
  match stamp? cs with
  | some s => s.clock.isSome || s.fullDate
  | none => false

/-- The tag of a scalar as it stands. -/
def Tag.ofPlain (s : String) : Tag :=
  let cs := s.toList
  let cs := if cs.getLast? = some '\n' then cs.dropLast else cs
  if truthWords.any fun (word, _) => isWord word cs then .bool
  else if isFloat cs then .float
  else if isInteger cs then .int
  else if cs = ['<', '<'] then .merge
  else if cs.isEmpty ∨ cs = ['~'] ∨ isWord "null" cs then .null
  else if isStamp cs then .timestamp
  else if cs = ['='] then .defaultValue
  else if cs = ['!'] ∨ cs = ['&'] ∨ cs = ['*'] then .other (commonLeading ++ "yaml")
  else .text

end ServiceClient.Yaml
