/-
**Scalars of a TOML text.**

Line ends are line feeds.  Every reader takes the beginning of a text and leaves the rest.

Main definitions:

* `ServiceClient.Toml.stringValue?`, `ServiceClient.Toml.basicLine`,
  `ServiceClient.Toml.literalLine`: strings;
* `ServiceClient.Toml.number?`: integers and floating-point numbers;
* `ServiceClient.Toml.moment?`: points in time.
-/

import ServiceClient.Binary64.Decimal
import ServiceClient.Failure
import ServiceClient.Text.Integer

set_option autoImplicit false

namespace ServiceClient.Toml

/-- The failure of a text that is not well-formed. -/
def malformed : Failure := .plain .toml

/-! ### Characters -/

def isSpacing (c : Char) : Bool := c == ' ' || c == '\t'

/-- A character that no comment and no string of one line may hold. -/
def isControl (c : Char) : Bool := (c.toNat < 32 && c != '\t') || c.toNat == 127

/-- A character that no string of several lines may hold. -/
def isStrictControl (c : Char) : Bool := isControl c && c != '\n'

def skipSpacing (cs : List Char) : List Char := cs.dropWhile isSpacing

/-- A text without what it begins with, if it begins so. -/
def strip? (leading cs : List Char) : Option (List Char) :=
  if leading.isPrefixOf cs then some (cs.drop leading.length) else none

/-! ### Strings -/

/-- The character of a number of hexadecimal digits. -/
def hexChar (length : Nat) (cs : List Char) : Except Failure (Char × List Char) :=
  match (cs.take length).mapM Text.hexDigit? with
  | some ds =>
      let code := Text.number 16 ds
      if ds.length = length ∧ (code < 0xD800 ∨ (0xDFFF < code ∧ code < 0x110000)) then
        .ok (Char.ofNat code, cs.drop length)
      else .error malformed
  | none => .error malformed

/-- The characters that a backslash and a letter stand for. -/
def escapes : List (Char × Char) :=
  [('b', Char.ofNat 8), ('t', '\t'), ('n', '\n'), ('f', Char.ofNat 12), ('r', '\r'), ('"', '"'),
    ('\\', '\\')]

/-- The line end behind a backslash, with all blanks that follow it.  Only spacing may stand before
it, unless the text ends there. -/
def skipLineEnd (cs : List Char) : Except Failure (List Char) :=
  match skipSpacing cs with
  | [] => .ok []
  | '\n' :: rest => .ok (rest.dropWhile fun c => isSpacing c || c == '\n')
  | _ => .error malformed

/-- What an escape stands for, read behind its backslash. -/
def escape (severalLines : Bool) (cs : List Char) : Except Failure (List Char × List Char) :=
  match cs with
  | [] => .error malformed
  | c :: rest =>
      if severalLines && (isSpacing c || c == '\n') then do
        pure ([], ← skipLineEnd cs)
      else if c = 'u' then (hexChar 4 rest).map fun (ch, rest) => ([ch], rest)
      else if c = 'U' then (hexChar 8 rest).map fun (ch, rest) => ([ch], rest)
      else
        match escapes.lookup c with
        | some ch => .ok ([ch], rest)
        | none => .error malformed

/-- The mark around a string of several lines. -/
def tripled (mark : Char) : List Char := [mark, mark, mark]

/-- The rest of a basic string.  Every round takes a character at least. -/
def basicRest (severalLines : Bool) : Nat → List Char → Except Failure (List Char × List Char)
  | 0, _ => .error malformed
  | _, [] => .error malformed
  | fuel + 1, c :: rest => do
      let closing := if severalLines then tripled '"' else ['"']
      match strip? closing (c :: rest) with
      | some rest => pure ([], rest)
      | none =>
          let (part, rest) ←
            if c = '\\' then escape severalLines rest
            else if (if severalLines then isStrictControl c else isControl c) then throw malformed
            else pure ([c], rest)
          let (more, rest) ← basicRest severalLines fuel rest
          pure (part ++ more, rest)

/-- A basic string of one line, behind its opening mark. -/
def basicLine (cs : List Char) : Except Failure (String × List Char) := do
  let (s, rest) ← basicRest false (cs.length + 1) cs
  pure (String.ofList s, rest)

/-- A literal string of one line, behind its opening mark. -/
def literalLine (cs : List Char) : Except Failure (String × List Char) :=
  let s := cs.takeWhile (· != '\'')
  match cs.dropWhile (· != '\'') with
  | [] => .error malformed
  | _ :: rest => if s.any isControl then .error malformed else .ok (String.ofList s, rest)

/-- The rest of a literal string of several lines. -/
def literalRest : List Char → Except Failure (List Char × List Char)
  | [] => .error malformed
  | c :: rest =>
      match strip? (tripled '\'') (c :: rest) with
      | some rest => .ok ([], rest)
      | none =>
          if isStrictControl c then .error malformed
          else (literalRest rest).map fun (s, rest) => (c :: s, rest)

/-- Up to two marks that stand directly before the closing ones. -/
def trailingMarks (mark : Char) (cs : List Char) : List Char × List Char :=
  let marks := (cs.take 2).takeWhile (· == mark)
  (marks, cs.drop marks.length)

/-- A string of several lines, behind its opening marks; a line end directly there does not
count. -/
def severalLines (mark : Char) (cs : List Char) : Except Failure (String × List Char) := do
  let cs := match cs with
    | '\n' :: rest => rest
    | cs => cs
  let (s, rest) ← if mark = '"' then basicRest true (cs.length + 1) cs else literalRest cs
  let (marks, rest) := trailingMarks mark rest
  pure (String.ofList (s ++ marks), rest)

def stringValue? (cs : List Char) : Option (Except Failure (String × List Char)) :=
  match cs with
  | '"' :: '"' :: '"' :: rest => some (severalLines '"' rest)
  | '"' :: rest => some (basicLine rest)
  | '\'' :: '\'' :: '\'' :: rest => some (severalLines '\'' rest)
  | '\'' :: rest => some (literalLine rest)
  | _ => none

/-! ### Numbers -/

/-- The digits of a run with single underscores between them, and the rest. -/
def digitRun (value? : Char → Option Nat) : Bool → List Char → List Nat × List Char
  | _, [] => ([], [])
  | afterDigit, c :: rest =>
      match value? c with
      | some d =>
          let (ds, tail) := digitRun value? true rest
          (d :: ds, tail)
      | none =>
          if afterDigit && c == '_' && (rest.head?.bind value?).isSome then
            digitRun value? false rest
          else ([], c :: rest)

def digitBelow (base : Nat) (c : Char) : Option Nat :=
  (Text.hexDigit? c).filter (· < base)

/-- The base that a letter behind a zero announces. -/
def base? (c : Char) : Option Nat :=
  [('x', 16), ('o', 8), ('b', 2)].lookup c

/-- A number in another base than ten. -/
def basedNumber? (cs : List Char) : Option (Value × List Char) :=
  match cs with
  | '0' :: mark :: rest =>
      match base? mark with
      | some base =>
          match digitRun (digitBelow base) false rest with
          | ([], _) => none
          | (ds, rest) => some (.int (Text.number base ds), rest)
      | none => none
  | _ => none

/-- The digits before a point: a single zero, or digits of which the first is not zero. -/
def wholeDigits? (cs : List Char) : Option (List Nat × List Char) :=
  match cs with
  | '0' :: rest => some ([0], rest)
  | cs =>
      match digitRun Text.asciiDigit? false cs with
      | ([], _) => none
      | run => some run

/-- A point and the digits behind it, if there are any. -/
def fraction? (cs : List Char) : Option (List Nat × List Char) :=
  match cs with
  | '.' :: rest =>
      match digitRun Text.asciiDigit? false rest with
      | ([], _) => none
      | run => some run
  | _ => none

def exponent? (cs : List Char) : Option (Int × List Char) :=
  match cs with
  | e :: rest =>
      if e = 'e' ∨ e = 'E' then
        let (negative, rest) := Text.takeSign rest
        match digitRun Text.asciiDigit? false rest with
        | ([], _) => none
        | (ds, rest) =>
            let n : Int := Text.number 10 ds
            some (if negative then -n else n, rest)
      else none
  | [] => none

/-- An integer or a floating-point number, if one begins here.  An integer may be too long. -/
def number? (cs : List Char) : Option (Except Failure (Value × List Char)) :=
  match basedNumber? cs with
  | some r => some (.ok r)
  | none =>
      let (negative, body) := Text.takeSign cs
      match wholeDigits? body with
      | none => none
      | some (whole, rest) =>
          let fraction := fraction? rest
          let (places, rest) := fraction.getD ([], rest)
          let exponent := exponent? rest
          let (e, rest) := exponent.getD (0, rest)
          if fraction.isSome || exponent.isSome then
            some (.ok (.float (.ofDigits negative (whole ++ places) (e - places.length)), rest))
          else if whole.length > Text.digitLimit then some (.error (.plain .value))
          else some (.ok (.int (Text.signed negative whole), rest))

def namedNumbers : List (String × Binary64) :=
  [ ("inf", .infinity false), ("+inf", .infinity false), ("-inf", .infinity true)
  , ("nan", .nan), ("+nan", .nan), ("-nan", .nan) ]

/-- A floating-point number by its name, if one begins here. -/
def namedNumber? (cs : List Char) : Option (Value × List Char) :=
  namedNumbers.findSome? fun (name, x) => (strip? name.toList cs).map fun rest => (.float x, rest)

/-! ### Points in time -/

/-- A number of exactly `width` digits within bounds. -/
def field? (width low high : Nat) (cs : List Char) : Option (Nat × List Char) :=
  match (cs.take width).mapM Text.asciiDigit? with
  | some ds =>
      let n := Text.number 10 ds
      if ds.length = width ∧ low ≤ n ∧ n ≤ high then some (n, cs.drop width) else none
  | none => none

/-- The rest behind a character of a class. -/
def behind? (p : Char → Bool) (cs : List Char) : Option (List Char) :=
  match cs with
  | c :: rest => if p c then some rest else none
  | [] => none

/-- A time of day, if one begins here; the fraction counts to microseconds. -/
def clock? (cs : List Char) : Option (ClockTime × List Char) := do
  let (hour, rest) ← field? 2 0 23 cs
  let (minute, rest) ← field? 2 0 59 (← behind? (· == ':') rest)
  let (second, rest) ← field? 2 0 59 (← behind? (· == ':') rest)
  let isDigit := fun c => (Text.asciiDigit? c).isSome
  let digits := ((behind? (· == '.') rest).getD []).takeWhile isDigit
  let places := (digits.take 6).filterMap Text.asciiDigit?
  let microsecond := Text.number 10 (places ++ List.replicate (6 - places.length) 0)
  let rest := if digits.isEmpty then rest else rest.drop (digits.length + 1)
  pure ({ hour, minute, second, microsecond }, rest)

/-- An offset from universal time, if one begins here. -/
def offset? (cs : List Char) : Option (Int × List Char) :=
  match cs with
  | c :: rest =>
      if c = 'Z' ∨ c = 'z' then some (0, rest)
      else if c = '+' ∨ c = '-' then do
        let (hours, rest) ← field? 2 0 23 rest
        let (minutes, rest) ← field? 2 0 59 (← behind? (· == ':') rest)
        let total : Int := hours * 60 + minutes
        pure (if c = '-' then -total else total, rest)
      else none
  | [] => none

/-- A date, if one begins here; it may be none of the calendar. -/
def date? (cs : List Char) : Option (CalendarDate × List Char) := do
  let (year, rest) ← field? 4 0 9999 cs
  let (month, rest) ← field? 2 1 12 (← behind? (· == '-') rest)
  let (day, rest) ← field? 2 1 31 (← behind? (· == '-') rest)
  pure ({ year, month, day }, rest)

/-- A point in time, if one begins here. -/
def moment? (cs : List Char) : Option (Except Failure (Value × List Char)) :=
  match date? cs with
  | some (date, rest) =>
      let clock := (behind? (fun c => c == 'T' || c == 't' || c == ' ') rest).bind clock?
      let (m, rest) : Moment × List Char := match clock with
        | none => (.date date, rest)
        | some (time, rest) =>
            match offset? rest with
            | some (offset, rest) => (.dateTime date time (some offset), rest)
            | none => (.dateTime date time none, rest)
      some (if date.isValid then .ok (.moment m, rest) else .error malformed)
  | none => (clock? cs).map fun (time, rest) => .ok (.moment (.time time), rest)

end ServiceClient.Toml
