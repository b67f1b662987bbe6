/-
**Digits, and integers written as text.**

A script writes its ten decimal digits as ten consecutive code points, zero first, so a table of
the zeros says both which characters are decimal digits and what each of them is worth.

Two readings of integers are in use.  The *free* reading takes digits of any script and blanks around
the number.  The *strict* reading takes ASCII digits only and white space around the number, but lets
a point and zeros follow.  Both take a sign, and a single underscore between two digits.

Main definitions:

* `ServiceClient.Text.digitValue?`: what a decimal digit of any script is worth;
* `ServiceClient.Text.asciiDigit?`, `ServiceClient.Text.hexDigit?`: what an ASCII digit is worth;
* `ServiceClient.Text.number`: the number that a list of digit values writes;
* `ServiceClient.Text.digits?`: the values of digits with single underscores between them;
* `ServiceClient.Text.freeInteger?`, `ServiceClient.Text.strictInteger`: the two readings;
* `ServiceClient.Text.IntegerReading`: what the strict reading finds.
-/

import ServiceClient.Text.Character

set_option autoImplicit false

namespace ServiceClient.Text

/-! ### Digits -/

/-- The zero of each script. -/
def zeros : List Nat := [
  48, 1632, 1776, 1984, 2406, 2534, 2662, 2790, 2918, 3046, 3174, 3302, 3430, 3558, 3664, 3792,
  3872, 4160, 4240, 6112, 6160, 6470, 6608, 6784, 6800, 6992, 7088, 7232, 7248, 42528, 43216,
  43264, 43472, 43504, 43600, 44016, 65296, 66720, 68912, 69734, 69872, 69942, 70096, 70384,
  70736, 70864, 71248, 71360, 71472, 71904, 72016, 72784, 73040, 73120, 92768, 92864, 93008,
  120782, 120792, 120802, 120812, 120822, 123200, 123632, 125264, 130032]

/-- What a decimal digit is worth, whatever its script. -/
def digitValue? (c : Char) : Option Nat :=
  (zeros.find? fun z => z ≤ c.toNat && c.toNat < z + 10).map fun z => c.toNat - z

/-- What a digit between `0` and `9` is worth. -/
def asciiDigit? (c : Char) : Option Nat :=
  if '0' ≤ c ∧ c ≤ '9' then some (c.toNat - 48) else none

def hexDigit? (c : Char) : Option Nat :=
  if '0' ≤ c ∧ c ≤ '9' then some (c.toNat - 48)
  else if 'a' ≤ c ∧ c ≤ 'f' then some (c.toNat - 87)
  else if 'A' ≤ c ∧ c ≤ 'F' then some (c.toNat - 55)
  else none

/-- The number that digit values write in base `base`, the most significant first. -/
def number (base : Nat) (digits : List Nat) : Nat :=
  digits.foldl (fun n d => n * base + d) 0

@[simp] theorem number_nil (base : Nat) : number base [] = 0 := rfl

/-! ### Integers -/

/-- The most digits that an integer may have in a text. -/
def digitLimit : Nat := 4300

/-- The parts of a list between the elements of a class. -/
def splitAt (isMark : Char → Bool) : List Char → List (List Char)
  | [] => [[]]
  | c :: rest =>
      if isMark c then [] :: splitAt isMark rest
      else match splitAt isMark rest with
        | part :: parts => (c :: part) :: parts
        | [] => [[c]]

/-- The values of digits with single underscores between them. -/
def digits? (value? : Char → Option Nat) (cs : List Char) : Option (List Nat) :=
  let runs := splitAt (· == '_') cs
  if runs.all fun run => !run.isEmpty then runs.flatten.mapM value? else none

/-- Reads a sign: whether it is a minus, and the rest. -/
def takeSign : List Char → Bool × List Char
  | '-' :: rest => (true, rest)
  | '+' :: rest => (false, rest)
  | rest => (false, rest)

/-- The integer of a sign and digit values. -/
def signed (negative : Bool) (digits : List Nat) : Int :=
  let n : Int := number 10 digits
  if negative then -n else n

/-- The integer that a text writes, read freely. -/
def freeInteger? (cs : List Char) : Option Int :=
  let (negative, body) := takeSign (trimList isBlank cs)
  match digits? digitValue? body with
  | some ds => if ds.length ≤ digitLimit then some (signed negative ds) else none
  | none => none

/-- What the strict reading finds in a text. -/
inductive IntegerReading
  /-- An integer. -/
  | integer (n : Int)
  /-- An integer with more digits than can be read. -/
  | tooLong
  /-- Something else. -/
  | malformed
  deriving DecidableEq, Repr, Inhabited

/-- A text without a point and the zeros after it, at its end. -/
def dropZeroFraction (cs : List Char) : List Char :=
  match cs.span (· != '.') with
  | (whole, '.' :: zeros) => if !zeros.isEmpty && zeros.all (· == '0') then whole else cs
  | _ => cs

/-- The integer that a text writes, read strictly. -/
def strictInteger (cs : List Char) : IntegerReading :=
  let (negative, body) := takeSign (trimList isWhiteSpace cs)
  match digits? asciiDigit? (dropZeroFraction body) with
  | some ds => if ds.length ≤ digitLimit then .integer (signed negative ds) else .tooLong
  | none => .malformed

end ServiceClient.Text
