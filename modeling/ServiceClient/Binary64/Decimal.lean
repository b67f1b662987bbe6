/-
**Decimal text of floating-point numbers.**

A number is written with the fewest digits that read back as it, and of those the nearest, on a tie
the even one.  It is written positionally from `0.0001` up to below ten to the sixteenth, with `.0`
after an integer, and with an exponent of at least two digits elsewhere.  Reading accepts a sign,
digits with single underscores between them, a point, an exponent, and the names of infinity and of
no number.

Main definitions:

* `ServiceClient.Binary64.shortest?`: the digits and the exponent of a number;
* `ServiceClient.Binary64.text`: its written form;
* `ServiceClient.Binary64.read?`: the number that a text writes.
-/

import ServiceClient.Binary64
import ServiceClient.Text.Character
import ServiceClient.Text.Integer

set_option autoImplicit false

namespace ServiceClient.Binary64

/-! ### Writing -/

/-- `d · 10 ^ p` as a fraction. -/
def decimalRatio (d : Nat) (p : Int) : Nat × Nat :=
  if p ≥ 0 then (d * Nat.pow 10 p.toNat, 1) else (d, Nat.pow 10 (-p).toNat)

/-- The number nearest to `± d · 10 ^ p`. -/
def ofDecimal (negative : Bool) (d : Nat) (p : Int) : Binary64 :=
  let (num, den) := decimalRatio d p
  ofRatio negative num den

/-- The least `p` with `num / den < 10 ^ p`, found from a lower estimate on. -/
def decimalPoint (num den : Nat) : Nat → Int → Int
  | 0, p => p
  | fuel + 1, p =>
      let (n, d) := decimalRatio 1 p
      if num * d < den * n then p else decimalPoint num den fuel (p + 1)

/-- The distance between `num / den` and `d · 10 ^ p`, multiplied by both denominators. -/
def distance (num den d : Nat) (p : Int) : Nat :=
  let (n, e) := decimalRatio d p
  (num * e - n * den) + (n * den - num * e)

/-- The digits of `num / den` with the fewest places, from `places` on, that read back as `x`;
`point` is where its decimal point stands.  Of two the nearer is taken, on a tie the even one. -/
def shortestFrom (x : Binary64) (num den : Nat) (point : Int) : Nat → Nat → Nat × Int
  | 0, places => (0, point - places)
  | fuel + 1, places =>
      let p := point - places
      let (n, d) := decimalRatio 1 p
      let low := num * d / (den * n)
      let fits := [low, low + 1].filter fun c => ofDecimal false c p == x
      match fits with
      | [] => shortestFrom x num den point fuel (places + 1)
      | [c] => (c, p)
      | c :: c' :: _ =>
          let below := distance num den c p
          let above := distance num den c' p
          if above < below ∨ above = below ∧ c' % 2 = 0 then (c', p) else (c, p)

/-- The digits `d` and the exponent `p` of a finite number `± d · 10 ^ p` other than zero. -/
def shortest? : Binary64 → Option (Nat × Int)
  | .finite _ m e =>
      if m = 0 then none
      else
        let x := Binary64.finite false m e
        let num : Nat := if e ≥ 0 then m * Nat.pow 2 e.toNat else m
        let den : Nat := if e ≥ 0 then 1 else Nat.pow 2 (-e).toNat
        let guess : Int := ((Nat.log2 m : Int) + e) * 30103 / 100000 - 2
        some (shortestFrom x num den (decimalPoint num den 8 guess) 20 1)
  | _ => none

def digitsOf (n : Nat) : List Char := (toString n).toList

def zeros (n : Nat) : List Char := List.replicate n '0'

/-- The written form of an exponent: a sign and at least two digits. -/
def exponentText (e : Int) : List Char :=
  let ds := digitsOf e.natAbs
  'e' :: (if e < 0 then '-' else '+') :: (zeros (2 - ds.length) ++ ds)

/-- The written form of `digits · 10 ^ p`, no zero at the end of the digits. -/
def positional (digits : List Char) (p : Int) : List Char :=
  let point : Int := digits.length + p
  if point < -3 ∨ point > 16 then
    let rest := digits.drop 1
    digits.take 1 ++ (if rest.isEmpty then [] else '.' :: rest) ++ exponentText (point - 1)
  else if point ≤ 0 then '0' :: '.' :: (zeros (-point).toNat ++ digits)
  else if p ≥ 0 then digits ++ zeros p.toNat ++ ['.', '0']
  else digits.take point.toNat ++ '.' :: digits.drop point.toNat

/-- Digits without the zeros at their end, which go into the exponent. -/
def dropZeros (digits : List Char) (p : Int) : List Char × Int :=
  let kept := (digits.reverse.dropWhile (· == '0')).reverse
  (kept, p + (digits.length - kept.length : Nat))

def text (x : Binary64) : String :=
  match x with
  | .nan => "nan"
  | .infinity negative => if negative then "-inf" else "inf"
  | .finite negative _ _ =>
      let sign := if negative then "-" else ""
      match x.shortest? with
      | none => sign ++ "0.0"
      | some (d, p) =>
          let (digits, p) := dropZeros (digitsOf d) p
          sign ++ String.ofList (positional digits p)

/-! ### Reading -/

/-- The digit values of a run of digits with single underscores between them, and the rest.
The flag tells that a digit has just been read, so that an underscore may follow. -/
def digitRun : Bool → List Char → List Nat × List Char
  | _, [] => ([], [])
  | afterDigit, c :: rest =>
      match Text.asciiDigit? c with
      | some d => let (ds, tail) := digitRun true rest; (d :: ds, tail)
      | none =>
          if afterDigit && c == '_' && (rest.head?.bind Text.asciiDigit?).isSome then
            digitRun false rest
          else ([], c :: rest)

/-- Reads a sign: whether it is a minus, and the rest. -/
def readSign : List Char → Bool × List Char
  | '-' :: rest => (true, rest)
  | '+' :: rest => (false, rest)
  | rest => (false, rest)

/-- Reads an exponent part that reaches to the end. -/
def readExponent? : List Char → Option Int
  | [] => some 0
  | c :: rest =>
      if c = 'e' ∨ c = 'E' then
        let (negative, rest) := readSign rest
        match digitRun false rest with
        | ([], _) => none
        | (ds, []) =>
            let n : Int := Text.number 10 ds
            some (if negative then -n else n)
        | _ => none
      else none

/-- The number nearest to `± digits · 10 ^ p`.  Exponents far outside the range are not computed. -/
def ofDigits (negative : Bool) (digits : List Nat) (p : Int) : Binary64 :=
  let d := Text.number 10 digits
  if d = 0 then zero negative
  else
    let point : Int := (toString d).length + p
    if point > 400 then .infinity negative
    else if point < -400 then zero negative
    else ofDecimal negative d p

def read? (s : String) : Option Binary64 :=
  let (negative, body) := readSign (Text.trimList Text.isBlank s.toList)
  let name := body.map Char.toLower
  if name = "inf".toList ∨ name = "infinity".toList then some (.infinity negative)
  else if name = "nan".toList then some .nan
  else
    let (whole, rest) := digitRun false body
    let (fraction, rest) :=
      match rest with
      | '.' :: rest => digitRun false rest
      | rest => ([], rest)
    if whole.isEmpty && fraction.isEmpty then none
    else
      (readExponent? rest).map fun e =>
        ofDigits negative (whole ++ fraction) (e - fraction.length)

end ServiceClient.Binary64
