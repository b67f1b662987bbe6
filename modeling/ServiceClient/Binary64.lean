/-
**Floating-point numbers of 64 bits.**

A finite number is `± mantissa · 2 ^ exponent` in its canonical form: the mantissa has 53 bits,
fewer only at the least exponent.  Values are computed exactly as fractions of natural numbers and
rounded once, to the nearest number and to the even mantissa on a tie.

Main definitions:

* `ServiceClient.Binary64`: the numbers;
* `ServiceClient.Binary64.ofRatio`: the number nearest to a fraction;
* `ServiceClient.Binary64.toInt?`: the integer that a number is, when it is one;
* `ServiceClient.Binary64.add`, `ServiceClient.Binary64.ofInt`: sums and integers, rounded.
-/

set_option autoImplicit false

namespace ServiceClient

/-- A floating-point number of 64 bits. -/
inductive Binary64
  | nan
  | infinity (negative : Bool)
  | finite (negative : Bool) (mantissa : Nat) (exponent : Int)
  deriving DecidableEq, Repr, Inhabited

namespace Binary64

def minExponent : Int := -1074

def maxExponent : Int := 971

def zero (negative : Bool) : Binary64 := .finite negative 0 minExponent

/-- `num / den`, rounded to the nearest integer, a tie to the even one. -/
def roundQuotient (num den : Nat) : Nat :=
  let q := num / den
  let twice := 2 * (num % den)
  if twice < den then q
  else if twice > den then q + 1
  else if q % 2 = 0 then q else q + 1

/-- The fraction `num / den` in units of `2 ^ e`, as a fraction. -/
def inUnits (num den : Nat) (e : Int) : Nat × Nat :=
  if e ≥ 0 then (num, den * Nat.pow 2 e.toNat) else (num * Nat.pow 2 (-e).toNat, den)

/-- The exponent at which `num / den` has a mantissa of 53 bits, before the least exponent is
respected. -/
def naturalExponent (num den : Nat) : Int :=
  let guess : Int := (Nat.log2 num : Int) - (Nat.log2 den : Int) - 52
  let (n, d) := inUnits num den guess
  if n / d < Nat.pow 2 52 then guess - 1 else guess

/-- The number nearest to `± num / den`. -/
def ofRatio (negative : Bool) (num den : Nat) : Binary64 :=
  if num = 0 ∨ den = 0 then zero negative
  else
    let e := max (naturalExponent num den) minExponent
    let (n, d) := inUnits num den e
    let m := roundQuotient n d
    let (m, e) := if m = Nat.pow 2 53 then (Nat.pow 2 52, e + 1) else (m, e)
    if e > maxExponent then .infinity negative else .finite negative m e

/-- The number nearest to an integer. -/
def ofInt (n : Int) : Binary64 :=
  ofRatio (n < 0) n.natAbs 1

/-- A finite number as a fraction: its signed numerator, and its denominator. -/
def toRatio? : Binary64 → Option (Int × Nat)
  | .finite negative m e =>
      let num : Nat := if e ≥ 0 then m * Nat.pow 2 e.toNat else m
      let den : Nat := if e ≥ 0 then 1 else Nat.pow 2 (-e).toNat
      some (if negative then -(num : Int) else num, den)
  | _ => none

/-- The integer that a finite number is. -/
def toInt? (x : Binary64) : Option Int :=
  match x.toRatio? with
  | some (num, den) => if num % (den : Int) = 0 then some (num / (den : Int)) else none
  | none => none

def neg : Binary64 → Binary64
  | .nan => .nan
  | .infinity negative => .infinity !negative
  | .finite negative m e => .finite (!negative) m e

def add : Binary64 → Binary64 → Binary64
  | .nan, _ => .nan
  | _, .nan => .nan
  | .infinity s, .infinity t => if s = t then .infinity s else .nan
  | .infinity s, _ => .infinity s
  | _, .infinity t => .infinity t
  | x@(.finite s m _), y@(.finite t n _) =>
      match x.toRatio?, y.toRatio? with
      | some (a, b), some (c, d) =>
          let num := a * (d : Int) + c * (b : Int)
          if num = 0 then zero (s && t && m == 0 && n == 0)
          else ofRatio (num < 0) num.natAbs (b * d)
      | _, _ => .nan

/-- The product with an integer, rounded. -/
def scale (x : Binary64) (k : Nat) : Binary64 :=
  match x with
  | .nan => .nan
  | .infinity s => if k = 0 then .nan else .infinity s
  | .finite s m e =>
      match (Binary64.finite s m e).toRatio? with
      | some (a, b) => ofRatio s (a.natAbs * k) b
      | none => .nan

/-- A number of magnitude zero. -/
def isZero : Binary64 → Bool
  | .finite _ m _ => m == 0
  | _ => false

def isFinite : Binary64 → Bool
  | .finite .. => true
  | _ => false

end Binary64

end ServiceClient
