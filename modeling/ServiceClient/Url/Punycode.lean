/-
**Labels in ASCII.**

A label with other characters than ASCII is written by its ASCII characters, a hyphen, and the
places of the others: these are taken in the order of their code points, and each place is given by
its distance to the last one, as a number of variable length in base 36.

Main definitions:

* `ServiceClient.Url.Punycode.deltaDigits`: a number of variable length;
* `ServiceClient.Url.Punycode.encode`: the ASCII form of a label.

Main results:

* `ServiceClient.Url.Punycode.threshold_pos`: the threshold below which a digit ends a number is
  positive.
-/

set_option autoImplicit false

namespace ServiceClient.Url.Punycode

/-- The digit for a value below 36: a letter, and from 26 on a decimal digit. -/
def digit (d : Nat) : Char :=
  if d < 26 then Char.ofNat (97 + d) else Char.ofNat (22 + d)

/-- Below this value the digit at place `k` is the last one of its number. -/
def threshold (bias k : Nat) : Nat :=
  if k ≤ bias then 1 else if k ≥ bias + 26 then 26 else k - bias

theorem threshold_pos (bias k : Nat) : 1 ≤ threshold bias k := by
  unfold threshold
  split
  · exact Nat.le_refl 1
  · split <;> omega

/-- The digits of a number from place `k` on. -/
def deltaDigits (bias k q : Nat) : List Char :=
  let t := threshold bias k
  if q < t then [digit q]
  else digit (t + (q - t) % (36 - t)) :: deltaDigits bias (k + 36) ((q - t) / (36 - t))
termination_by q
decreasing_by
  have := threshold_pos bias k
  have := Nat.div_le_self (q - threshold bias k) (36 - threshold bias k)
  omega

/-- Divides until a distance is small; the bias grows with every division. -/
def settle (delta bias : Nat) : Nat :=
  if delta > 455 then settle (delta / 35) (bias + 36) else bias + 36 * delta / (delta + 38)
termination_by delta
decreasing_by exact Nat.div_lt_self (by omega) (by omega)

/-- The bias after a distance has been written, which was the first one or not. -/
def adapt (delta count : Nat) (first : Bool) : Nat :=
  let delta := if first then delta / 700 else delta / 2
  settle (delta + delta / count) 0

/-- How far the writing has come. -/
structure Progress where
  /-- The distance since the last place. -/
  delta : Nat := 0
  bias : Nat := 72
  /-- The number of characters whose places are known. -/
  placed : Nat
  output : List Char
  deriving Repr, Inhabited

/-- Passes a character of the label, `n` being the code point whose places are written. -/
def pass (basic n : Nat) (s : Progress) (c : Char) : Progress :=
  if c.toNat < n then { s with delta := s.delta + 1 }
  else if c.toNat = n then
    { delta := 0
      bias := adapt s.delta (s.placed + 1) (s.placed == basic)
      placed := s.placed + 1
      output := s.output ++ deltaDigits s.bias 36 s.delta }
  else s

/-- Writes the places of the code points in a list, all of them at least `n`. -/
def places (label : List Char) (basic : Nat) : Nat → List Nat → Progress → Progress
  | _, [], s => s
  | n, m :: rest, s =>
      let s := { s with delta := s.delta + (m - n) * (s.placed + 1) }
      let s := label.foldl (pass basic m) s
      places label basic (m + 1) rest { s with delta := s.delta + 1 }

def isBasic (c : Char) : Bool := c.toNat < 128

/-- The ASCII form of a label. -/
def encode (label : List Char) : List Char :=
  let basic := label.filter isBasic
  let others := ((label.filter fun c => !isBasic c).map Char.toNat).eraseDups.mergeSort
  let start : Progress :=
    { placed := basic.length, output := if basic.isEmpty then [] else basic ++ ['-'] }
  (places label basic.length 128 others start).output

end ServiceClient.Url.Punycode
