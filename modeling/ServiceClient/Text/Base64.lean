/-
**Base 64.**

Three bytes are written as four letters; a last group of fewer bytes is filled up with equals
signs.  Reading passes over all other characters and stops where a group has been filled up.

Main definitions:

* `ServiceClient.Text.Base64.encode`, `ServiceClient.Text.Base64.decode?`.
-/

set_option autoImplicit false

namespace ServiceClient.Text.Base64

/-- The letter for a value below 64. -/
def letter (n : Nat) : Char :=
  if n < 26 then Char.ofNat (65 + n)
  else if n < 52 then Char.ofNat (71 + n)
  else if n < 62 then Char.ofNat (n - 4)
  else if n = 62 then '+' else '/'

def value? (c : Char) : Option Nat :=
  (List.range 64).find? fun n => letter n == c

def encode : List UInt8 → List Char
  | a :: b :: c :: rest =>
      let n := a.toNat * 65536 + b.toNat * 256 + c.toNat
      letter (n / 262144) :: letter (n / 4096 % 64) :: letter (n / 64 % 64) ::
        letter (n % 64) :: encode rest
  | [a, b] =>
      let n := a.toNat * 1024 + b.toNat * 4
      [letter (n / 4096), letter (n / 64 % 64), letter (n % 64), '=']
  | [a] => [letter (a.toNat / 4), letter (a.toNat % 4 * 16), '=', '=']
  | [] => []

/-- The letters that count, and whether they end with a group that was filled up.  `opened` is the
number of letters in the current group, `fill` the number of equals signs after the last letter. -/
def values : Nat → Nat → List Char → List Nat × Bool
  | _, _, [] => ([], false)
  | opened, fill, c :: rest =>
      if c = '=' then
        if opened ≥ 2 ∧ opened + fill + 1 ≥ 4 then ([], true) else values opened (fill + 1) rest
      else
        match value? c with
        | some n =>
            let (more, filled) := values ((opened + 1) % 4) 0 rest
            (n :: more, filled)
        | none => values opened fill rest

def bytesOf : List Nat → List UInt8
  | a :: b :: c :: d :: rest =>
      UInt8.ofNat (a * 4 + b / 16) :: UInt8.ofNat (b % 16 * 16 + c / 4) ::
        UInt8.ofNat (c % 4 * 64 + d) :: bytesOf rest
  | [a, b, c] => [UInt8.ofNat (a * 4 + b / 16), UInt8.ofNat (b % 16 * 16 + c / 4)]
  | [a, b] => [UInt8.ofNat (a * 4 + b / 16)]
  | _ => []

/-- The bytes that a text in base 64 writes. -/
def decode? (cs : List Char) : Option (List UInt8) :=
  let (ns, filled) := values 0 0 cs
  if filled || ns.length % 4 == 0 then some (bytesOf ns) else none

end ServiceClient.Text.Base64
