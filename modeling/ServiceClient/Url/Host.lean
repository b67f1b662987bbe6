/-
**Hosts.**

A host is a numeric address of either version or a name.  A name in ASCII is lower-cased and
escaped; any other name is written label by label in the ASCII-compatible encoding.

Main definitions:

* `ServiceClient.Url.isIpv4`, `ServiceClient.Url.isIpv6`: well-formed numeric addresses;
* `ServiceClient.Url.asciiName?`: the ASCII form of a name;
* `ServiceClient.Url.host?`: the normal form of a host.
-/

import ServiceClient.Text.Character
import ServiceClient.Text.Integer
import ServiceClient.Text.LowerCase
import ServiceClient.Url.Escape
import ServiceClient.Url.Punycode

set_option autoImplicit false

namespace ServiceClient.Url

/-! ### Numeric addresses -/

/-- A number of a dotted address: up to three digits, no zero in front, at most 255. -/
def isOctet (cs : List Char) : Bool :=
  match cs.mapM Text.asciiDigit? with
  | some ds =>
      0 < ds.length && ds.length ≤ 3 && (ds.length == 1 || ds.head? != some 0) &&
        Text.number 10 ds ≤ 255
  | none => false

def isIpv4 (cs : List Char) : Bool :=
  let parts := Text.splitAt (· == '.') cs
  parts.length == 4 && parts.all isOctet

/-- The places in the shape "four runs of digits with any one character between two of them" that
can follow a place by a character.  Place `2 * k` stands before run `k` and place `2 * k + 1` inside
it; a digit between two runs may belong to either. -/
def numericSteps (c : Char) (place : Nat) : List Nat :=
  let digit := (Text.asciiDigit? c).isSome
  if place % 2 = 0 then if digit then [place + 1] else []
  else (if digit then [place] else []) ++ (if place < 7 then [place + 1] else [])

/-- A host that has the shape of a dotted address. -/
def looksNumeric (cs : List Char) : Bool :=
  (cs.foldl (fun places c => (places.flatMap (numericSteps c)).eraseDups) [0]).contains 7

/-- A group of an address of the newer version. -/
def isGroup (cs : List Char) : Bool :=
  0 < cs.length && cs.length ≤ 4 && cs.all fun c => (Text.hexDigit? c).isSome

/-- The number of groups that a list of parts fills, the last one possibly a dotted address. -/
def groupCount? (parts : List (List Char)) : Option Nat :=
  match parts.reverse with
  | [] => some 0
  | last :: before =>
      if before.all isGroup then
        if isGroup last then some (before.length + 1)
        else if isIpv4 last then some (before.length + 2)
        else none
      else none

/-- The text before the first double colon and the text after it. -/
def splitDoubleColon : List Char → Option (List Char × List Char)
  | ':' :: ':' :: rest => some ([], rest)
  | c :: rest => (splitDoubleColon rest).map fun (a, b) => (c :: a, b)
  | [] => none

/-- The parts of one side of a double colon. -/
def groupsOf (cs : List Char) : List (List Char) :=
  if cs.isEmpty then [] else Text.splitAt (· == ':') cs

/-- A well-formed address of the newer version, without its zone. -/
def isIpv6Address (cs : List Char) : Bool :=
  match splitDoubleColon cs with
  | none => groupCount? (groupsOf cs) == some 8
  | some (front, back) =>
      (splitDoubleColon back).isNone && back.head? != some ':' &&
        ((groupsOf front).all isGroup) &&
        match groupCount? (groupsOf front), groupCount? (groupsOf back) with
        | some a, some b => a + b ≤ 7
        | _, _ => false

/-- A well-formed address of the newer version; a zone may follow a percent sign. -/
def isIpv6 (cs : List Char) : Bool :=
  match cs.span (· != '%') with
  | (address, []) => isIpv6Address address
  | (address, _ :: zone) => isIpv6Address address && !zone.isEmpty && !zone.contains '%'

/-! ### Names -/

def asciiLabel (label : List Char) : List Char :=
  if label.all Punycode.isBasic then label else "xn--".toList ++ Punycode.encode label

/-- The full stops that separate labels. -/
def isLabelStop (c : Char) : Bool :=
  [0x2E, 0x3002, 0xFF0E, 0xFF61].contains c.toNat

/-- The ASCII form of a name.  Every label holds a character, and all characters print. -/
def asciiName? (name : List Char) : Option (List Char) :=
  let labels := Text.splitAt isLabelStop name
  if labels.all fun l => !l.isEmpty && l.all Text.isPrintable then
    some ((labels.map asciiLabel).intersperse ['.']).flatten
  else none

/-! ### Hosts -/

/-- Whether a host stands in square brackets. -/
def isBracketed (cs : List Char) : Bool :=
  cs.head? == some '[' && cs.getLast? == some ']' && 1 < cs.length

/-- The normal form of a host; a numeric address in brackets loses them. -/
def host? (cs : List Char) : Option (List Char) :=
  if cs.isEmpty then some []
  else if looksNumeric cs then if isIpv4 cs then some cs else none
  else if isBracketed cs then
    let address := cs.tail.dropLast
    if isIpv6 address then some address else none
  else if cs.all Punycode.isBasic then some (escape hostSafe (cs.map Char.toLower))
  else asciiName? (Text.lower (String.ofList cs)).toList

end ServiceClient.Url
