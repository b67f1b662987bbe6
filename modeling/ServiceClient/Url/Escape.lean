/-
**Percent-escapes.**

A component of a URL keeps the characters that are safe in it and the escapes that it holds
already; every other character is written as the escapes of its bytes.

Main definitions:

* `ServiceClient.Url.escape`: escapes a component;
* `ServiceClient.Url.unescape`: the text of an escaped component;
* `ServiceClient.Url.pathSafe`, …: what is safe where.
-/

import ServiceClient.Text.Encoding
import ServiceClient.Text.Integer

set_option autoImplicit false

namespace ServiceClient.Url

/-- Letters, digits and the four marks that are never escaped. -/
def isUnreserved (c : Char) : Bool :=
  c.isAlphanum || c == '-' || c == '.' || c == '_' || c == '~'

/-- A printing ASCII character. -/
def isVisible (c : Char) : Bool := 32 < c.toNat && c.toNat < 127

def fragmentSafe (c : Char) : Bool :=
  isVisible c && !(['"', '<', '>', '\x60'].contains c)

def querySafe (c : Char) : Bool :=
  isVisible c && !(['"', '#', '<', '>'].contains c)

def pathSafe (c : Char) : Bool :=
  querySafe c && !(['?', '\x60', '\x7b', '\x7d'].contains c)

/-- Safe in the part of an authority that names a user. -/
def userSafe (c : Char) : Bool :=
  pathSafe c && !(['/', ';', '=', '@', '[', '\\', ']', '^', '|'].contains c)

/-- Safe in the name of a host. -/
def hostSafe (c : Char) : Bool :=
  isUnreserved c || "!$&'()*+,;=\"\x60\x7b\x7d%|\\".toList.contains c

def escapeByte (b : UInt8) : List Char :=
  ['%', (Nat.digitChar (b.toNat / 16)).toUpper, (Nat.digitChar (b.toNat % 16)).toUpper]

def escapeChar (safe : Char → Bool) (c : Char) : List Char :=
  if isUnreserved c || safe c then [c] else (String.utf8EncodeChar c).flatMap escapeByte

def escape (safe : Char → Bool) : List Char → List Char
  | '%' :: a :: b :: rest =>
      if (Text.hexDigit? a).isSome && (Text.hexDigit? b).isSome then '%' :: a :: b :: escape safe rest
      else escapeChar safe '%' ++ escape safe (a :: b :: rest)
  | c :: rest => escapeChar safe c ++ escape safe rest
  | [] => []

/-- The bytes that an escaped component stands for. -/
def unescapeBytes : List Char → List UInt8
  | '%' :: a :: b :: rest =>
      match Text.hexDigit? a, Text.hexDigit? b with
      | some m, some n => UInt8.ofNat (m * 16 + n) :: unescapeBytes rest
      | _, _ => 37 :: unescapeBytes (a :: b :: rest)
  | c :: rest => String.utf8EncodeChar c ++ unescapeBytes rest
  | [] => []

/-- The text that an escaped component stands for. -/
def unescape (cs : List Char) : List Char :=
  Text.decode (unescapeBytes cs)

end ServiceClient.Url
