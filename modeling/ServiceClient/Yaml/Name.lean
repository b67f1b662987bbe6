/-
**Tokens of a YAML text, and the names, tags and directives in them.**

Main definitions:

* `ServiceClient.Yaml.Token`: the tokens;
* `ServiceClient.Yaml.Cursor.anchorName`: the name of an anchor or of a reference to one;
* `ServiceClient.Yaml.Cursor.tag`: a tag;
* `ServiceClient.Yaml.Cursor.directive`: a directive.
-/

import ServiceClient.Text.Encoding
import ServiceClient.Yaml.Scalar

set_option autoImplicit false

namespace ServiceClient.Yaml

/-! ### Tokens -/

/-- A token.  Blocks begin where the indentation grows and end where it shrinks. -/
inductive Token
  /-- A directive that names the version of the format. -/
  | version (major : Nat)
  /-- A directive that gives a handle for tags. -/
  | handle (name leading : String)
  /-- Any other directive. -/
  | directive
  | documentStart
  | documentEnd
  | blockSequenceStart
  | blockMappingStart
  | blockEnd
  | flowSequenceStart
  | flowSequenceEnd
  | flowMappingStart
  | flowMappingEnd
  | blockEntry
  | flowEntry
  | key
  | value
  | reference (name : String)
  | anchor (name : String)
  /-- A tag: its handle, if it has one, and the rest of it. -/
  | tag (handle : Option String) (suffix : String)
  /-- A scalar; `plain` tells that it stands without quotes or an indicator. -/
  | scalar (text : String) (plain : Bool)
  /-- The place where the text ceases to be well-formed. -/
  | broken (f : Failure)
  deriving Repr, Inhabited

namespace Cursor

/-! ### Anchors -/

/-- A character that may follow the name of an anchor. -/
def endsAnchor (c : Char) : Bool :=
  isGap c || ['?', ':', ',', ']', '}', '%', '@', Char.ofNat 0x60].contains c

/-- The name of an anchor or of a reference, from its indicator on. -/
def anchorName (c : Cursor) : Except Failure (String × Cursor) :=
  let (name, c) := c.step.span isNameChar
  if name.isEmpty || !endsAnchor c.peek then .error malformed
  else .ok (String.ofList name, c)

/-! ### Tags -/

def isAddressChar (c : Char) : Bool :=
  c.isAlphanum || "-;/?:@&=+$,_.!~*'()[]%".toList.contains c

/-- The bytes of a run of escapes, each a percent sign and two hexadecimal digits. -/
def escapedBytes : List Char → Option (List UInt8 × List Char)
  | '%' :: rest =>
      match rest with
      | a :: b :: rest =>
          match Text.hexDigit? a, Text.hexDigit? b, escapedBytes rest with
          | some m, some n, some (bs, rest) => some (UInt8.ofNat (16 * m + n) :: bs, rest)
          | _, _, _ => none
      | _ => none
  | rest => some ([], rest)

/-- The address of a tag: its escapes stand for the characters that they encode. -/
def address (c : Cursor) : Except Failure (List Char × Cursor) := do
  let (text, next) ← go (c.rest.length + 1) c
  if next.index = c.index then throw malformed else pure (text, next)
where
  /-- The address from here on. -/
  go : Nat → Cursor → Except Failure (List Char × Cursor)
    | 0, c => .ok ([], c)
    | fuel + 1, c =>
        if c.peek == '%' then
          match escapedBytes c.rest with
          | some (bs, rest) =>
              match Text.decode? bs with
              | some s => do
                  let (more, last) ← go fuel (c.forward (c.rest.length - rest.length))
                  pure (s.toList ++ more, last)
              | none => .error malformed
          | none => .error malformed
        else if isAddressChar c.peek then do
          let (more, last) ← go fuel c.step
          pure (c.peek :: more, last)
        else .ok ([], c)

def tagHandle (c : Cursor) : Except Failure (List Char × Cursor) :=
  if c.peek == '!' then
    if c.peekAt 1 == ' ' then .ok (['!'], c.step)
    else
      let (name, next) := c.step.span isNameChar
      if next.peek == '!' then .ok ('!' :: name ++ ['!'], next.step)
      else .error malformed
  else .error malformed

/-- Whether a tag, read after its first exclamation mark, has a second one. -/
def hasHandle (c : Cursor) : Bool :=
  (c.rest.takeWhile fun ch => !isSpaceOrEnd ch).contains '!'

/-- A tag, from its exclamation mark on. -/
def tag (c : Cursor) : Except Failure (Token × Cursor) := do
  let next := c.peekAt 1
  let (handle, suffix, c) ←
    if next == '<' then
      let (suffix, c) ← (c.forward 2).address
      if c.peek == '>' then pure (none, suffix, c.step) else throw malformed
    else if isGap next then pure (none, ['!'], c.step)
    else
      let (handle, c) ← if c.step.hasHandle then c.tagHandle else pure (['!'], c.step)
      let (suffix, c) ← c.address
      pure (some (String.ofList handle), suffix, c)
  if isSpaceOrEnd c.peek then pure (.tag handle (String.ofList suffix), c) else throw malformed

/-! ### Directives -/

def directiveNumber (c : Cursor) : Except Failure (Nat × Cursor) :=
  let (digits, c) := c.span fun ch => (Text.asciiDigit? ch).isSome
  if digits.isEmpty then .error malformed
  else .ok (Text.number 10 (digits.filterMap Text.asciiDigit?), c)

def versionValue (c : Cursor) : Except Failure (Token × Cursor) := do
  let (major, c) ← (c.skip (· == ' ')).directiveNumber
  if c.peek == '.' then
    let (_, c) ← c.step.directiveNumber
    if isSpaceOrEnd c.peek then pure (.version major, c) else throw malformed
  else throw malformed

/-- The handle and its meaning in a directive. -/
def handleValue (c : Cursor) : Except Failure (Token × Cursor) := do
  let (handle, c) ← (c.skip (· == ' ')).tagHandle
  if c.peek == ' ' then
    let (leading, c) ← (c.skip (· == ' ')).address
    if isSpaceOrEnd c.peek then
      pure (.handle (String.ofList handle) (String.ofList leading), c)
    else throw malformed
  else throw malformed

/-- A directive, from its percent sign to the end of its line. -/
def directive (c : Cursor) : Except Failure (Token × Cursor) := do
  let (name, c) := c.step.span isNameChar
  if name.isEmpty || !isSpaceOrEnd c.peek then throw malformed
  let (token, c) ←
    if name = "YAML".toList then c.versionValue
    else if name = "TAG".toList then c.handleValue
    else pure (.directive, c.skip fun ch => !isLineEnd ch)
  pure (token, ← c.endLine)

end Cursor

end ServiceClient.Yaml
