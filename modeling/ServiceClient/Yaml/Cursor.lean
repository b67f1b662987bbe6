/-
**A place in a YAML text.**

A cursor holds the text that is still to be read and where it stands.  Line ends have been made
uniform before; a line ends at a line feed, a next-line character, or one of the two separators.
Beyond the end of the text a cursor shows the character zero, which no text holds.

Main definitions:

* `ServiceClient.Yaml.Cursor`, `ServiceClient.Yaml.Cursor.forward`: places;
* `ServiceClient.Yaml.isBreak`, `ServiceClient.Yaml.isGap`, …: classes of characters.
-/

import ServiceClient.Failure

set_option autoImplicit false

namespace ServiceClient.Yaml

/-! ### Characters -/

/-- What a cursor shows beyond the end. -/
def beyond : Char := Char.ofNat 0

/-- A character that a text may hold. -/
def isAllowed (c : Char) : Bool :=
  let n := c.toNat
  n == 0x09 || n == 0x0A || n == 0x0D || (0x20 ≤ n && n ≤ 0x7E) || n == 0x85 ||
    (0xA0 ≤ n && n ≤ 0xD7FF) || (0xE000 ≤ n && n ≤ 0xFFFD) || 0x10000 ≤ n

def isBreak (c : Char) : Bool :=
  c == '\n' || c.toNat == 0x85 || c.toNat == 0x2028 || c.toNat == 0x2029

/-- The end of a line or of the text. -/
def isLineEnd (c : Char) : Bool := isBreak c || c == beyond

/-- A space, or the end of a line or of the text. -/
def isSpaceOrEnd (c : Char) : Bool := c == ' ' || isLineEnd c

/-- A space, a tab, or the end of a line or of the text. -/
def isGap (c : Char) : Bool := c == '\t' || isSpaceOrEnd c

def isNameChar (c : Char) : Bool := c.isAlphanum || c == '-' || c == '_'

/-- A character that may come at the beginning of a text to mark its encoding. -/
def isMark (c : Char) : Bool := c.toNat == 0xFEFF

/-- What a line break stands for: separators stay themselves, and all others are line feeds. -/
def breakText (c : Char) : Char :=
  if c.toNat = 0x2028 ∨ c.toNat = 0x2029 then c else '\n'

/-- The failure of a text that is not well-formed. -/
def malformed : Failure := .plain .yaml

/-! ### Places -/

/-- A place in a text. -/
structure Cursor where
  rest : List Char
  index : Nat := 0
  line : Nat := 0
  column : Nat := 0
  deriving Repr, Inhabited

namespace Cursor

def peekAt (c : Cursor) (distance : Nat) : Char :=
  (c.rest.drop distance).head?.getD beyond

def peek (c : Cursor) : Char :=
  c.rest.head?.getD beyond

def atEnd (c : Cursor) : Bool := c.rest.isEmpty

def step (c : Cursor) : Cursor :=
  match c.rest with
  | [] => c
  | ch :: rest =>
      if isBreak ch then { rest, index := c.index + 1, line := c.line + 1, column := 0 }
      else
        { rest
          index := c.index + 1
          line := c.line
          column := if isMark ch then c.column else c.column + 1 }

def forward : Nat → Cursor → Cursor
  | 0, c => c
  | n + 1, c => forward n c.step

/-- Splits off the characters of a class. -/
def span (p : Char → Bool) (c : Cursor) : List Char × Cursor :=
  let run := c.rest.takeWhile p
  (run, c.forward run.length)

def skip (p : Char → Bool) (c : Cursor) : Cursor :=
  (c.span p).2

/-- Whether a line here begins with a marker of documents, `---` or `...`. -/
def atMarker (c : Cursor) (mark : Char) : Bool :=
  c.rest.take 3 == [mark, mark, mark] && isGap (c.peekAt 3)

/-- Whether a line here begins with one of the two markers. -/
def atAnyMarker (c : Cursor) : Bool :=
  c.atMarker '-' || c.atMarker '.'

@[simp] theorem rest_step (c : Cursor) : c.step.rest = c.rest.tail := by
  unfold step
  split
  · rename_i h
    simp [h]
  · rename_i ch rest h
    split <;> simp [h]

end Cursor

end ServiceClient.Yaml
