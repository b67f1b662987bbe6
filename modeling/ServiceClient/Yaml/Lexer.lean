/-
**From a YAML text to its tokens.**

Outside of flow collections the indentation opens and closes blocks.  A key need not be announced:
whatever may turn out to be a *simple key* is remembered, and when a colon follows on the same line,
within 1024 characters, the tokens that announce the key are put in front of it.

Main definitions:

* `ServiceClient.Yaml.Lexer`: a place together with the open blocks and the possible keys;
* `ServiceClient.Yaml.Lexer.fetch`: reads on to the next token;
* `ServiceClient.Yaml.tokens`: the tokens of a text.
-/

import ServiceClient.Yaml.Name

set_option autoImplicit false

namespace ServiceClient.Yaml

/-- What may turn out to be a simple key. -/
structure SimpleKey where
  /-- The number of tokens before it. -/
  number : Nat
  /-- Nothing else can stand there. -/
  required : Bool
  index : Nat
  line : Nat
  column : Nat
  deriving Repr, Inhabited

/-- A place together with the open blocks and the possible keys. -/
structure Lexer where
  cursor : Cursor
  /-- The tokens so far, the last one first. -/
  tokens : List Token := []
  /-- How many flow collections are open. -/
  flowLevel : Nat := 0
  /-- The column of the innermost open block. -/
  indent : Int := -1
  /-- The columns of the blocks around it, the innermost first. -/
  outer : List Int := []
  /-- Whether a simple key may begin here. -/
  allowKey : Bool := true
  /-- The possible keys, by the number of flow collections around them. -/
  keys : List (Nat × SimpleKey) := []
  deriving Inhabited

namespace Lexer

def emit (t : Token) (l : Lexer) : Lexer :=
  { l with tokens := t :: l.tokens }

/-- Adds a token before all but the first `number` tokens. -/
def insert (number : Nat) (t : Token) (l : Lexer) : Lexer :=
  { l with tokens := l.tokens.insertIdx (l.tokens.length - number) t }

def advance (n : Nat) (l : Lexer) : Lexer :=
  { l with cursor := l.cursor.forward n }

/-- Lets simple keys begin here, or not. -/
def allowing (allowKey : Bool) (l : Lexer) : Lexer :=
  { l with allowKey }

/-! ### Possible keys -/

def maxKeyLength : Nat := 1024

/-- Whether a possible key can no longer be one: it has to be on this line and not too long. -/
def isStale (l : Lexer) (k : SimpleKey) : Bool :=
  k.line != l.cursor.line || l.cursor.index - k.index > maxKeyLength

/-- Gives up the keys that can no longer be ones. -/
def dropStale (l : Lexer) : Except Failure Lexer :=
  if l.keys.any fun (_, k) => l.isStale k && k.required then .error malformed
  else .ok { l with keys := l.keys.filter fun (_, k) => !l.isStale k }

/-- The possible key among the flow collections that are open here. -/
def key? (l : Lexer) : Option SimpleKey :=
  l.keys.lookup l.flowLevel

def removeKey (l : Lexer) : Except Failure Lexer :=
  match l.key? with
  | none => .ok l
  | some k =>
      if k.required then .error malformed
      else .ok { l with keys := l.keys.filter fun (level, _) => level != l.flowLevel }

/-- Remembers that a key may begin here. -/
def saveKey (l : Lexer) : Except Failure Lexer :=
  if l.allowKey then do
    let l ← l.removeKey
    let c := l.cursor
    let key : SimpleKey :=
      { number := l.tokens.length
        required := l.flowLevel == 0 && l.indent == c.column
        index := c.index, line := c.line, column := c.column }
    pure { l with keys := (l.flowLevel, key) :: l.keys }
  else .ok l

/-! ### Open blocks -/

/-- Closes the blocks that are indented by more than a column, given those around the innermost. -/
def closeBlocks (column : Int) : List Int → Lexer → Lexer
  | [], l => l
  | next :: outer, l =>
      if l.indent > column then
        closeBlocks column outer ({ l with indent := next, outer }.emit .blockEnd)
      else l

/-- Closes the blocks that are indented by more than a column; inside flow collections indentation
does not matter. -/
def unwind (column : Int) (l : Lexer) : Lexer :=
  if l.flowLevel = 0 then closeBlocks column l.outer l else l

/-- Opens a block at a column, unless one is open there. -/
def openBlock (column : Nat) (start : Lexer → Lexer) (l : Lexer) : Lexer :=
  if l.indent < column then start { l with indent := column, outer := l.indent :: l.outer } else l

/-! ### Tokens -/

/-- Skips spaces, comments and line breaks.  After a break a key may begin. -/
def skipBlank : Nat → Lexer → Lexer
  | 0, l => l
  | fuel + 1, l =>
      let c := l.cursor.skip (· == ' ')
      let c := if c.peek == '#' then c.skip fun ch => !isLineEnd ch else c
      if isBreak c.peek then
        skipBlank fuel { l with cursor := c.step, allowKey := l.allowKey || l.flowLevel == 0 }
      else { l with cursor := c }

/-- Leaves all blocks and keys behind, for a directive, a marker or the end. -/
def leaveAll (l : Lexer) : Except Failure Lexer := do
  let l ← (l.unwind (-1)).removeKey
  pure (l.allowing false)

def openFlow (t : Token) (l : Lexer) : Except Failure Lexer := do
  let l ← l.saveKey
  pure (({ l with flowLevel := l.flowLevel + 1, allowKey := true }.advance 1).emit t)

def closeFlow (t : Token) (l : Lexer) : Except Failure Lexer := do
  let l ← l.removeKey
  pure (({ l with flowLevel := l.flowLevel - 1, allowKey := false }.advance 1).emit t)

def flowEntry (l : Lexer) : Except Failure Lexer := do
  let l ← l.removeKey
  pure (((l.allowing true).advance 1).emit .flowEntry)

/-- A block may begin here where a key may. -/
def demandKey (l : Lexer) : Except Failure Unit :=
  if l.flowLevel = 0 && !l.allowKey then .error malformed else .ok ()

/-- Opens a block here, outside of flow collections. -/
def openBlockHere (t : Token) (l : Lexer) : Lexer :=
  if l.flowLevel = 0 then l.openBlock l.cursor.column (·.emit t) else l

/-- A hyphen before an item. -/
def blockEntry (l : Lexer) : Except Failure Lexer := do
  l.demandKey
  let l ← ((l.openBlockHere .blockSequenceStart).allowing true).removeKey
  pure ((l.advance 1).emit .blockEntry)

/-- A question mark before a key. -/
def announcedKey (l : Lexer) : Except Failure Lexer := do
  l.demandKey
  let l ← ((l.openBlockHere .blockMappingStart).allowing (l.flowLevel == 0)).removeKey
  pure ((l.advance 1).emit .key)

def value (l : Lexer) : Except Failure Lexer := do
  let l ← match l.key? with
    | some k =>
        let l := { l with keys := l.keys.filter fun (level, _) => level != l.flowLevel }
        let l := l.insert k.number .key
        let l :=
          if l.flowLevel = 0 then l.openBlock k.column (·.insert k.number .blockMappingStart) else l
        pure (l.allowing false)
    | none =>
        l.demandKey
        ((l.openBlockHere .blockMappingStart).allowing (l.flowLevel == 0)).removeKey
  pure ((l.advance 1).emit .value)

/-- Something that may be a simple key: an anchor, a reference, a tag or a scalar. -/
def possibleKey (read : Lexer → Except Failure (Token × Cursor)) (l : Lexer) :
    Except Failure Lexer := do
  let l ← l.saveKey
  let (t, cursor) ← read l
  pure ({ l with cursor, allowKey := false }.emit t)

def plainScalar (l : Lexer) : Except Failure Lexer := do
  let l ← l.saveKey
  let (text, cursor, crossed) := l.cursor.plainScalar (l.flowLevel != 0) (l.indent + 1)
  pure ({ l with cursor, allowKey := crossed }.emit (.scalar (String.ofList text) true))

def quotedScalar (mark : Char) (l : Lexer) : Except Failure (Token × Cursor) := do
  let (text, cursor) ← l.cursor.quotedScalar mark
  pure (.scalar (String.ofList text) false, cursor)

def blockScalar (folded : Bool) (l : Lexer) : Except Failure Lexer := do
  let l ← (l.allowing true).removeKey
  let (text, cursor) ← l.cursor.blockScalar folded l.indent
  pure ({ l with cursor }.emit (.scalar (String.ofList text) false))

/-- The characters that no plain scalar begins with, unless they are excused. -/
def indicators : List Char :=
  "-?:,[]{}#&*!|>'\"%@".toList ++ [Char.ofNat 0x60]

def atPlain (l : Lexer) : Bool :=
  let ch := l.cursor.peek
  !(isGap ch || indicators.contains ch) ||
    (!isGap (l.cursor.peekAt 1) &&
      (ch == '-' || (l.flowLevel == 0 && (ch == '?' || ch == ':'))))

def readToken (l : Lexer) : Except Failure Lexer :=
  let c := l.cursor
  let ch := c.peek
  let gap := isGap (c.peekAt 1)
  let inFlow := l.flowLevel != 0
  if ch == '%' && c.column == 0 then do
    let l ← l.leaveAll
    let (t, cursor) ← l.cursor.directive
    pure ({ l with cursor }.emit t)
  else if c.column == 0 && c.atMarker '-' then do
    pure (((← l.leaveAll).advance 3).emit .documentStart)
  else if c.column == 0 && c.atMarker '.' then do
    pure (((← l.leaveAll).advance 3).emit .documentEnd)
  else if ch == '[' then l.openFlow .flowSequenceStart
  else if ch == '{' then l.openFlow .flowMappingStart
  else if ch == ']' then l.closeFlow .flowSequenceEnd
  else if ch == '}' then l.closeFlow .flowMappingEnd
  else if ch == ',' then l.flowEntry
  else if ch == '-' && gap then l.blockEntry
  else if ch == '?' && (inFlow || gap) then l.announcedKey
  else if ch == ':' && (inFlow || gap) then l.value
  else if ch == '*' then
    l.possibleKey fun l => l.cursor.anchorName.map fun (name, c) => (.reference name, c)
  else if ch == '&' then
    l.possibleKey fun l => l.cursor.anchorName.map fun (name, c) => (.anchor name, c)
  else if ch == '!' then l.possibleKey fun l => l.cursor.tag
  else if ch == '|' && !inFlow then l.blockScalar false
  else if ch == '>' && !inFlow then l.blockScalar true
  else if ch == '\'' || ch == '"' then l.possibleKey (quotedScalar ch)
  else if l.atPlain then l.plainScalar
  else .error malformed

/-- Reads on to the next token; nothing at the end, where all blocks are closed. -/
def fetch (l : Lexer) : Except Failure (Lexer × Bool) := do
  let l ← (l.skipBlank (l.cursor.rest.length + 1)).dropStale
  let l := l.unwind l.cursor.column
  if l.cursor.atEnd then pure (← l.leaveAll, false)
  else pure (← l.readToken, true)

/-- Reads all tokens.  Each of them takes a character at least. -/
def run : Nat → Lexer → List Token
  | 0, l => l.tokens.reverse
  | fuel + 1, l =>
      match l.fetch with
      | .ok (l, true) => run fuel l
      | .ok (l, false) => l.tokens.reverse
      | .error f => (l.emit (.broken f)).tokens.reverse

end Lexer

/-- The tokens of a text with uniform line ends. -/
def tokens (text : List Char) : List Token :=
  if text.all isAllowed then
    let cursor : Cursor := { rest := text }
    let cursor := if isMark cursor.peek then cursor.step else cursor
    Lexer.run (text.length + 1) { cursor }
  else [.broken malformed]

end ServiceClient.Yaml
