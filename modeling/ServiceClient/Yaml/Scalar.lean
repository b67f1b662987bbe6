/-
**Scalars of a YAML text.**

A scalar stands as it is, between quotes, or as a block of lines of its own.  Lines that follow one
another within a scalar are folded into one, except in a literal block.

Main definitions:

* `ServiceClient.Yaml.Cursor.plainScalar`: a scalar as it stands;
* `ServiceClient.Yaml.Cursor.quotedScalar`: a scalar between quotes;
* `ServiceClient.Yaml.Cursor.blockScalar`: a literal or folded block.
-/

import ServiceClient.Text.Integer
import ServiceClient.Yaml.Cursor

set_option autoImplicit false

namespace ServiceClient.Yaml

def isSpacing (c : Char) : Bool := c == ' ' || c == '\t'

/-- The text of a line break, and what follows the break and the breaks after it: a single break
is folded into a space, and of several the first one is dropped. -/
def folding (first : Char) (more : List Char) : List Char :=
  if first ≠ '\n' then first :: more
  else if more.isEmpty then [' ']
  else more

namespace Cursor

/-! ### Scalars as they stand -/

/-- How many characters a plain scalar takes before a gap or an indicator. -/
def plainLength (inFlow : Bool) : List Char → Nat
  | [] => 0
  | ch :: rest =>
      let next := rest.head?.getD beyond
      let closing := [',', '[', ']', '{', '}']
      if isGap ch || (ch == ':' && (isGap next || (inFlow && closing.contains next))) ||
          (inFlow && (ch == '?' || closing.contains ch)) then 0
      else plainLength inFlow rest + 1

/-- The breaks and the indentation before the next line of a plain scalar; none if a document ends
there. -/
def plainBreaks : Nat → Cursor → Option (List Char) × Cursor
  | 0, c => (some [], c)
  | fuel + 1, c =>
      if c.peek == ' ' then plainBreaks fuel c.step
      else if isBreak c.peek then
        let next := c.step
        if next.atAnyMarker then (none, next)
        else
          let (more, last) := plainBreaks fuel next
          (more.map (breakText c.peek :: ·), last)
      else (some [], c)

/-- What stands between two runs of a plain scalar, and whether it holds a line break. -/
def plainSpaces (c : Cursor) : List Char × Cursor × Bool :=
  let (spaces, c) := c.span (· == ' ')
  if isBreak c.peek then
    let next := c.step
    if next.atAnyMarker then ([], next, true)
    else
      match plainBreaks next.rest.length next with
      | (some more, last) => (folding (breakText c.peek) more, last, true)
      | (none, last) => ([], last, true)
  else (spaces, c, false)

/-- The runs of a plain scalar from here on, after some spaces. -/
def plainRuns (inFlow : Bool) (indent : Int) :
    Nat → List Char → Bool → Cursor → List Char × Cursor × Bool
  | 0, _, crossed, c => ([], c, crossed)
  | fuel + 1, spaces, crossed, c =>
      let length := if c.peek == '#' then 0 else plainLength inFlow c.rest
      if length = 0 then ([], c, crossed)
      else
        let run := spaces ++ c.rest.take length
        let (spaces, c, crossed) := plainSpaces (c.forward length)
        if spaces.isEmpty || c.peek == '#' || (!inFlow && decide ((c.column : Int) < indent)) then
          (run, c, crossed)
        else
          let (more, c, crossed) := plainRuns inFlow indent fuel spaces crossed c
          (run ++ more, c, crossed)

/-- A scalar as it stands, which no line may continue that is indented less than `indent`.  The flag
tells that it ended with a line break. -/
def plainScalar (inFlow : Bool) (indent : Int) (c : Cursor) : List Char × Cursor × Bool :=
  plainRuns inFlow indent (c.rest.length + 1) [] false c

/-! ### Scalars between quotes -/

/-- The breaks and the spacing before the next line between quotes. -/
def quotedBreaks : Nat → Cursor → Except Failure (List Char × Cursor)
  | 0, c => .ok ([], c)
  | fuel + 1, c =>
      if c.atAnyMarker then .error malformed
      else
        let c := c.skip isSpacing
        if isBreak c.peek then do
          let (more, last) ← quotedBreaks fuel c.step
          pure (breakText c.peek :: more, last)
        else .ok ([], c)

def quotedSpaces (c : Cursor) : Except Failure (List Char × Cursor) := do
  let (spaces, c) := c.span isSpacing
  if c.atEnd then throw malformed
  else if isBreak c.peek then
    let (more, last) ← quotedBreaks (c.rest.length + 1) c.step
    pure (folding (breakText c.peek) more, last)
  else pure (spaces, c)

/-- The character that an escape of one letter stands for. -/
def escaped? (c : Char) : Option Char :=
  ([('0', 0x00), ('a', 0x07), ('b', 0x08), ('t', 0x09), ('\t', 0x09), ('n', 0x0A), ('v', 0x0B),
    ('f', 0x0C), ('r', 0x0D), ('e', 0x1B), (' ', 0x20), ('"', 0x22), ('\\', 0x5C), ('/', 0x2F),
    ('N', 0x85), ('_', 0xA0), ('L', 0x2028), ('P', 0x2029)].lookup c).map Char.ofNat

/-- How many hexadecimal digits follow a letter of an escape. -/
def escapeLength? (c : Char) : Option Nat :=
  [('x', 2), ('u', 4), ('U', 8)].lookup c

/-- What stands for an escape, which begins after its backslash. -/
def quotedEscape (c : Cursor) : Except Failure (List Char × Cursor) :=
  match escaped? c.peek with
  | some ch => .ok ([ch], c.step)
  | none =>
      match escapeLength? c.peek with
      | some length =>
          let digits := c.step.rest.take length
          match digits.mapM Text.hexDigit? with
          | some ds =>
              if ds.length = length then
                let code := Text.number 16 ds
                if code < 0x110000 then .ok ([Char.ofNat code], c.step.forward length)
                else .error (.plain .value)
              else .error malformed
          | none => .error malformed
      | none =>
          if isBreak c.peek then quotedBreaks (c.rest.length + 1) c.step
          else .error malformed

/-- What stands between quotes from here on, and the place after the closing quote. -/
def quotedRest (mark : Char) : Nat → Cursor → Except Failure (List Char × Cursor)
  | 0, _ => .error malformed
  | fuel + 1, c => do
      let ch := c.peek
      let (part, next) ←
        if ch == mark then
          if mark == '\'' && c.peekAt 1 == mark then pure ([mark], c.forward 2)
          else return ([], c.step)
        else if mark == '"' && ch == '\\' then quotedEscape c.step
        else if isGap ch then quotedSpaces c
        else pure ([ch], c.step)
      let (more, last) ← quotedRest mark fuel next
      pure (part ++ more, last)

/-- A scalar between quotes, from its opening quote on. -/
def quotedScalar (mark : Char) (c : Cursor) : Except Failure (List Char × Cursor) :=
  quotedRest mark (c.rest.length + 1) c.step

/-! ### Blocks -/

/-- What happens to the line breaks at the end of a block. -/
inductive Chomping
  | clip | strip | keep
  deriving DecidableEq, Repr, Inhabited

/-- The chomping that an indicator asks for. -/
def chomping? (c : Char) : Option Chomping :=
  if c = '+' then some .keep else if c = '-' then some .strip else none

/-- Skips the rest of a line that may hold spaces and a comment only. -/
def endLine (c : Cursor) : Except Failure Cursor :=
  let c := c.skip (· == ' ')
  let c := if c.peek == '#' then c.skip fun ch => !isLineEnd ch else c
  if isLineEnd c.peek then .ok c.step else .error malformed

/-- The indicators of a block: its chomping, and how far it is indented. -/
def blockHeader (c : Cursor) : Except Failure (Chomping × Option Nat × Cursor) := do
  let (chomping, c) := match chomping? c.peek with
    | some chomping => (some chomping, c.step)
    | none => (none, c)
  let (increment, c) ← match Text.asciiDigit? c.peek with
    | some 0 => throw malformed
    | some n => pure (some n, c.step)
    | none => pure (none, c)
  let (chomping, c) := match chomping, increment, chomping? c.peek with
    | none, some _, some chomping => (some chomping, c.step)
    | chomping, _, _ => (chomping, c)
  if isSpaceOrEnd c.peek then pure (chomping.getD .clip, increment, ← endLine c)
  else throw malformed

def indentTo (column : Nat) (c : Cursor) : Cursor :=
  c.forward (min (c.rest.takeWhile (· == ' ')).length (column - c.column))

/-- The breaks before the next line of a block, and the indentation of that line. -/
def blockBreaks (indent : Nat) : Nat → Cursor → List Char × Cursor
  | 0, c => ([], c)
  | fuel + 1, c =>
      let c := c.indentTo indent
      if isBreak c.peek then
        let (more, last) := blockBreaks indent fuel c.step
        (breakText c.peek :: more, last)
      else ([], c)

/-- The breaks before the first line of a block, and the greatest column that is reached. -/
def blockMargin : Nat → Nat → Cursor → List Char × Nat × Cursor
  | 0, widest, c => ([], widest, c)
  | fuel + 1, widest, c =>
      if c.peek == ' ' then blockMargin fuel (max widest c.step.column) c.step
      else if isBreak c.peek then
        let (more, widest, last) := blockMargin fuel widest c.step
        (breakText c.peek :: more, widest, last)
      else ([], widest, c)

/-- The lines of a block: their text, the last break, the breaks after it, and the place behind. -/
structure Block where
  text : List Char
  lastBreak : List Char
  breaks : List Char
  after : Cursor

/-- The lines of a block, after some breaks. -/
def blockLines (folded : Bool) (indent : Nat) : Nat → List Char → Cursor → Block
  | 0, breaks, c => ⟨[], [], breaks, c⟩
  | fuel + 1, breaks, c =>
      if c.column = indent && !c.atEnd then
        let solid := !isSpacing c.peek
        let (line, c) := c.span fun ch => !isLineEnd ch
        let lastBreak := if c.atEnd then [] else [breakText c.peek]
        let (next, c) := blockBreaks indent (c.rest.length + 1) c.step
        if c.column = indent && !c.atEnd then
          let joint :=
            if folded && lastBreak == ['\n'] && solid && !isSpacing c.peek then
              if next.isEmpty then [' '] else []
            else lastBreak
          let more := blockLines folded indent fuel next c
          { more with text := breaks ++ line ++ joint ++ more.text }
        else ⟨breaks ++ line, lastBreak, next, c⟩
      else ⟨[], [], breaks, c⟩

/-- A block, from its indicator on, inside a block that is indented by `outer`. -/
def blockScalar (folded : Bool) (outer : Int) (c : Cursor) :
    Except Failure (List Char × Cursor) := do
  let (chomping, increment, c) ← blockHeader c.step
  let least := max (outer + 1) 1 |>.toNat
  let fuel := c.rest.length + 1
  let (breaks, indent, c) := match increment with
    | some n =>
        let indent := least + n - 1
        let (breaks, c) := blockBreaks indent fuel c
        (breaks, indent, c)
    | none =>
        let (breaks, widest, c) := blockMargin fuel 0 c
        (breaks, max least widest, c)
  let block := blockLines folded indent fuel breaks c
  let ending := match chomping with
    | .clip => block.lastBreak
    | .strip => []
    | .keep => block.lastBreak ++ block.breaks
  pure (block.text ++ ending, block.after)

end Cursor

end ServiceClient.Yaml
