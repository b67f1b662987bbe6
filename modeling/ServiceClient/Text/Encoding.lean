/-
**Text in requests and responses.**

The body of a request may hold any code point, halves of surrogate pairs that stand alone included;
those have no encoding, so a question mark is sent in their place.  Line ends are sent as they are.

The bytes of a response are read by a machine that remembers how many continuation bytes the current
character still owes and in which interval the next one must lie; the interval excludes over-long
forms, encoded surrogates and numbers above the last code point.  A byte that does not continue the
character ends it: the part read so far was ill-formed and is shown as one replacement character, and
the byte starts anew.

A line of a response ends at a carriage return, a line feed, or the two together; nothing else ends
one.  A line keeps its end as a single line feed, and the last line may lack it.  Draining joins lines
so that every one of them, the last included, ends with a line feed.

Main definitions:

* `ServiceClient.Text.CodePoint`: a character, or half of a surrogate pair;
* `ServiceClient.Text.CodePoint.bytes`, `ServiceClient.Text.encode`: what is sent for a code point
  and for a text;
* `ServiceClient.Text.CodePoint.shown`: the character that stands for a code point in a text that
  holds characters only;
* `ServiceClient.Text.Utf8.State`, `ServiceClient.Text.Utf8.step`: the machine;
* `ServiceClient.Text.decode`: the text of any bytes, damage replaced;
* `ServiceClient.Text.decode?`: the text of well-formed bytes only;
* `ServiceClient.Text.lines`: the lines of a text, their ends made uniform;
* `ServiceClient.Text.drain`: the joined lines;
* `ServiceClient.Text.drainBytes`: what is left of a response body.
-/

set_option autoImplicit false

namespace ServiceClient.Text

/-! ### What is sent -/

/-- A code point: a character, or half of a surrogate pair standing alone. -/
inductive CodePoint
  | scalar (c : Char)
  | surrogate (half : Nat)
  deriving DecidableEq, Repr, Inhabited

def CodePoint.ofNat (n : Nat) : CodePoint :=
  if 0xD800 ≤ n ∧ n ≤ 0xDFFF then .surrogate n else .scalar (Char.ofNat n)

/-- The character that is sent for a code point: a surrogate has none of its own. -/
def CodePoint.sent : CodePoint → Char
  | .scalar c => c
  | .surrogate _ => '?'

def CodePoint.bytes (p : CodePoint) : List UInt8 :=
  String.utf8EncodeChar p.sent

/-- The character that stands for a code point where only characters can stand. -/
def CodePoint.shown : CodePoint → Char
  | .scalar c => c
  | .surrogate _ => Char.ofNat 0xFFFD

def encodeChars (cs : List Char) : List UInt8 :=
  cs.flatMap String.utf8EncodeChar

/-- The bytes that are sent for a text. -/
def encode (text : List CodePoint) : List UInt8 :=
  encodeChars (text.map CodePoint.sent)

/-- The code points of a text that holds characters only. -/
def codePoints (s : String) : List CodePoint :=
  s.toList.map .scalar

@[simp] theorem encodeChars_nil : encodeChars [] = [] := rfl

@[simp] theorem encodeChars_append (cs ds : List Char) :
    encodeChars (cs ++ ds) = encodeChars cs ++ encodeChars ds := by
  simp [encodeChars]

@[simp] theorem encode_nil : encode [] = [] := rfl

/-! ### What is read -/

namespace Utf8

/-- What the reader remembers between two bytes. -/
inductive State
  /-- No character is open. -/
  | idle
  /-- `owed + 1` continuation bytes are owed, the next one between `lo` and `hi`; `value` holds the
  bits read so far. -/
  | owing (owed : Nat) (lo hi : UInt8) (value : Nat)
  deriving DecidableEq, Repr, Inhabited

/-- The character shown for an ill-formed part. -/
def replacement : Char := Char.ofNat 0xFFFD

/-- Reads a byte that begins a character. -/
def start (b : UInt8) : List Char × State :=
  if b < 0x80 then ([Char.ofNat b.toNat], .idle)
  else if b < 0xC2 then ([replacement], .idle)
  else if b < 0xE0 then ([], .owing 0 0x80 0xBF (b.toNat - 0xC0))
  else if b = 0xE0 then ([], .owing 1 0xA0 0xBF 0)
  else if b = 0xED then ([], .owing 1 0x80 0x9F 13)
  else if b < 0xF0 then ([], .owing 1 0x80 0xBF (b.toNat - 0xE0))
  else if b = 0xF0 then ([], .owing 2 0x90 0xBF 0)
  else if b < 0xF4 then ([], .owing 2 0x80 0xBF (b.toNat - 0xF0))
  else if b = 0xF4 then ([], .owing 2 0x80 0x8F 4)
  else ([replacement], .idle)

/-- Reads one byte: the characters that it completes, and what is remembered after it. -/
def step : State → UInt8 → List Char × State
  | .idle, b => start b
  | .owing owed lo hi value, b =>
      if lo ≤ b ∧ b ≤ hi then
        let value := value * 64 + (b.toNat - 0x80)
        match owed with
        | 0 => ([Char.ofNat value], .idle)
        | owed + 1 => ([], .owing owed 0x80 0xBF value)
      else
        let (cs, s) := start b
        (replacement :: cs, s)

/-- The characters still owed to the reader when the bytes end. -/
def State.finish : State → List Char
  | .idle => []
  | .owing .. => [replacement]

/-- Reads bytes from a state on; `done` holds the characters before them in reverse. -/
def run : State → List UInt8 → List Char → List Char
  | s, [], done => done.reverse ++ s.finish
  | s, b :: bs, done => run (step s b).2 bs ((step s b).1.reverse ++ done)

end Utf8

/-- The characters of any bytes: one replacement character for each ill-formed part. -/
def decode (bytes : List UInt8) : List Char :=
  Utf8.run .idle bytes []

def decode? (bytes : List UInt8) : Option String :=
  String.fromUTF8? bytes.toByteArray

@[simp] theorem decode_nil : decode [] = [] := rfl

/-! ### Line by line -/

/-- The lines of a text; `line` holds the open line in reverse, `done` the lines before it. -/
def linesAfter (line : List Char) (done : List (List Char)) : List Char → List (List Char)
  | [] => if line.isEmpty then done.reverse else (line.reverse :: done).reverse
  | '\r' :: '\n' :: rest => linesAfter [] (('\n' :: line).reverse :: done) rest
  | '\r' :: rest => linesAfter [] (('\n' :: line).reverse :: done) rest
  | '\n' :: rest => linesAfter [] (('\n' :: line).reverse :: done) rest
  | c :: rest => linesAfter (c :: line) done rest

/-- The lines of a text, each with its end as a line feed. -/
def lines (cs : List Char) : List (List Char) :=
  linesAfter [] [] cs

/-- A line without the line feed at its end. -/
def chomp (line : List Char) : List Char :=
  if line.getLast? = some '\n' then line.dropLast else line

/-- Joins lines, a line feed after each of them. -/
def drain (ls : List (List Char)) : List Char :=
  ls.flatMap fun line => chomp line ++ ['\n']

/-- What is left of a body: its text, line by line. -/
def drainBytes (bytes : List UInt8) : String :=
  String.ofList (drain (lines (decode bytes)))

end ServiceClient.Text
