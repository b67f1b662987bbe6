/-
**TOML documents.**

A document is a mapping that its statements fill in: headers choose a table, or a new table at the
end of a list of tables, and pairs put a value under a dotted key of the chosen table.  No value is
written twice.  A table that was declared cannot be declared again, and what was written as one
value, an array or an inline table, cannot be added to.

Main definitions:

* `ServiceClient.Toml.Namespace`: the declared tables and the closed values;
* `ServiceClient.Toml.update?`: a change of the table at a dotted key;
* `ServiceClient.Toml.read`: the value of a text.
-/

import ServiceClient.Toml.Scalar

set_option autoImplicit false

namespace ServiceClient.Toml

abbrev Key := List String

/-! ### Tables -/

/-- Changes the table at a key.  Missing tables are made on the way, and through a list the way
leads to its last table, if `throughLists`. -/
def update? (throughLists : Bool) (change : Value.Entries → Option Value.Entries) :
    Key → Value.Entries → Option Value.Entries
  | [], es => change es
  | name :: rest, es => do
      let into := update? throughLists change rest
      let v ← match Value.find? (.text name) es with
        | none => (into []).map Value.mapping
        | some (.mapping inner) => (into inner).map Value.mapping
        | some (.list items) =>
            match throughLists, items.getLast? with
            | true, some (.mapping inner) =>
                (into inner).map fun inner => Value.list (items.dropLast ++ [.mapping inner])
            | _, _ => none
        | some _ => none
      pure (Value.put (.text name) v es)

/-- Puts a value under a name that is not in use. -/
def putNew (name : String) (v : Value) (es : Value.Entries) : Option Value.Entries :=
  match Value.find? (.text name) es with
  | none => some (Value.put (.text name) v es)
  | some _ => none

/-- Adds a table to the end of a list of tables. -/
def addTable (name : String) (es : Value.Entries) : Option Value.Entries :=
  match Value.find? (.text name) es with
  | none => some (Value.put (.text name) (.list [.mapping []]) es)
  | some (.list items) => some (Value.put (.text name) (.list (items ++ [.mapping []])) es)
  | some _ => none

/-! ### Namespaces -/

/-- What is known of a name. -/
inductive Mark
  /-- It is a table that was declared. -/
  | declared
  /-- It is a value that nothing can be added to, neither here nor below. -/
  | closed
  deriving DecidableEq, Repr, Inhabited

/-- The names of which something is known. -/
abbrev Namespace := List (Key × Mark)

namespace Namespace

def isDeclared (key : Key) (n : Namespace) : Bool :=
  n.contains (key, .declared)

/-- Whether a name is a closed value, or lies below one. -/
def isClosed (key : Key) (n : Namespace) : Bool :=
  n.any fun (k, mark) => mark == .closed && k.isPrefixOf key

def note (key : Key) (mark : Mark) (n : Namespace) : Namespace :=
  (key, mark) :: n

/-- Forgets what is known of a name and of those below it. -/
def forget (key : Key) (n : Namespace) : Namespace :=
  n.filter fun (k, _) => !key.isPrefixOf k

end Namespace

/-- Whether a value is a container, and so closed once it is written. -/
def isContainer : Value → Bool
  | .mapping _ | .list _ => true
  | _ => false

/-! ### Keys -/

def isBare (c : Char) : Bool := c.isAlphanum || c == '-' || c == '_'

def keyPart (cs : List Char) : Except Failure (String × List Char) :=
  match cs with
  | '\'' :: rest => literalLine rest
  | '"' :: rest => basicLine rest
  | _ =>
      let name := cs.takeWhile isBare
      if name.isEmpty then .error malformed else .ok (String.ofList name, cs.dropWhile isBare)

/-- The parts of a key that follow its first one, and spacing. -/
def keyRest : Nat → List Char → Except Failure (Key × List Char)
  | 0, _ => .error malformed
  | fuel + 1, cs =>
      match skipSpacing cs with
      | '.' :: rest => do
          let (part, rest) ← keyPart (skipSpacing rest)
          let (more, rest) ← keyRest fuel rest
          pure (part :: more, rest)
      | rest => .ok ([], rest)

def key (cs : List Char) : Except Failure (Key × List Char) := do
  let (part, rest) ← keyPart cs
  let (more, rest) ← keyRest (rest.length + 1) rest
  pure (part :: more, rest)

/-! ### Values -/

/-- Skips a comment, up to the end of its line. -/
def skipComment (cs : List Char) : Except Failure (List Char) :=
  match cs with
  | '#' :: rest =>
      if (rest.takeWhile (· != '\n')).any isControl then .error malformed
      else .ok (rest.dropWhile (· != '\n'))
  | cs => .ok cs

/-- Skips blanks and comments in an array. -/
def skipBlank : Nat → List Char → Except Failure (List Char)
  | 0, cs => .ok cs
  | fuel + 1, cs => do
      let rest ← skipComment (cs.dropWhile fun c => isSpacing c || c == '\n')
      if rest.length = cs.length then pure rest else skipBlank fuel rest

/-- Skips blanks and comments, all of them. -/
def skipBlanks (cs : List Char) : Except Failure (List Char) :=
  skipBlank (cs.length + 1) cs

def simpleValue (cs : List Char) : Except Failure (Value × List Char) :=
  match stringValue? cs with
  | some r => r.map fun (s, rest) => (.text s, rest)
  | none =>
      match strip? "true".toList cs, strip? "false".toList cs with
      | some rest, _ => .ok (.bool true, rest)
      | _, some rest => .ok (.bool false, rest)
      | none, none =>
          (moment? cs <|> number? cs).getD ((namedNumber? cs).elim (.error malformed) .ok)

/-- Puts a pair into an inline table.  Nothing is added to what was written as one value. -/
def putInline (k : Key) (v : Value) (closed : Namespace) (es : Value.Entries) :
    Except Failure Value.Entries :=
  match closed.isClosed k, k.getLast? with
  | false, some name =>
      match update? false (putNew name v) k.dropLast es with
      | some es => .ok es
      | none => .error malformed
  | _, _ => .error malformed

mutual

def value : Nat → List Char → Except Failure (Value × List Char)
  | 0, _ => .error malformed
  | fuel + 1, cs =>
      match cs with
      | '[' :: rest => do
          let rest ← skipBlanks rest
          match rest with
          | ']' :: rest => pure (.list [], rest)
          | rest =>
              let (items, rest) ← arrayItems fuel rest
              pure (.list items, rest)
      | '{' :: rest =>
          match skipSpacing rest with
          | '}' :: rest => .ok (.mapping [], rest)
          | rest => (inlinePairs [] [] fuel rest).map fun (es, rest) => (.mapping es, rest)
      | cs => simpleValue cs

/-- The items of an array; a comma may follow the last one. -/
def arrayItems : Nat → List Char → Except Failure (List Value × List Char)
  | 0, _ => .error malformed
  | fuel + 1, cs => do
      let (v, rest) ← value fuel cs
      match ← skipBlanks rest with
      | ']' :: rest => pure ([v], rest)
      | ',' :: rest =>
          match ← skipBlanks rest with
          | ']' :: rest => pure ([v], rest)
          | rest =>
              let (items, rest) ← arrayItems fuel rest
              pure (v :: items, rest)
      | _ => throw malformed

/-- The pairs of an inline table; no comma follows the last one. -/
def inlinePairs (closed : Namespace) (es : Value.Entries) :
    Nat → List Char → Except Failure (Value.Entries × List Char)
  | 0, _ => .error malformed
  | fuel + 1, cs => do
      let (k, rest) ← key cs
      match rest with
      | '=' :: rest =>
          let (v, rest) ← value fuel (skipSpacing rest)
          let es ← putInline k v closed es
          match skipSpacing rest with
          | '}' :: rest => pure (es, rest)
          | ',' :: rest =>
              let closed := if isContainer v then closed.note k .closed else closed
              inlinePairs closed es fuel (skipSpacing rest)
          | _ => throw malformed
      | _ => throw malformed

end

/-! ### Statements -/

/-- A document while its statements are read. -/
structure Document where
  root : Value.Entries := []
  names : Namespace := []
  /-- The tables that count as declared from the next header on. -/
  pending : List Key := []
  /-- The table chosen by the last header. -/
  header : Key := []
  deriving Repr, Inhabited

namespace Document

/-- Lets pending tables count as declared. -/
def settle (d : Document) : Document :=
  { d with names := d.pending.map (·, .declared) ++ d.names, pending := [] }

def declareTable (k : Key) (d : Document) : Except Failure Document :=
  let d := d.settle
  if d.names.isDeclared k || d.names.isClosed k then .error malformed
  else
    match update? true some k d.root with
    | some root => .ok { d with root, names := d.names.note k .declared, header := k }
    | none => .error malformed

/-- Adds a table to a list of tables and chooses it. -/
def addToList (k : Key) (d : Document) : Except Failure Document :=
  let d := d.settle
  if d.names.isClosed k then .error malformed
  else
    match k.getLast?.bind fun name => update? true (addTable name) k.dropLast d.root with
    | some root =>
        .ok { d with root, names := (d.names.forget k).note k .declared, header := k }
    | none => .error malformed

/-- The tables on the way to a key, from the chosen one on. -/
def tablesTo (k : Key) (d : Document) : List Key :=
  (List.range (k.length - 1)).map fun i => d.header ++ k.take (i + 1)

/-- Puts a value under a key of the chosen table. -/
def assign (k : Key) (v : Value) (d : Document) : Except Failure Document :=
  let tables := d.tablesTo k
  let parent := d.header ++ k.dropLast
  if tables.any d.names.isDeclared || d.names.isClosed parent then .error malformed
  else
    match k.getLast?.bind fun name => update? true (putNew name v) parent d.root with
    | some root =>
        let names := if isContainer v then d.names.note (d.header ++ k) .closed else d.names
        .ok { d with root, names, pending := tables ++ d.pending }
    | none => .error malformed

/-- Reads one statement; a line may be blank or hold a comment only. -/
def statement (cs : List Char) (d : Document) : Except Failure (Document × List Char) := do
  match cs with
  | '[' :: '[' :: rest =>
      let (k, rest) ← key (skipSpacing rest)
      match strip? [']', ']'] rest with
      | some rest => pure (← d.addToList k, rest)
      | none => throw malformed
  | '[' :: rest =>
      let (k, rest) ← key (skipSpacing rest)
      match strip? [']'] rest with
      | some rest => pure (← d.declareTable k, rest)
      | none => throw malformed
  | [] | '#' :: _ | '\n' :: _ => pure (d, cs)
  | cs =>
      let (k, rest) ← key cs
      match rest with
      | '=' :: rest =>
          let (v, rest) ← value (2 * rest.length + 4) (skipSpacing rest)
          pure (← d.assign k v, rest)
      | _ => throw malformed

/-- Reads all statements, one on a line. -/
def statements : Nat → List Char → Document → Except Failure Document
  | 0, _, d => .ok d
  | fuel + 1, cs, d => do
      let (d, rest) ← d.statement (skipSpacing cs)
      match ← skipComment (skipSpacing rest) with
      | [] => pure d
      | '\n' :: rest => statements fuel rest d
      | _ => throw malformed

end Document

/-- The value of a text with uniform line ends. -/
def read (text : List Char) : Except Failure Value := do
  let d ← Document.statements (text.length + 1) text {}
  pure (.mapping d.root)

end ServiceClient.Toml
