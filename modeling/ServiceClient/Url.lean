/-
**URLs.**

A URL is kept in its normal form: scheme and host in lower case, the default port of a scheme left
out, dot segments of an absolute path resolved, unsafe characters escaped.  A text is a URL unless
it is too long, holds a control character, or has an ill-formed port, host or path.

Main definitions:

* `ServiceClient.Url`: a URL by its components;
* `ServiceClient.Url.parse?`: the URL of a text;
* `ServiceClient.Url.render`: the text of a URL;
* `ServiceClient.Url.join?`: a reference resolved against a URL;
* `ServiceClient.Url.sameOrigin`: whether two URLs lead to the same place.
-/

import ServiceClient.Url.Host

set_option autoImplicit false

namespace ServiceClient

/-- A URL by its components.  A host in a numeric form of the newer version has no brackets. -/
structure Url where
  scheme : String := ""
  user : String := ""
  host : String := ""
  port : Option Int := none
  path : String := ""
  query : Option String := none
  fragment : Option String := none
  deriving DecidableEq, Repr, Inhabited

namespace Url

/-! ### Taking a text apart -/

/-- The components of a text, as it writes them. -/
structure Parts where
  scheme : List Char := []
  authority : Option (List Char) := none
  path : List Char := []
  query : Option (List Char) := none
  fragment : Option (List Char) := none

/-- A character that a scheme can go on with. -/
def isSchemeChar (c : Char) : Bool :=
  c.isAlphanum || c == '+' || c == '.' || c == '-'

/-- Splits off a scheme and its colon; the scheme may be empty. -/
def splitScheme (cs : List Char) : List Char × List Char :=
  let (front, back) := cs.span isSchemeChar
  match back with
  | ':' :: rest =>
      match front with
      | [] => ([], rest)
      | c :: _ => if c.isAlpha then (front, rest) else ([], cs)
  | _ => ([], cs)

def split (cs : List Char) : Parts :=
  let (scheme, rest) := splitScheme cs
  let (authority, rest) :=
    match rest with
    | '/' :: '/' :: rest =>
        let (a, rest) := rest.span fun c => !(['/', '?', '#'].contains c)
        (some a, rest)
    | rest => (none, rest)
  let (path, rest) := rest.span fun c => !(['?', '#'].contains c)
  let (query, rest) :=
    match rest with
    | '?' :: rest =>
        let (q, rest) := rest.span (· != '#')
        (some q, rest)
    | rest => (none, rest)
  let fragment :=
    match rest with
    | '#' :: f => some f
    | _ => none
  { scheme, authority, path, query, fragment }

/-- Splits a list after the last element of a class: what precedes it, and what follows it. -/
def splitLast (isMark : Char → Bool) (cs : List Char) : Option (List Char × List Char) :=
  let back := cs.reverse.takeWhile fun c => !isMark c
  if back.length < cs.length then
    some (cs.take (cs.length - back.length - 1), back.reverse)
  else none

/-- The user, the host and the port of an authority. -/
def splitAuthority (cs : List Char) : List Char × List Char × List Char :=
  let (user, rest) := (splitLast (· == '@') cs).getD ([], cs)
  let (host, port) :=
    match (if rest.head? = some '[' then splitLast (· == ']') rest else none) with
    | some (inside, after) => (inside ++ [']'], after)
    | none => rest.span fun c => c != ':' && c != '@'
  (user, host, if port.head? = some ':' then port.tail else port)

/-! ### Normal forms of components -/

def impliedPort? (scheme : String) : Option Int :=
  [("ftp", 21), ("http", 80), ("https", 443), ("ws", 80), ("wss", 443)].lookup scheme

def port? (scheme : String) (cs : List Char) : Option (Option Int) :=
  if cs.isEmpty then some none
  else (Text.freeInteger? cs).map fun n => if impliedPort? scheme = some n then none else some n

/-- The dot segments of a path resolved. -/
def resolveDots (path : List Char) : List Char :=
  let segments := Text.splitAt (· == '/') path
  if segments.contains ['.'] || segments.contains ['.', '.'] then
    let kept := segments.foldl
      (fun kept s =>
        if s = ['.'] then kept
        else if s = ['.', '.'] then if kept = [] ∨ kept = [[]] then kept else kept.dropLast
        else kept ++ [s])
      []
    (kept.intersperse ['/']).flatten
  else path

/-- Whether a path can stand in a URL with or without a scheme and an authority. -/
def pathFits (hasScheme hasAuthority : Bool) (path : List Char) : Bool :=
  (!hasAuthority || path.isEmpty || path.head? == some '/') &&
    (hasScheme || hasAuthority || !(path.take 2 == ['/', '/'] || path.head? == some ':'))

/-! ### Putting a URL together -/

/-- The URL of components as a text writes them. -/
def assemble? (scheme user host : List Char) (port : List Char) (path : List Char)
    (query fragment : Option (List Char)) : Option Url := do
  let user := escape userSafe user
  let host ← host? host
  let port ← port? (String.ofList scheme) port
  let hasScheme := !scheme.isEmpty
  let hasAuthority := !user.isEmpty || !host.isEmpty || port.isSome
  if pathFits hasScheme hasAuthority path then
    let path := if hasScheme || hasAuthority then resolveDots path else path
    some
      { scheme := String.ofList (scheme.map Char.toLower)
        user := String.ofList user
        host := String.ofList host
        port
        path := String.ofList (escape pathSafe path)
        query := query.map fun q => String.ofList (escape querySafe q)
        fragment := fragment.map fun f => String.ofList (escape fragmentSafe f) }
  else none

/-- The most characters that a URL may have. -/
def maxLength : Nat := 65536

/-- A character that no URL may hold. -/
def isControl (c : Char) : Bool := c.toNat < 32 || c.toNat == 127

def parse? (text : String) : Option Url :=
  let cs := text.toList
  if cs.length > maxLength || cs.any isControl then none
  else
    let parts := split cs
    let (user, host, port) := splitAuthority (parts.authority.getD [])
    assemble? parts.scheme user host port parts.path parts.query parts.fragment

def withHost? (u : Url) (host : String) : Option Url :=
  let host := if host.toList.contains ':' then '[' :: host.toList ++ [']'] else host.toList
  assemble? u.scheme.toList u.user.toList host ((u.port.map toString).getD "").toList
    u.path.toList (u.query.map String.toList) (u.fragment.map String.toList)

/-! ### Texts -/

/-- The host and the port of a URL. -/
def location (u : Url) : String :=
  (if u.host.toList.contains ':' then "[" ++ u.host ++ "]" else u.host) ++
    (u.port.map fun n => ":" ++ toString n).getD ""

def authority (u : Url) : String :=
  (if u.user.isEmpty then "" else u.user ++ "@") ++ u.location

def render (u : Url) : String :=
  (if u.scheme.isEmpty then "" else u.scheme ++ ":") ++
    (if u.authority.isEmpty then "" else "//" ++ u.authority) ++ u.path ++
    (u.query.map fun q => "?" ++ q).getD "" ++ (u.fragment.map fun f => "#" ++ f).getD ""

/-- The name and the password that a URL carries. -/
def credentials (u : Url) : List Char × List Char :=
  let (name, rest) := u.user.toList.span (· != ':')
  (unescape name, unescape rest.tail)

/-! ### References -/

/-- A URL that leads somewhere by itself. -/
def isAbsolute (u : Url) : Bool :=
  !u.scheme.isEmpty && !u.host.isEmpty

def resolvePath (base path : List Char) : List Char :=
  let own := Text.splitAt (· == '/') path
  let segments :=
    if path.head? = some '/' then own
    else
      let parts := Text.splitAt (· == '/') base
      let parts := if parts.getLast? = some [] then parts else parts.dropLast
      let all := parts ++ own
      all.take 1 ++ ((all.drop 1).dropLast.filter fun s => !s.isEmpty) ++
        (all.drop 1).getLast?.toList
  let kept := segments.foldl
    (fun kept s =>
      if s = ['.', '.'] then kept.dropLast
      else if s = ['.'] then kept
      else kept ++ [s])
    []
  let kept :=
    if segments.getLast? = some ['.'] ∨ segments.getLast? = some ['.', '.'] then kept ++ [[]]
    else kept
  let joined := (kept.intersperse ['/']).flatten
  if joined.isEmpty then ['/'] else joined

/-- A query or a fragment that says something. -/
def nonEmpty (s : Option String) : Option String :=
  s.filter fun t => !t.isEmpty

/-- The components of a reference without a scheme, resolved against a URL. -/
def resolve (base reference : Url) : Url :=
  if !reference.authority.isEmpty then { reference with scheme := base.scheme }
  else if reference.path.isEmpty then
    { base with
      query := nonEmpty reference.query <|> base.query
      fragment := reference.fragment }
  else
    { base with
      path := String.ofList (resolvePath base.path.toList reference.path.toList)
      query := reference.query
      fragment := reference.fragment }

/-- A reference without a scheme, resolved against a URL. -/
def join? (base reference : Url) : Option Url :=
  if reference.render.isEmpty then parse? base.render
  else
    let u := resolve base reference
    parse? { u with query := nonEmpty u.query, fragment := nonEmpty u.fragment }.render

/-! ### Origins -/

/-- The port of a URL, the implied one included. -/
def effectivePort (u : Url) : Option Int :=
  u.port <|> impliedPort? u.scheme

/-- Two URLs with the same scheme, host and port. -/
def sameOrigin (u v : Url) : Bool :=
  u.scheme == v.scheme && u.host == v.host && u.effectivePort == v.effectivePort

/-- A step from the open to the secured protocol at the usual ports of one host. -/
def isUpgrade (u v : Url) : Bool :=
  u.host == v.host && u.scheme == "http" && u.effectivePort == some 80 && v.scheme == "https" &&
    v.effectivePort == some 443

end Url

end ServiceClient
