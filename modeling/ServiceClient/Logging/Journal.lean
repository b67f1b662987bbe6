/-
**Logging.**

A journal is configured from a configuration: a format, the level of the root, the level of the
loggers of the transport, and levels of other loggers.  Before that, loggers write every event to
the console.  A logger without a context settles on what is configured when it is used, and from
then on it stays with it; one with a context settles when it is made.

Main definitions:

* `ServiceClient.Logging.Journal`, `ServiceClient.Logging.Journal.configure`: the journal;
* `ServiceClient.Logging.Logger`, `ServiceClient.Logging.Journal.logger`: loggers;
* `ServiceClient.Logging.Journal.write`: what a logger writes for an event.
-/

import ServiceClient.Action
import ServiceClient.Config
import ServiceClient.Logging.Hierarchy
import ServiceClient.Text.LowerCase

set_option autoImplicit false

namespace ServiceClient.Logging

inductive Format
  | console | json
  deriving DecidableEq, Repr, Inhabited

def Format.name : Format → String
  | .console => "console"
  | .json => "json"

def Format.ofName? (name : String) : Option Format :=
  [.console, .json].find? fun f => f.name == name

def unknownFormat (name : String) : Failure :=
  .worded .value
    ("Unsupported log format '" ++ name ++ "', expected one of ['console', 'json']")

/-- What a logger writes for an event. -/
inductive Output
  /-- Some lines on the console. -/
  | lines (count : Nat)
  /-- A record on a line. -/
  | record (fields : Value.Entries)
  deriving Repr, Inhabited

structure Journal where
  rootLevel : String := "INFO"
  transportLevel : String := "WARNING"
  format : Format := .console
  /-- The levels of other loggers, each under the key that stands for its logger. -/
  moduleLevels : List (Value × String) := []
  levels : Hierarchy := .initial
  /-- Whether loggers write through the levels and in the format. -/
  configured : Bool := false
  deriving Repr, Inhabited

/-! ### Configuration -/

def formatKey : String := "odata.logging.format"

def levelKey : String := "odata.logging.level"

def transportKey : String := "odata.logging.transport"

/-- The entry of the level of the root. -/
def rootName : String := "root"

def transportLoggers : List String := ["httpx", "httpcore"]

def upperText (v : Value) : Except Failure String :=
  match v.text? with
  | some s => .ok (Text.upper s)
  | none => .error (.plain .value)

def readFormat (env : Environment) (c : Config) : Except Failure Format := do
  let v ← c.get env formatKey (.text "console")
  match v.text? with
  | none => throw (.plain .value)
  | some s =>
      match Format.ofName? (Text.lower s) with
      | some format => pure format
      | none => throw (unknownFormat (Text.lower s))

/-- The level of the root that a configuration asks for, as it is written there. -/
def readRoot (c : Config) : Except Failure String :=
  upperText ((Value.find? (.text rootName) (c.part levelKey)).getD (.text "INFO"))

/-- The levels of other loggers that a configuration asks for.  Their keys may be any values. -/
def readModules (c : Config) : Except Failure (List (Value × String)) :=
  ((c.part levelKey).filter fun (k, _) => !k.sameKey (.text rootName)).mapM fun (k, v) => do
    pure (k, ← upperText v)

def readTransport (env : Environment) (c : Config) : Except Failure String := do
  upperText (← c.get env transportKey (.text "WARNING"))

/-- The result of a computation that may fail. -/
def computed {α : Type} (r : Except Failure α) : Action Journal α :=
  match r with
  | .ok a => pure a
  | .error f => .raise f

/-- The name of the logger that a key stands for.  What is empty stands for the root, and what is
neither empty nor a text for no logger. -/
def loggerName : Value → Except Failure String
  | .text name => .ok name
  | key => if key.isEmpty then .ok "" else .error (.plain .type)

namespace Journal

/-- Sets the level of a logger by the name of the level. -/
def setLevel (name level : String) (s : Journal) : Journal :=
  { s with levels := s.levels.setLevel name (levelNumber (Text.upper level)) }

/-- Puts a format into effect, and the levels of the root and of the transport. -/
def apply (format : Format) (s : Journal) : Journal :=
  let named := ("", s.rootLevel) :: transportLoggers.map (·, s.transportLevel)
  named.foldl (fun s (name, level) => s.setLevel name level)
    { s with format, configured := true }

/-- Puts the levels of other loggers into effect, one after another; a key that stands for no logger
ends that. -/
def applyModules : List (Value × String) → Action Journal Unit
  | [] => pure ()
  | (key, level) :: rest => do
      let name ← computed (loggerName key)
      .modify (setLevel name level)
      applyModules rest

/-- Configures the journal.  What is read before a failure is kept, but nothing is put into effect
unless everything is read. -/
def configure (env : Environment) (c : Config) : Action Journal Unit := do
  let format ← computed (readFormat env c)
  let rootLevel ← computed (readRoot c)
  .modify fun s => { s with rootLevel }
  let moduleLevels ← computed (readModules c)
  .modify fun s => { s with moduleLevels }
  let transportLevel ← computed (readTransport env c)
  .modify fun s => { s with transportLevel }
  .modify (apply format)
  applyModules moduleLevels

end Journal

/-! ### Loggers -/

/-- What a logger has settled on. -/
inductive Settlement
  /-- Every event goes to the console. -/
  | unconfigured
  /-- Events go through the levels and are written in a format. -/
  | configured (format : Format)
  deriving DecidableEq, Repr, Inhabited

structure Logger where
  name : String
  context : Value.Entries := []
  /-- What the logger has settled on, if it has. -/
  settled : Option Settlement := none
  deriving Repr, Inhabited

namespace Journal

def settlement (s : Journal) : Settlement :=
  if s.configured then .configured s.format else .unconfigured

/-- A logger.  One with a context settles at once. -/
def logger (name : String) (context : Value.Entries) (s : Journal) : Logger where
  name := name
  context := context
  settled := if context.isEmpty then none else some s.settlement

/-- The number of lines that an event takes on the console. -/
def lineCount (event : String) : Nat :=
  1 + event.toList.count '\n'

/-- The record of an event: its fields over the context, and then what describes it. -/
def recordOf (l : Logger) (level : LogLevel) (event : String) (fields : Value.Entries) :
    Value.Entries :=
  let own : Value.Entries :=
    [ (.text "event", .text event)
    , (.text "logger", .text (if l.name = "" then rootName else l.name))
    , (.text "level", .text level.name), (.text "timestamp", .text "*") ]
  Value.ofEntries (l.context ++ fields ++ own)

/-- What a logger writes for an event, and the logger after it.  A logger that is used stays with
what is configured. -/
def write (l : Logger) (level : LogLevel) (event : String) (fields : Value.Entries) (s : Journal) :
    List Output × Logger :=
  match l.settled.getD s.settlement with
  | .unconfigured => ([.lines (lineCount event)], l)
  | .configured format =>
      let l := { l with settled := some (.configured format) }
      if s.levels.effective l.name ≤ level.number then
        match format with
        | .console => ([.lines (lineCount event)], l)
        | .json => ([.record (recordOf l level event fields)], l)
      else ([], l)

end Journal

end ServiceClient.Logging
