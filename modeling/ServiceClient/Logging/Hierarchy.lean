/-
**Levels of loggers.**

Loggers have dotted names and form a hierarchy under the root, which has no name.  A logger without
a level of its own takes that of the nearest logger above it which has one.

Main definitions:

* `ServiceClient.Logging.levelNumber`: the number of a level name;
* `ServiceClient.Logging.Hierarchy`: loggers with a level of their own;
* `ServiceClient.Logging.Hierarchy.effective`: the level that counts for a logger.
-/

import ServiceClient.LogEvent

set_option autoImplicit false

namespace ServiceClient

def LogLevel.number : LogLevel → Nat
  | .debug => 10
  | .info => 20
  | .warning => 30
  | .error => 40
  | .critical => 50

namespace Logging

/-- The names of levels and their numbers. -/
def levelNames : List (String × Nat) :=
  [ ("CRITICAL", 50), ("FATAL", 50), ("ERROR", 40), ("WARN", 30), ("WARNING", 30), ("INFO", 20)
  , ("DEBUG", 10), ("NOTSET", 0) ]

/-- The number of a level name in upper case; any other name is as good as `INFO`. -/
def levelNumber (name : String) : Nat :=
  (levelNames.lookup name).getD LogLevel.info.number

/-- The levels of loggers, each under the name of its logger; the root has the empty name. -/
abbrev Hierarchy := List (String × Nat)

namespace Hierarchy

def initial : Hierarchy := [("", 30)]

/-- The name of a logger; the root is also called by its own name. -/
def canonical (name : String) : String :=
  if name = "root" then "" else name

/-- The level of a logger of its own; zero stands for none. -/
def own (h : Hierarchy) (name : String) : Nat :=
  (h.lookup (canonical name)).getD 0

def setLevel (name : String) (level : Nat) (h : Hierarchy) : Hierarchy :=
  (canonical name, level) :: h

/-- The names of the loggers above one, the nearest first and the root last.  `back` is its name in
reverse.  What precedes a point is a name unless it is empty. -/
def above : List Char → List String
  | [] => [""]
  | c :: back =>
      if c = '.' ∧ back ≠ [] then String.ofList back.reverse :: above (back.drop 1) else above back
termination_by back => back.length

/-- The first level of some loggers that is one. -/
def firstLevel (h : Hierarchy) : List String → Nat
  | [] => 0
  | name :: rest => if h.own name = 0 then firstLevel h rest else h.own name

/-- The level that counts for a logger. -/
def effective (h : Hierarchy) (name : String) : Nat :=
  h.firstLevel (canonical name :: above (canonical name).toList.reverse)

end Hierarchy

end Logging

end ServiceClient
