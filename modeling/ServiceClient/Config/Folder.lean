/-
**Files of configurations.**

A folder holds files under relative paths, and with them the folders on the way.  The suffix `.toml`
tells which of two formats a file has; all others have the other one.

Main definitions:

* `ServiceClient.Folder`, `ServiceClient.Folder.file?`: a folder, and the file at a path;
* `ServiceClient.FilePath`: paths;
* `ServiceClient.FileFormat`, `ServiceClient.FileFormat.read`: the value of a file.
-/

import ServiceClient.Text.Encoding
import ServiceClient.Toml.Document
import ServiceClient.Yaml.Value

set_option autoImplicit false

namespace ServiceClient

/-! ### Paths -/

/-- A path by its parts, none of which is empty or a point. -/
abbrev FilePath := List String

namespace FilePath

def ofText (s : String) : FilePath :=
  let parts := (Text.splitAt (· == '/') s.toList).map String.ofList
  parts.filter fun part => part != "" && part != "."

/-- The slashes at the front of a path: two of them are kept, any other number stands for one. -/
def root (s : String) : String :=
  match (s.toList.takeWhile (· == '/')).length with
  | 0 => ""
  | 2 => "//"
  | _ => "/"

/-- The text of a path below a folder.  What the folder is called is read as a path as well, so that
nothing is left of a point, or of more slashes than one between two parts. -/
def below (base : String) (path : FilePath) : String :=
  let text := root base ++ "/".intercalate (ofText base ++ path)
  if text.isEmpty then "." else text

/-- The suffix of a file name: its last point, which is neither the first nor the last character,
and what follows it. -/
def suffix (name : String) : String :=
  let cs := name.toList
  let ending := (cs.reverse.takeWhile (· != '.')).reverse
  if ending.isEmpty || ending.length + 1 ≥ cs.length then ""
  else String.ofList ('.' :: ending)

end FilePath

/-! ### Folders -/

/-- The contents of a folder: files, and folders without a content. -/
abbrev Folder := List (FilePath × Option (List UInt8))

namespace Folder

def isFolder (f : Folder) (path : FilePath) : Bool :=
  path.isEmpty || f.any fun (p, content) =>
    path.isPrefixOf p && (p != path || content.isNone)

/-- The place that a path leads to, where two points lead to the folder above. -/
def place? (f : Folder) (path : FilePath) : Option FilePath :=
  path.foldlM
    (fun here part =>
      if part = ".." then if here ≠ [] ∧ f.isFolder here then some here.dropLast else none
      else some (here ++ [part]))
    []

def file? (f : Folder) (path : FilePath) : Option (List UInt8) := do
  (← f.lookup (← f.place? path))

end Folder

/-! ### Formats -/

inductive FileFormat
  | yaml | toml
  deriving DecidableEq, Repr, Inhabited

namespace FileFormat

def ofPath (path : FilePath) : FileFormat :=
  if FilePath.suffix (path.getLast?.getD "") = ".toml" then .toml else .yaml

/-- A text with line feeds for all line ends. -/
def uniformLines : List Char → List Char
  | [] => []
  | '\r' :: '\n' :: rest => '\n' :: uniformLines rest
  | '\r' :: rest => '\n' :: uniformLines rest
  | c :: rest => c :: uniformLines rest

/-- A text with line feeds for carriage returns before line feeds. -/
def pairedLines : List Char → List Char
  | [] => []
  | '\r' :: '\n' :: rest => '\n' :: pairedLines rest
  | c :: rest => c :: pairedLines rest

/-- The value of a file.  What is empty stands for an empty mapping. -/
def read (format : FileFormat) (content : List UInt8) : Except Failure Value :=
  match Text.decode? content with
  | none => .error (.plain .decoding)
  | some s =>
      match format with
      | .toml => Toml.read (pairedLines s.toList)
      | .yaml => do
          let v ← Yaml.read (uniformLines s.toList)
          pure (if v.isEmpty then .mapping [] else v)

end FileFormat

end ServiceClient
