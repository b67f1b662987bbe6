/-
**Where configurations come from.**

A configuration is put together in layers: bundled defaults, the files of a folder and of the folder
`config` in it, and the files of the profiles that are active.  Each layer is laid over those before
it.

Main definitions:

* `ServiceClient.Config.defaults`: the bundled defaults;
* `ServiceClient.Config.ofFile`: the configuration of one file;
* `ServiceClient.Config.ofFolder`: the configuration of a folder.
-/

import ServiceClient.Config
import ServiceClient.Config.Folder

set_option autoImplicit false

namespace ServiceClient.Config

/-- The name of the files of a configuration, without suffix. -/
def stem : String := "odata-client"

def bundled : Value.Entries :=
  [(.text "odata", .mapping
    [ (.text "client", .mapping [(.text "timeout", .int 45000), (.text "proxy_port", .int 8888)])
    , (.text "logging", .mapping
        [ (.text "format", .text "console")
        , (.text "level", .mapping [(.text "root", .text "INFO")])
        , (.text "transport", .text "WARNING") ]) ])]

/-- What is loaded first: the bundled defaults, or nothing. -/
def defaults (load : Bool) : Config :=
  if load then
    { data := .mapping bundled, sources := [stem ++ "-defaults.yaml (bundled defaults)"] }
  else {}

/-- Lays a value over a configuration; it has to be a mapping. -/
def layer (c : Config) (v : Value) (source : String) : Except Failure Config :=
  match v with
  | .mapping upper =>
      .ok { data := .mapping (Value.merge c.data.entries upper), sources := c.sources ++ [source] }
  | _ => .error (.plain .attribute)

/-- Lays the file at a path over a configuration, if there is one. -/
def layerFile (f : Folder) (c : Config) (path : FilePath) (source : String) :
    Except Failure Config :=
  match f.file? path with
  | none => .ok c
  | some content => do c.layer (← (FileFormat.ofPath path).read content) source

/-- The configuration of the file at a path; `base` is what the folder is called. -/
def ofFile (base : String) (f : Folder) (path : FilePath) (loadDefaults : Bool) :
    Except Failure Config :=
  layerFile f (defaults loadDefaults) path (path.below base)

/-- The paths of the files of a name, in the order in which they are laid over one another. -/
def candidates (name : String) : List FilePath :=
  ["config/", ""].flatMap fun folder =>
    [".yaml", ".toml"].map fun suffix => .ofText (folder ++ name ++ suffix)

/-- Lays the files of a name over a configuration; `remark` follows their paths among the
sources. -/
def layerFiles (base : String) (f : Folder) (name remark : String) (c : Config) :
    Except Failure Config :=
  (candidates name).foldlM (fun c path => layerFile f c path (path.below base ++ remark)) c

/-- The configuration of a folder with some active profiles; `base` is what the folder is called. -/
def ofFolder (base : String) (f : Folder) (profiles : List String) (loadDefaults : Bool) :
    Except Failure Config := do
  let c ← layerFiles base f stem "" (defaults loadDefaults)
  profiles.foldlM
    (fun c profile =>
      layerFiles base f (stem ++ "-" ++ profile) (" (profile: " ++ profile ++ ")") c)
    c

end ServiceClient.Config
