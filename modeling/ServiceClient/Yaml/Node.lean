/-
**The nodes of a YAML text.**

Tokens make up one document with one node.  Properties, an anchor and a tag, may stand before a
node; a reference repeats the node of its anchor.  What is left out where a node could stand is an
empty scalar.

Main definitions:

* `ServiceClient.Yaml.Node`: nodes with their tags;
* `ServiceClient.Yaml.Node.ofTokens?`: the node of a document.
-/

import ServiceClient.Yaml.Name
import ServiceClient.Yaml.Tag

set_option autoImplicit false

namespace ServiceClient.Yaml

inductive Node
  | scalar (tag : Tag) (text : String)
  | sequence (tag : Tag) (items : List Node)
  | mapping (tag : Tag) (entries : List (Node × Node))
  deriving Repr, Inhabited

namespace Node

def tag : Node → Tag
  | .scalar t _ | .sequence t _ | .mapping t _ => t

def nothing : Node := .scalar .null ""

/-! ### Reading tokens -/

/-- What is known while a document is read. -/
structure Reading where
  tokens : List Token
  /-- The nodes with an anchor; none while the node is still being read. -/
  anchors : List (String × Option Node) := []
  /-- What the handles of tags stand for. -/
  handles : List (String × String) := []
  deriving Inhabited

abbrev Reader := StateT Reading (Except Failure)

def usualHandles : List (String × String) := [("!", "!"), ("!!", Tag.commonLeading)]

def peek : Reader (Option Token) := do
  pure (← get).tokens.head?

def next : Reader (Option Token) := do
  let t ← peek
  modify fun r => { r with tokens := r.tokens.tail }
  pure t

/-- Fails at a token that cannot stand there. -/
def unexpected {α : Type} : Option Token → Reader α
  | some (.broken f) => throw f
  | _ => throw malformed

/-- The tag that is given before a node, if any. -/
def givenTag : Option (Option String × String) → Reader (Option String)
  | none => pure none
  | some (none, suffix) => pure (some suffix)
  | some (some handle, suffix) => do
      match (← get).handles.lookup handle with
      | some leading => pure (some (leading ++ suffix))
      | none => throw malformed

/-- The properties of a node: its anchor and its tag, in any order. -/
def properties : Reader (Option String × Option String) := do
  match ← peek with
  | some (.anchor name) =>
      let _ ← next
      match ← peek with
      | some (.tag handle suffix) =>
          let _ ← next
          pure (some name, ← givenTag (some (handle, suffix)))
      | _ => pure (some name, none)
  | some (.tag handle suffix) =>
      let _ ← next
      match ← peek with
      | some (.anchor name) =>
          let _ ← next
          pure (some name, ← givenTag (some (handle, suffix)))
      | _ => pure (none, ← givenTag (some (handle, suffix)))
  | _ => pure (none, none)

/-- The tag of a node, where a bare exclamation mark is as good as no tag. -/
def tagOr (usual : Tag) : Option String → Tag
  | none => usual
  | some name => if name = "!" then usual else .ofName name

def scalarTag (text : String) (plain : Bool) : Option String → Tag
  | none => if plain then .ofPlain text else .text
  | some name => tagOr (.ofPlain text) (some name)

def bindAnchor (name : Option String) (node : Option Node) : Reader Unit :=
  match name with
  | none => pure ()
  | some name => modify fun r => { r with anchors := (name, node) :: r.anchors }

/-- Opens an anchor; a name is used once. -/
def openAnchor (name : Option String) : Reader Unit := do
  match name with
  | none => pure ()
  | some n =>
      if ((← get).anchors.lookup n).isSome then throw malformed
      bindAnchor name none

def ofAnchor (name : String) : Reader Node := do
  match (← get).anchors.lookup name with
  | some (some node) => pure node
  | _ => throw malformed

mutual

/-- A node.  Outside of flow collections it may be a block, and after a key a sequence that is not
indented. -/
def node (inBlock unindented : Bool) : Nat → Reader Node
  | 0 => throw malformed
  | fuel + 1 => do
      match ← peek with
      | some (.reference name) =>
          let _ ← next
          ofAnchor name
      | _ =>
          let (anchor, given) ← properties
          openAnchor anchor
          let result ← content inBlock unindented anchor given fuel
          bindAnchor anchor (some result)
          pure result

/-- A node after its properties. -/
def content (inBlock unindented : Bool) (anchor given : Option String) : Nat → Reader Node
  | 0 => throw malformed
  | fuel + 1 => do
      let t ← peek
      match t, inBlock, unindented with
      | some .blockEntry, _, true => do
          pure (.sequence (tagOr .sequence given) (← unindentedItems fuel))
      | some (.scalar text plain), _, _ => do
          let _ ← next
          pure (.scalar (scalarTag text plain given) text)
      | some .flowSequenceStart, _, _ => do
          let _ ← next
          pure (.sequence (tagOr .sequence given) (← flowItems true fuel))
      | some .flowMappingStart, _, _ => do
          let _ ← next
          pure (.mapping (tagOr .mapping given) (← flowEntries true fuel))
      | some .blockSequenceStart, true, _ => do
          let _ ← next
          pure (.sequence (tagOr .sequence given) (← blockItems fuel))
      | some .blockMappingStart, true, _ => do
          let _ ← next
          pure (.mapping (tagOr .mapping given) (← blockEntries fuel))
      | t, _, _ =>
          if anchor.isSome || given.isSome then pure (.scalar (scalarTag "" true given) "")
          else unexpected t

def blockItems : Nat → Reader (List Node)
  | 0 => throw malformed
  | fuel + 1 => do
      match ← next with
      | some .blockEntry =>
          let item ← match ← peek with
            | some .blockEntry | some .blockEnd => pure nothing
            | _ => node true false fuel
          pure (item :: (← blockItems fuel))
      | some .blockEnd => pure []
      | t => unexpected t

/-- The items of a sequence that is not indented. -/
def unindentedItems : Nat → Reader (List Node)
  | 0 => throw malformed
  | fuel + 1 => do
      match ← peek with
      | some .blockEntry =>
          let _ ← next
          let item ← match ← peek with
            | some .blockEntry | some .key | some .value | some .blockEnd => pure nothing
            | _ => node true false fuel
          pure (item :: (← unindentedItems fuel))
      | _ => pure []

/-- A key or a value of a block mapping, after its indicator. -/
def blockPart : Nat → Reader Node
  | 0 => throw malformed
  | fuel + 1 => do
      match ← peek with
      | some .key | some .value | some .blockEnd => pure nothing
      | _ => node true true fuel

/-- The entries of a block mapping; a key may come without a value. -/
def blockEntries : Nat → Reader (List (Node × Node))
  | 0 => throw malformed
  | fuel + 1 => do
      match ← peek with
      | some .blockEnd =>
          let _ ← next
          pure []
      | some .key =>
          let _ ← next
          let k ← blockPart fuel
          let v ← match ← peek with
            | some .value => do
                let _ ← next
                blockPart fuel
            | _ => pure nothing
          pure ((k, v) :: (← blockEntries fuel))
      | t => unexpected t

/-- A value of a flow collection, if there is one. -/
def flowValue : Nat → Reader Node
  | 0 => throw malformed
  | fuel + 1 => do
      match ← peek with
      | some .value =>
          let _ ← next
          match ← peek with
          | some .flowEntry | some .flowSequenceEnd | some .flowMappingEnd => pure nothing
          | _ => node false false fuel
      | _ => pure nothing

/-- A key of a flow collection, after its indicator, and its value. -/
def flowPair : Nat → Reader (Node × Node)
  | 0 => throw malformed
  | fuel + 1 => do
      let k ← match ← peek with
        | some .value | some .flowEntry | some .flowSequenceEnd | some .flowMappingEnd =>
            pure nothing
        | _ => node false false fuel
      pure (k, ← flowValue fuel)

/-- The items of a flow sequence; a single pair among them is a mapping. -/
def flowItems (first : Bool) : Nat → Reader (List Node)
  | 0 => throw malformed
  | fuel + 1 => do
      match ← peek with
      | some .flowSequenceEnd =>
          let _ ← next
          pure []
      | t =>
          if !first then
            match t with
            | some .flowEntry => let _ ← next
            | t => unexpected t
          match ← peek with
          | some .key =>
              let _ ← next
              let pair ← flowPair fuel
              pure (.mapping .mapping [pair] :: (← flowItems false fuel))
          | some .flowSequenceEnd => flowItems false fuel
          | _ =>
              let item ← node false false fuel
              pure (item :: (← flowItems false fuel))

/-- The entries of a flow mapping; a key may come without a value. -/
def flowEntries (first : Bool) : Nat → Reader (List (Node × Node))
  | 0 => throw malformed
  | fuel + 1 => do
      match ← peek with
      | some .flowMappingEnd =>
          let _ ← next
          pure []
      | t =>
          if !first then
            match t with
            | some .flowEntry => let _ ← next
            | t => unexpected t
          match ← peek with
          | some .key =>
              let _ ← next
              let pair ← flowPair fuel
              pure (pair :: (← flowEntries false fuel))
          | some .flowMappingEnd => flowEntries false fuel
          | _ =>
              let k ← node false false fuel
              pure ((k, nothing) :: (← flowEntries false fuel))

end

/-! ### Documents -/

/-- Reads the directives before a document: one version at most, and every handle once. -/
def directives : Nat → Bool → Reader Unit
  | 0, _ => throw malformed
  | fuel + 1, versioned => do
      match ← peek with
      | some (.version major) =>
          let _ ← next
          if versioned || major != 1 then throw malformed
          directives fuel true
      | some (.handle name leading) =>
          let _ ← next
          if ((← get).handles.lookup name).isSome then throw malformed
          modify fun r => { r with handles := (name, leading) :: r.handles }
          directives fuel versioned
      | some .directive =>
          let _ ← next
          directives fuel versioned
      | _ => pure ()

/-- A document that begins with directives or a marker. -/
def explicitDocument (fuel : Nat) : Reader Node := do
  directives fuel false
  modify fun r => { r with handles := r.handles ++ usualHandles }
  match ← next with
  | some .documentStart =>
      match ← peek with
      | none | some .documentStart | some .documentEnd | some .directive | some (.version _)
      | some (.handle _ _) => pure nothing
      | _ => node true false fuel
  | t => unexpected t

/-- Reads the markers after a document, and nothing else. -/
def finish : Nat → Reader Unit
  | 0 => throw malformed
  | fuel + 1 => do
      match ← next with
      | none => pure ()
      | some .documentEnd => finish fuel
      | t => unexpected t

/-- The only document, if there is one. -/
def document (fuel : Nat) : Reader (Option Node) := do
  match ← peek with
  | none => pure none
  | some .documentStart | some .directive | some (.version _) | some (.handle _ _) =>
      let result ← explicitDocument fuel
      finish fuel
      pure (some result)
  | _ =>
      modify fun r => { r with handles := usualHandles }
      let result ← node true false fuel
      finish fuel
      pure (some result)

/-- The node of the only document of some tokens, if there is a document.  Every step takes a token
or goes one level down, where a token is taken after three more steps at most. -/
def ofTokens? (tokens : List Token) : Except Failure (Option Node) :=
  ((document (4 * tokens.length + 8)).run { tokens }).map (·.1)

end Node

end ServiceClient.Yaml
