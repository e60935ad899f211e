import BuildExplorer.Yaml.Scanner

/-!
# Documents

A document is a tree of nodes.  An alias names the number of an anchor; where
that number leads is known when the document is complete.
-/

namespace BuildExplorer.Yaml

/-- A node of a document. -/
inductive Node where
  | scalar (tag : Option Tag) (text : String) (style : ScalarStyle)
  | sequence (tag : Option Tag) (items : List Node)
  | mapping (tag : Option Tag) (entries : List (Node × Node))
  | alias (anchor : Nat)
  deriving Inhabited

/-- A document: its root, the nodes that anchors lead to, and its size, which
counts each scalar and alias once and each collection twice. -/
structure Document where
  root : Node
  anchored : List (Nat × Node)
  size : Nat

/-- The state of the reader of a document. -/
structure Composer where
  tokens : List Token
  /-- What the handles of tags stand for. -/
  handles : List (String × Tag) := []
  /-- The numbers of the named anchors, the latest first. -/
  names : List (String × Nat) := []
  /-- For each number of an anchor the place in the order of anchors, the latest
  first. -/
  places : List (Nat × Nat) := []
  /-- The complete nodes by their place in the order of anchors. -/
  nodes : List (Nat × Node) := []
  size : Nat := 0

namespace Composer

/-- The properties in front of a node. -/
structure Properties where
  tag : Option Tag := none
  /-- The place in the order of anchors. -/
  place : Option Nat := none

def next? (composer : Composer) : Option Token :=
  composer.tokens.head?

def advance (composer : Composer) : Composer :=
  { composer with tokens := composer.tokens.drop 1 }

def grow (composer : Composer) (count : Nat) : Composer :=
  { composer with size := composer.size + count }

/-- Give an anchor its number, which is how many names there are. -/
def register (composer : Composer) (name : String) : Nat × Composer :=
  let number := composer.names.length
  let place := composer.places.length
  (place, {
    composer with
    names := (name, number) :: composer.names.filter (·.1 != name)
    places := (number, place) :: composer.places })

/-- The full form of a tag. -/
def resolveTag (composer : Composer) (handle : String) (suffix : Tag) : Option Tag :=
  if handle.isEmpty then some suffix
  else (composer.handles.lookup handle).map (·.append suffix)

/-- Read an anchor and a tag, in either order. -/
def takeProperties (composer : Composer) : Option (Option String × Option Tag × Composer) :=
  match composer.next? with
  | some (.anchor name) =>
      let composer := composer.advance
      match composer.next? with
      | some (.tag handle suffix) =>
          (composer.resolveTag handle suffix).map fun tag => (some name, some tag, composer.advance)
      | _ => some (some name, none, composer)
  | some (.tag handle suffix) => do
      let tag ← composer.resolveTag handle suffix
      let composer := composer.advance
      match composer.next? with
      | some (.anchor name) => return (some name, some tag, composer.advance)
      | _ => return (none, some tag, composer)
  | _ => some (none, none, composer)

/-- An empty scalar. -/
def emptyScalar : Node :=
  .scalar none "" .plain

/-- A node of its own size is complete. -/
def finish (composer : Composer) (properties : Properties) (node : Node) : Node × Composer :=
  match properties.place with
  | some place => (node, { composer with nodes := (place, node) :: composer.nodes })
  | none => (node, composer)

/-- Is an empty node meant, because one of the tokens comes next (or none)? -/
def atAny (composer : Composer) (stops : List Token) : Bool :=
  match composer.next? with
  | some token => stops.contains token
  | none => false

mutual

/-- Read a node.  A block collection is allowed if `inBlock`, and a sequence
without indentation of its own if `indentless`. -/
def node (fuel : Nat) (inBlock indentless : Bool) (composer : Composer) :
    Option (Node × Composer) :=
  match fuel with
  | 0 => none
  | fuel + 1 =>
      match composer.next? with
      | some (.alias name) =>
          (composer.names.lookup name).map fun number =>
            (.alias number, composer.advance.grow 1)
      | _ =>
          match composer.takeProperties with
          | none => none
          | some (name, tag, composer) =>
              let (place, composer) :=
                match name with
                | some name =>
                    let (place, composer) := composer.register name
                    (some place, composer)
                | none => (none, composer)
              let properties : Properties := ⟨tag, place⟩
              content fuel inBlock indentless properties composer

/-- Read what follows the properties of a node. -/
def content (fuel : Nat) (inBlock indentless : Bool) (properties : Properties)
    (composer : Composer) : Option (Node × Composer) :=
  match fuel with
  | 0 => none
  | fuel + 1 =>
      match composer.next? with
      | some (.scalar text style) =>
          some ((composer.advance.grow 1).finish properties (.scalar properties.tag text style))
      | some .flowSequenceStart =>
          (flowItems fuel true [] (composer.advance.grow 2)).map fun (items, composer) =>
            composer.finish properties (.sequence properties.tag items)
      | some .flowMappingStart =>
          (flowEntries fuel true [] (composer.advance.grow 2)).map fun (entries, composer) =>
            composer.finish properties (.mapping properties.tag entries)
      | some token =>
          if indentless && token == .blockEntry then
            (indentlessItems fuel [] (composer.grow 2)).map fun (items, composer) =>
              composer.finish properties (.sequence properties.tag items)
          else if inBlock && token == .blockSequenceStart then
            (blockItems fuel [] (composer.advance.grow 2)).map fun (items, composer) =>
              composer.finish properties (.sequence properties.tag items)
          else if inBlock && token == .blockMappingStart then
            (blockEntries fuel [] (composer.advance.grow 2)).map fun (entries, composer) =>
              composer.finish properties (.mapping properties.tag entries)
          else absent properties composer
      | none => absent properties composer

/-- A node without content has to have properties. -/
def absent (properties : Properties) (composer : Composer) : Option (Node × Composer) :=
  if properties.tag.isSome || properties.place.isSome then
    some ((composer.grow 1).finish properties (.scalar properties.tag "" .plain))
  else none

/-- Read a node, which is empty where one of the tokens comes next. -/
def nodeUnless (fuel : Nat) (inBlock indentless : Bool) (stops : List Token)
    (composer : Composer) : Option (Node × Composer) :=
  match fuel with
  | 0 => none
  | fuel + 1 =>
      if composer.atAny stops then some (emptyScalar, composer.grow 1)
      else node fuel inBlock indentless composer

/-- Read the items of a block sequence up to its end. -/
def blockItems (fuel : Nat) (done : List Node) (composer : Composer) :
    Option (List Node × Composer) :=
  match fuel with
  | 0 => none
  | fuel + 1 =>
      match composer.next? with
      | some .blockEntry =>
          match nodeUnless fuel true false [.blockEntry, .blockEnd] composer.advance with
          | none => none
          | some (item, composer) => blockItems fuel (item :: done) composer
      | some .blockEnd => some (done.reverse, composer.advance)
      | _ => none

/-- Read the items of a sequence that has the indentation of the mapping around
it. -/
def indentlessItems (fuel : Nat) (done : List Node) (composer : Composer) :
    Option (List Node × Composer) :=
  match fuel with
  | 0 => none
  | fuel + 1 =>
      match composer.next? with
      | some .blockEntry =>
          match nodeUnless fuel true false [.blockEntry, .key, .value, .blockEnd]
              composer.advance with
          | none => none
          | some (item, composer) => indentlessItems fuel (item :: done) composer
      | _ => some (done.reverse, composer)

/-- Read the entries of a block mapping up to its end. -/
def blockEntries (fuel : Nat) (done : List (Node × Node)) (composer : Composer) :
    Option (List (Node × Node) × Composer) :=
  match fuel with
  | 0 => none
  | fuel + 1 =>
      match composer.next? with
      | some .key =>
          match nodeUnless fuel true true [.key, .value, .blockEnd] composer.advance with
          | none => none
          | some (key, composer) =>
              match composer.next? with
              | some .value =>
                  match nodeUnless fuel true true [.key, .value, .blockEnd] composer.advance with
                  | none => none
                  | some (value, composer) => blockEntries fuel ((key, value) :: done) composer
              | _ => blockEntries fuel ((key, emptyScalar) :: done) (composer.grow 1)
      | some .blockEnd => some (done.reverse, composer.advance)
      | _ => none

/-- Pass the comma in front of every item but the first. -/
def passComma (first : Bool) (composer : Composer) : Option Composer :=
  if first then some composer
  else
    match composer.next? with
    | some .flowEntry => some composer.advance
    | _ => none

/-- Read the items of a flow sequence up to its end. -/
def flowItems (fuel : Nat) (first : Bool) (done : List Node) (composer : Composer) :
    Option (List Node × Composer) :=
  match fuel with
  | 0 => none
  | fuel + 1 =>
      if composer.next? = some .flowSequenceEnd then some (done.reverse, composer.advance)
      else
        match passComma first composer with
        | none => none
        | some composer =>
            match composer.next? with
            | some .key =>
                match pair fuel (composer.advance.grow 2) with
                | none => none
                | some (item, composer) => flowItems fuel false (item :: done) composer
            | some .flowSequenceEnd => some (done.reverse, composer.advance)
            | _ =>
                match node fuel false false composer with
                | none => none
                | some (item, composer) => flowItems fuel false (item :: done) composer

/-- Read a single pair in a flow sequence.  A missing key takes the token that
shows it is missing with it. -/
def pair (fuel : Nat) (composer : Composer) : Option (Node × Composer) :=
  match fuel with
  | 0 => none
  | fuel + 1 =>
      let key :=
        if composer.atAny [.value, .flowEntry, .flowSequenceEnd] then
          some (emptyScalar, composer.advance.grow 1)
        else node fuel false false composer
      match key with
      | none => none
      | some (key, composer) =>
          match composer.next? with
          | some .value =>
              (nodeUnless fuel false false [.flowEntry, .flowSequenceEnd] composer.advance).map
                fun (value, composer) => (.mapping none [(key, value)], composer)
          | _ => some (.mapping none [(key, emptyScalar)], composer.grow 1)

/-- Read the entries of a flow mapping up to its end. -/
def flowEntries (fuel : Nat) (first : Bool) (done : List (Node × Node)) (composer : Composer) :
    Option (List (Node × Node) × Composer) :=
  match fuel with
  | 0 => none
  | fuel + 1 =>
      if composer.next? = some .flowMappingEnd then some (done.reverse, composer.advance)
      else
        match passComma first composer with
        | none => none
        | some composer =>
            match composer.next? with
            | some .key =>
                match nodeUnless fuel false false [.value, .flowEntry, .flowMappingEnd]
                    composer.advance with
                | none => none
                | some (key, composer) =>
                    match composer.next? with
                    | some .value =>
                        match nodeUnless fuel false false [.flowEntry, .flowMappingEnd]
                            composer.advance with
                        | none => none
                        | some (value, composer) =>
                            flowEntries fuel false ((key, value) :: done) composer
                    | _ =>
                        flowEntries fuel false ((key, emptyScalar) :: done) (composer.grow 1)
            | some .flowMappingEnd => some (done.reverse, composer.advance)
            | _ =>
                match node fuel false false composer with
                | none => none
                | some (key, composer) =>
                    flowEntries fuel false ((key, emptyScalar) :: done) (composer.grow 1)

end

/-! ## Directives -/

/-- The handles that need no directive. -/
def defaultHandles : List (String × Tag) :=
  [("!", .ofText "!"), ("!!", .ofText "tag:yaml.org,2002:")]

/-- Read the directives in front of a document. -/
def directives (versioned : Bool) (handles : List (String × Tag)) :
    List Token → Option (List (String × Tag) × List Token)
  | .versionDirective major minor :: rest =>
      if versioned || major ≠ 1 || (minor ≠ 1 && minor ≠ 2) then none
      else directives true handles rest
  | .tagDirective handle scope :: rest =>
      if (handles.lookup handle).isSome then none
      else directives versioned ((handle, scope) :: handles) rest
  | rest => some (handles, rest)

/-- Does a document start with its content? -/
def startsPlainly : List Token → Bool
  | .versionDirective .. :: _ | .tagDirective .. :: _ | .documentStart :: _ => false
  | _ => true

/-- Does a document end here or another one start? -/
def atBoundary : List Token → Bool
  | [] => true
  | .documentEnd :: _ => true
  | rest => !startsPlainly rest

/-- Read the root of a document. -/
def root (composer : Composer) : Option (Node × Composer) :=
  let fuel := 4 * composer.tokens.length + 16
  if startsPlainly composer.tokens then
    node fuel true false { composer with handles := defaultHandles }
  else do
    let (handles, tokens) ← directives false [] composer.tokens
    match tokens with
    | .documentStart :: tokens =>
        let composer := { composer with tokens, handles := handles ++ defaultHandles }
        if atBoundary tokens then return (emptyScalar, composer.grow 1)
        else node fuel true false composer
    | _ => none

end Composer

/-- The one document of a stream; `none` where the stream is not well formed or
holds no document or several. -/
def document? (stream : List Char) : Option Document := do
  let tokens ← tokens stream
  if tokens.isEmpty then none
  else
    let (root, composer) ← Composer.root { tokens }
    if composer.tokens.all (· == .documentEnd) then
      return {
        root
        anchored := composer.places.filterMap fun (number, place) =>
          (composer.nodes.lookup place).map (number, ·)
        size := composer.size }
    else none

end BuildExplorer.Yaml
