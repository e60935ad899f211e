import BuildExplorer.Yaml.Node
import BuildExplorer.Yaml.Resolve

/-!
# Reading values out of documents

A document is read with a budget of jumps: each alias that is followed costs
one, and a document has a hundred for each unit of its size, so that aliases
cannot blow it up.  Collections nest at most to a given depth.
-/

namespace BuildExplorer.Yaml

/-- Reading may fail and spends jumps. -/
abbrev Reading := StateT Nat Option

namespace Reading

/-- How deep collections may nest. -/
def depthLimit : Nat := 128

/-- The node that an alias leads to; any other node is itself. -/
def follow (anchored : List (Nat × Node)) (node : Node) : Reading Node :=
  match node with
  | .alias number => do
      match ← get with
      | 0 => failure
      | jumps + 1 =>
          set jumps
          match anchored.lookup number with
          | some node => return node
          | none => failure
  | node => return node

/-! ## Scalars -/

def tagBool : Tag := .ofText "tag:yaml.org,2002:bool"
def tagInt : Tag := .ofText "tag:yaml.org,2002:int"
def tagFloat : Tag := .ofText "tag:yaml.org,2002:float"
def tagNull : Tag := .ofText "tag:yaml.org,2002:null"

/-- The value of a scalar without a tag. -/
def untagged (text : String) (style : ScalarStyle) : Option Value :=
  if style = .plain then Resolve.plain text else some (.string text)

/-- The value of a scalar with a tag that is no name of the application. -/
def tagged (tag : Tag) (text : String) (style : ScalarStyle) : Option Value :=
  if tag = tagBool then (Resolve.bool? text).map .bool
  else if tag = tagInt then
    match Resolve.integer text.toList with
    | .value value => some (.number (.integer value))
    | _ => none
  else if tag = tagFloat then
    (Resolve.binary? text.toList).map fun value => .number (.binary value)
  else if tag = tagNull then if Resolve.isNull text then some .null else none
  else if tag.isLocal then untagged text style
  else some (.string text)

/-- The value of a scalar. -/
def scalar (tag : Option Tag) (text : String) (style : ScalarStyle) : Option Value :=
  match tag with
  | none => untagged text style
  | some tag =>
      match tag.name? with
      | some name => (untagged text style).map (.tagged name)
      | none => tagged tag text style

/-- A value under its tag of the application, if it has one. -/
def underTag (tag : Option Tag) (value : Value) : Value :=
  match tag.bind Tag.name? with
  | some name => .tagged name value
  | none => value

/-- Is it a scalar that stands for an empty collection? -/
def isEmptyScalar (text : String) (style : ScalarStyle) : Bool :=
  text.isEmpty && style = .plain

/-! ## Values -/

/-- The value of a node. -/
def value (anchored : List (Nat × Node)) : (depth : Nat) → Node → Reading Value
  | depth, node => do
      match depth, ← follow anchored node with
      | _, .scalar tag text style => StateT.lift (scalar tag text style)
      | depth + 1, .sequence tag items =>
          let items ← items.mapM (value anchored depth)
          return underTag tag (.sequence items)
      | depth + 1, .mapping tag entries =>
          let entries ← entries.foldlM (fun done (key, item) => do
            let key ← value anchored depth key
            if done.any fun entry => entry.1.agrees key then failure
            else
              let item ← value anchored depth item
              return (key, item) :: done) []
          return underTag tag (.mapping entries.reverse)
      | _, _ => failure

/-! ## Parts of a record -/

/-- The text of any scalar. -/
def text (anchored : List (Nat × Node)) (node : Node) : Reading String := do
  match ← follow anchored node with
  | .scalar _ text _ => return text
  | _ => failure

/-- A natural number of 32 bits, written as a plain scalar. -/
def uint32 (anchored : List (Nat × Node)) (node : Node) : Reading UInt32 := do
  match ← follow anchored node with
  | .scalar tag text style =>
      if style = .plain || (style = .literal && tag = some tagInt) then
        match Resolve.natural? UInt32.size text.toList with
        | some value => return UInt32.ofNat value
        | none => failure
      else failure
  | _ => failure

/-- Is a value present?  A plain null or empty scalar means that it is not. -/
def isPresent (node : Node) : Reading Bool :=
  match node with
  | .scalar tag text style =>
      if style ≠ .plain then return true
      else
        match tag with
        | some tag =>
            if tag = tagNull then
              if Resolve.isNull text then return false else failure
            else return true
        | none => return !(text.isEmpty || Resolve.isNull text)
  | _ => return true

/-- A part that may be missing. -/
def optional {α : Type} (anchored : List (Nat × Node)) (read : Node → Reading α)
    (node : Node) : Reading (Option α) := do
  let node ← follow anchored node
  if ← isPresent node then return some (← read node) else return none

/-- The items of a sequence, for which an empty scalar may stand. -/
def items (anchored : List (Nat × Node)) (node : Node) : Reading (List Node) := do
  match ← follow anchored node with
  | .sequence _ items => return items
  | .scalar _ text style => if isEmptyScalar text style then return [] else failure
  | _ => failure

/-- The entries of a mapping, for which an empty scalar may stand. -/
def entries (anchored : List (Nat × Node)) (node : Node) : Reading (List (Node × Node)) := do
  match ← follow anchored node with
  | .mapping _ entries => return entries
  | .scalar _ text style => if isEmptyScalar text style then return [] else failure
  | _ => failure

/-- A mapping with distinct keys. -/
def mapping (anchored : List (Nat × Node)) (depth : Nat) (node : Node) : Reading Mapping := do
  let found ← entries anchored node
  let entries ← found.foldlM (fun done (key, item) => do
    let key ← value anchored depth key
    if done.any fun entry => entry.1.agrees key then failure
    else
      let item ← value anchored depth item
      return (key, item) :: done) []
  return entries.reverse

/-- The value of a known key of a record; the key may not be repeated.  Values
of other keys are passed over. -/
def field {α : Type} (keys : List (String × Node)) (key : String) (read : Node → Reading α) :
    Reading (Option α) :=
  match keys.filter (·.1 == key) with
  | [] => return none
  | [(_, node)] => return some (← read node)
  | _ => failure

/-- The entries of a record with the texts of their keys. -/
def record (anchored : List (Nat × Node)) (node : Node) : Reading (List (String × Node)) := do
  (← entries anchored node).mapM fun (key, node) => do
    return (← text anchored key, node)

end Reading

end BuildExplorer.Yaml
