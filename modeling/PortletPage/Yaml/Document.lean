import PortletPage.Document
import PortletPage.Yaml.Node

/-!
# YAML as a document format

Records are mappings.  Where a list, a table or a record is wanted, a place
where nothing is written counts as an empty one.  Any scalar is taken for a text.
Null and flags are recognised only where they are wanted, by how they are written.

An alias is looked up when its node is wanted.  As a node may be wanted through
many aliases, how many are looked up is limited.
-/

namespace PortletPage.Yaml

/-- What is known while a document is looked at. -/
structure Context where
  /-- The anchored nodes, in the order in which they begin. -/
  anchors : List (Nat × Node)
  /-- How many aliases may be looked up. -/
  limit : Nat

/-- A look at a document; it counts the aliases that were looked up. -/
abbrev Look := ReaderT Context (StateT Nat Option)

namespace Look

/-- The node that an alias with that number stands for. -/
def follow (number : Nat) : Look Node := do
  modify (· + 1)
  let context ← read
  if (← get) ≤ context.limit then
    match context.anchors.reverse.lookup number with
    | some node => return node
    | none => failure
  else failure

/-- The node itself, without its anchor, or the node that an alias stands for. -/
def bare : Node → Look Node
  | .anchored _ node => return node
  | .alias number => follow number
  | node => return node

/-- Runs a look at a document. -/
def run? {α : Type} (node : Node) (look : Node → Look α) : Option α :=
  ((look node).run ⟨node.anchors, 100 * node.weight⟩).run' 0

end Look

namespace Node

/-- The tag of YAML's own null and flags. -/
def nullTag : String := "tag:yaml.org,2002:null"

def flagTag : String := "tag:yaml.org,2002:bool"

/-- Whether a text is a way to write null. -/
def isNull (text : String) : Bool := ["null", "Null", "NULL", "~"].contains text

/-- The flag that a text stands for. -/
def flag? (text : String) : Option Bool :=
  if ["true", "True", "TRUE"].contains text then some true
  else if ["false", "False", "FALSE"].contains text then some false
  else none

/-- Whether the node is a place where nothing is written, properties apart. -/
def isEmpty : Node → Bool
  | .scalar _ .plain text => text = ""
  | _ => false

/-- The node as a text. -/
def text (node : Node) : Look String := do
  match ← Look.bare node with
  | .scalar _ _ text => return text
  | _ => failure

/-- The node as a text or null.  Only plain scalars can be null; one with the tag
of null must be. -/
def textOrNull (node : Node) : Look (Option String) := do
  match ← Look.bare node with
  | .scalar none .plain text => return if text = "" || isNull text then none else some text
  | .scalar (some tag) .plain text =>
    if tag ≠ nullTag then return some text
    else if isNull text then return none
    else failure
  | .scalar _ _ text => return some text
  | _ => failure

/-- The node as a flag, which is plain, or literal with the tag of flags. -/
def flag (node : Node) : Look Bool := do
  match ← Look.bare node with
  | .scalar tag style text =>
    if style = .plain ∨ (style = .literal ∧ tag = some flagTag) then
      match flag? text with
      | some b => return b
      | none => failure
    else failure
  | _ => failure

/-- The node as a list. -/
def items (node : Node) : Look (List Node) := do
  match ← Look.bare node with
  | .sequence items => return items
  | node => if node.isEmpty then return [] else failure

/-- The node as a table, in which every key is a scalar. -/
def table (node : Node) : Look (List (String × Node)) := do
  match ← Look.bare node with
  | .mapping entries => entries.mapM fun (key, value) => return (← key.text, value)
  | node => if node.isEmpty then return [] else failure

/-- The fields of a record among the entries of a table. -/
def fields (names : List String) (node : Node) : Look (Fields Node) := do
  let entries ← node.table
  if names.all fun name => (entries.filter fun entry => entry.1 == name).length ≤ 1 then
    return ⟨true, fun name => entries.lookup name⟩
  else failure

end Node

instance : Document Look Node where
  refuse := failure
  text := Node.text
  textOrNull := Node.textOrNull
  flag := Node.flag
  items := Node.items
  table := Node.table
  fields := Node.fields

end PortletPage.Yaml
