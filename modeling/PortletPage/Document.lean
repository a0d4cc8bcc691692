import PortletPage.Page

/-!
# Reading values from documents

A document is a tree of nodes in some format.  `Document m ν` says how a node of
type `ν` is looked at: as a text, a flag, a list, a table or a record.  Each look
may fail, and runs in the monad `m` of the format, so that a reader of records
is written once for all formats.

A record is found by names or, where the format has it, by position.  `Fields`
hides the difference but for one case: a field that may be left out only by name
(`Fields.optional`).

The readers here are those of everything that may come in any document format:
parameters, render states, portlets, pages and configurations.
-/

namespace PortletPage

/-! ## Formats and fields -/

/-- The fields of a record, as found in a document. -/
structure Fields (ν : Type) where
  /-- Whether the fields stand under their names rather than in order. -/
  named : Bool
  /-- The node of a field, if it is there. -/
  find : String → Option ν

/-- How the nodes of a document format are looked at. -/
class Document (m : Type → Type) (ν : outParam Type) where
  /-- The look fails. -/
  refuse : {α : Type} → m α
  /-- The node as a text. -/
  text : ν → m String
  /-- The node as a text or null. -/
  textOrNull : ν → m (Option String)
  /-- The node as true or false. -/
  flag : ν → m Bool
  /-- The node as a list. -/
  items : ν → m (List ν)
  /-- The node as a table of named nodes, in the order in which they stand. -/
  table : ν → m (List (String × ν))
  /-- The node as a record with these field names, in this order.  A name that is
  not among them is passed over; one that is may stand once. -/
  fields : List String → ν → m (Fields ν)

namespace Fields

variable {m : Type → Type} [Monad m] {ν : Type} [Document m ν] {α : Type}

/-- A field that must be there. -/
def required (f : Fields ν) (name : String) (read : ν → m α) : m α :=
  match f.find name with
  | some node => read node
  | none => Document.refuse

/-- A field that has a value when it is left out. -/
def withDefault (f : Fields ν) (name : String) (fallback : α) (read : ν → m α) : m α :=
  match f.find name with
  | some node => read node
  | none => pure fallback

/-- A field that counts as null when its name is left out.  By position it must be there. -/
def optional (f : Fields ν) (name : String) (read : ν → m (Option α)) : m (Option α) :=
  match f.find name with
  | some node => read node
  | none => if f.named then pure none else Document.refuse

end Fields

/-! ## Pages and configurations -/

namespace Document

variable {m : Type → Type} [Monad m] {ν : Type} [Document m ν]

/-- A list of texts and nulls. -/
def values (node : ν) : m Values := do
  (← Document.items node).mapM Document.textOrNull

/-- A list of names. -/
def nameList (node : ν) : m (List String) := do
  (← Document.items node).mapM Document.text

/-- A table from names to values: a repeated name takes the later values and
keeps the earlier place. -/
def parameters (node : ν) : m Parameters := do
  let entries ← (← Document.table node).mapM fun (name, node) => do
    return (name, ← values node)
  return .ofEntries entries

/-- A render state; everything may be left out. -/
def renderState (node : ν) : m RenderState := do
  let f ← Document.fields ["portletMode", "windowState", "parameters"] node
  return {
    mode := ← f.withDefault "portletMode" "" Document.text
    window := ← f.withDefault "windowState" "" Document.text
    parameters := ← f.withDefault "parameters" .empty parameters }

/-- A portlet; everything but the id may be left out. -/
def portlet (node : ν) : m Portlet := do
  let f ← Document.fields ["id", "private_parameters", "public_parameters", "state"] node
  return {
    id := ← f.required "id" Document.text
    privateNames := ← f.withDefault "private_parameters" [] nameList
    publicNames := ← f.withDefault "public_parameters" [] nameList
    state := ← f.withDefault "state" .empty renderState }

/-- A page, not yet validated. -/
def page (node : ν) : m Page := do
  let f ← Document.fields ["portlets"] node
  return ⟨← f.withDefault "portlets" [] fun node => do
    (← Document.items node).mapM portlet⟩

/-- A configuration; everything may be left out. -/
def config (node : ν) : m Config := do
  let names := ["default_portlet_mode", "default_window_state", "emit_initial_state"]
  let f ← Document.fields names node
  return {
    mode := ← f.withDefault "default_portlet_mode" "" Document.text
    window := ← f.withDefault "default_window_state" "" Document.text
    announceInitial := ← f.withDefault "emit_initial_state" true Document.flag }

end Document

end PortletPage
