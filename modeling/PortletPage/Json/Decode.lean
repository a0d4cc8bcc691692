import PortletPage.Document
import PortletPage.Event
import PortletPage.Json.Syntax
import PortletPage.Submission

/-!
# Domain values from JSON

The readers of what `PortletPage.Json.Encode` writes.  They look at a tree
through `PortletPage.Document`, so that names may stand in any order, unknown
names are passed over and known ones may stand once.

As a document format, JSON has objects for records, or arrays with the fields in order;
an array may end before the last field, but not run past it.  Nulls are not taken for
texts, lists, flags or records.  A value is refused only if it is looked at: strings and
numbers under names that are passed over may be as they like.

An event is read in one go whatever its kind, which stands under `kind` among
its fields or first in an array.  All of it has to be sound and not too deeply
nested, also what is passed over.
-/

namespace PortletPage.Json

/-! ## JSON as a document format -/

/-- The member names as texts. -/
def namedMembers (members : List (Option String × Json)) : Option (List (String × Json)) :=
  members.mapM fun (name, j) => name.map fun name => (name, j)

/-- The fields of a record among the members of an object. -/
def fieldsNamed (names : List String) (members : List (String × Json)) : Option (Fields Json) :=
  if names.all fun name => (members.filter fun member => member.1 == name).length ≤ 1 then
    some ⟨true, fun name => (members.find? fun member => member.1 == name).map Prod.snd⟩
  else none

/-- The fields of a record in order. -/
def fieldsInOrder (names : List String) (items : List Json) : Option (Fields Json) :=
  if items.length ≤ names.length then some ⟨false, fun name => (names.zip items).lookup name⟩
  else none

instance : Document Option Json where
  refuse := none
  text
    | .text s => s
    | _ => none
  textOrNull
    | .text s => s.map some
    | .null => some none
    | _ => none
  flag
    | .bool b => some b
    | _ => none
  items
    | .array items => some items
    | _ => none
  table
    | .object members => namedMembers members
    | _ => none
  fields names
    | .object members => namedMembers members >>= fieldsNamed names
    | .array items => fieldsInOrder names items
    | _ => none

/-! ## States and submissions -/

def toParameters? (j : Json) : Option Parameters := Document.parameters j

def toRenderState? (j : Json) : Option RenderState := Document.renderState j

def toNames? (j : Json) : Option (List String) := Document.nameList j

/-- Values, or null for none. -/
def toValuesOrNull? : Json → Option (Option Values)
  | .null => some none
  | j => some <$> Document.values j

def toChange? (j : Json) : Option Change := do
  let f ← Document.fields ["name", "values"] j
  return {
    name := ← f.required "name" Document.text
    values := ← f.optional "values" toValuesOrNull? }

def toChanges? (j : Json) : Option (List Change) := do
  (← Document.items j).mapM toChange?

def toDelta? (j : Json) : Option Delta := do
  let names := ["portlet_mode", "window_state", "private_parameters", "public_parameters"]
  let f ← Document.fields names j
  return {
    mode := ← f.withDefault "portlet_mode" none Document.textOrNull
    window := ← f.withDefault "window_state" none Document.textOrNull
    privateChanges := ← f.withDefault "private_parameters" [] toChanges?
    publicChanges := ← f.withDefault "public_parameters" [] toChanges? }

def toStateSubmission? (j : Json) : Option StateSubmission := do
  let f ← Document.fields ["portlet_id", "delta", "state"] j
  return {
    portlet := ← f.required "portlet_id" Document.text
    delta := ← f.required "delta" toDelta?
    state := ← f.required "state" toRenderState? }

def toActionSubmission? (j : Json) : Option ActionSubmission := do
  let f ← Document.fields ["portlet_id", "action_parameters", "state", "public_parameters"] j
  return {
    portlet := ← f.required "portlet_id" Document.text
    parameters := ← f.required "action_parameters" toParameters?
    state := ← f.required "state" toRenderState?
    publicNames := ← f.required "public_parameters" toNames? }

def toUpdate? (j : Json) : Option Update := do
  let f ← Document.fields ["state", "public_parameters"] j
  return {
    state := ← f.required "state" toRenderState?
    publicChanges := ← f.withDefault "public_parameters" [] toChanges? }

def toOutcome? (j : Json) : Option Outcome := do
  let f ← Document.fields ["state", "notified_portlets"] j
  return {
    state := ← f.required "state" toRenderState?
    notified := ← f.required "notified_portlets" toNames? }

def toPortlet? (j : Json) : Option Portlet := Document.portlet j

def toPage? (j : Json) : Option Page := Document.page j

def toConfig? (j : Json) : Option Config := Document.config j

/-! ## Events -/

/-- A type without a name of its own is a word, or the word with null under it. -/
def toEventType? : Json → Option EventType
  | .text (some "StateChange") => some .stateChange
  | .object [(some "StateChange", .null)] => some .stateChange
  | .object [(some "Client", .text (some name))] => some (.client name)
  | _ => none

/-- The reason for a word. -/
def reasonOfWord? : String → Option Reason
  | "initial" => some .initial
  | "submitted" => some .submitted
  | "public_parameter" => some .publicParameter
  | "action" => some .action
  | _ => none

/-- A reason is a word, or the word with null under it.  Inside an event of
unknown kind an empty object stands for null as well. -/
def toReason? (emptyIsNull : Bool) : Json → Option Reason
  | .text (some word) => reasonOfWord? word
  | .object [(some word, .null)] => reasonOfWord? word
  | .object [(some word, .object [])] => if emptyIsNull then reasonOfWord? word else none
  | _ => none

/-- The stamp among the fields of an event. -/
def stampOf? (f : Fields Json) : Option Stamp := do
  return {
    id := ← f.required "event_id" Document.text
    time := ← f.required "timestamp" fun j => Document.text j >>= Timestamp.parse }

/-- The names of the fields of a state change. -/
def stateChangeNames : List String :=
  ["event_id", "timestamp", "portlet_id", "reason", "state", "changed_parameters",
    "portlet_mode_changed", "window_state_changed"]

/-- The names of the fields of a message. -/
def messageNames : List String :=
  ["event_id", "timestamp", "event_type", "source_portlet_id", "payload"]

/-- A state change with its stamp. -/
def toStateChange? (emptyIsNull : Bool) (j : Json) : Option (Stamp × StateChange) := do
  let f ← Document.fields stateChangeNames j
  return (← stampOf? f, {
    portlet := ← f.required "portlet_id" Document.text
    reason := ← f.required "reason" (toReason? emptyIsNull)
    state := ← f.required "state" toRenderState?
    changed := ← f.required "changed_parameters" toNames?
    modeChanged := ← f.required "portlet_mode_changed" Document.flag
    windowChanged := ← f.required "window_state_changed" Document.flag })

/-- A free value, `outside` levels deep in its text. -/
def toPayload? (outside : Nat) (j : Json) : Option Json :=
  if j.isSound ∧ j.depth + outside ≤ maxDepth then some j.normalize else none

/-- A message with its stamp; its payload is `outside` levels deep in the text. -/
def toMessage? (outside : Nat) (j : Json) : Option (Stamp × Message) := do
  let f ← Document.fields messageNames j
  return (← stampOf? f, {
    eventType := ← f.required "event_type" Document.text
    source := ← f.required "source_portlet_id" Document.text
    payload := ← f.required "payload" (toPayload? outside) })

/-- Splits the kind off the fields of an event. -/
def splitKind? : Json → Option (String × Json)
  | .array (.text (some kind) :: items) => some (kind, .array items)
  | .object members =>
    match members.filter fun member => member.1 == some "kind" with
    | [(_, .text (some kind))] =>
      some (kind, .object (members.filter fun member => member.1 != some "kind"))
    | _ => none
  | _ => none

/-- An event of any kind. -/
def toEvent? (j : Json) : Option (Event Stamp) := do
  if j.isSound ∧ j.depth ≤ maxDepth then
    let (kind, fields) ← splitKind? j
    if kind = "state_change" then
      let (stamp, change) ← toStateChange? true fields
      return ⟨stamp, .stateChange change⟩
    else if kind = "client" then
      let (stamp, message) ← toMessage? 1 fields
      return ⟨stamp, .message message⟩
    else none
  else none

end PortletPage.Json
