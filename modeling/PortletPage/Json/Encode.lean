import PortletPage.Event
import PortletPage.Json.Basic
import PortletPage.Json.Syntax
import PortletPage.Page
import PortletPage.Submission

/-!
# Domain values as JSON

Records are written as objects with their fields in a fixed order, parameters as
an object in the order of the container.  A mode or window state that a delta
does not change is left out; all other fields are always written.
-/

namespace PortletPage

/-- A list of texts. -/
def Json.ofNames (names : List String) : Json := .array (names.map Json.str)

/-- A text or null. -/
def Json.ofTextOrNull : Option String → Json
  | some s => .str s
  | none => .null

/-- A sequence of values. -/
def Json.ofValues (values : Values) : Json := .array (values.map Json.ofTextOrNull)

def Parameters.toJson (p : Parameters) : Json :=
  .record (p.entries.map fun (name, values) => (name, Json.ofValues values))

def RenderState.toJson (s : RenderState) : Json := .record [
  ("portletMode", .str s.mode),
  ("windowState", .str s.window),
  ("parameters", s.parameters.toJson)]

def Change.toJson (c : Change) : Json := .record [
  ("name", .str c.name),
  ("values", match c.values with
    | some values => .ofValues values
    | none => .null)]

/-- A list of changes. -/
def Json.ofChanges (changes : List Change) : Json := .array (changes.map Change.toJson)

def Delta.toJson (d : Delta) : Json := .record <|
  (match d.mode with
    | some mode => [("portlet_mode", .str mode)]
    | none => [])
  ++ (match d.window with
    | some window => [("window_state", .str window)]
    | none => [])
  ++ [("private_parameters", .ofChanges d.privateChanges),
    ("public_parameters", .ofChanges d.publicChanges)]

def StateSubmission.toJson (s : StateSubmission) : Json := .record [
  ("portlet_id", .str s.portlet),
  ("delta", s.delta.toJson),
  ("state", s.state.toJson)]

def ActionSubmission.toJson (a : ActionSubmission) : Json := .record [
  ("portlet_id", .str a.portlet),
  ("action_parameters", a.parameters.toJson),
  ("state", a.state.toJson),
  ("public_parameters", .ofNames a.publicNames)]

def Update.toJson (u : Update) : Json := .record [
  ("state", u.state.toJson),
  ("public_parameters", .ofChanges u.publicChanges)]

def Outcome.toJson (o : Outcome) : Json := .record [
  ("state", o.state.toJson),
  ("notified_portlets", .ofNames o.notified)]

def Portlet.toJson (p : Portlet) : Json := .record [
  ("id", .str p.id),
  ("private_parameters", .ofNames p.privateNames),
  ("public_parameters", .ofNames p.publicNames),
  ("state", p.state.toJson)]

def Page.toJson (p : Page) : Json := .record [
  ("portlets", .array (p.portlets.map Portlet.toJson))]

def Config.toJson (c : Config) : Json := .record [
  ("default_portlet_mode", .str c.mode),
  ("default_window_state", .str c.window),
  ("emit_initial_state", .bool c.announceInitial)]

def Vocabulary.toJson (v : Vocabulary) : Json := .record [
  ("view", .str v.view), ("edit", .str v.edit), ("help", .str v.help),
  ("normal", .str v.normal), ("minimized", .str v.minimized), ("maximized", .str v.maximized),
  ("full", .str v.full), ("portlet", .str v.portlet), ("page", .str v.page)]

def EventType.toJson : EventType → Json
  | .stateChange => .str "StateChange"
  | .client name => .record [("Client", .str name)]

/-- The word for a reason. -/
def Reason.word : Reason → String
  | .initial => "initial"
  | .submitted => "submitted"
  | .publicParameter => "public_parameter"
  | .action => "action"

def Reason.toJson (r : Reason) : Json := .str r.word

/-- The fields of a state change with its stamp. -/
def StateChange.members (stamp : Stamp) (c : StateChange) : List (String × Json) := [
  ("event_id", .str stamp.id),
  ("timestamp", .str stamp.time.print),
  ("portlet_id", .str c.portlet),
  ("reason", c.reason.toJson),
  ("state", c.state.toJson),
  ("changed_parameters", .ofNames c.changed),
  ("portlet_mode_changed", .bool c.modeChanged),
  ("window_state_changed", .bool c.windowChanged)]

/-- The fields of a message with its stamp. -/
def Message.members (stamp : Stamp) (m : Message) : List (String × Json) := [
  ("event_id", .str stamp.id),
  ("timestamp", .str stamp.time.print),
  ("event_type", .str m.eventType),
  ("source_portlet_id", .str m.source),
  ("payload", m.payload)]

/-- A state change on its own. -/
def StateChange.toJson (stamp : Stamp) (c : StateChange) : Json := .record (c.members stamp)

/-- A message on its own. -/
def Message.toJson (stamp : Stamp) (m : Message) : Json := .record (m.members stamp)

/-- An event: its kind first, then the fields of what it carries. -/
def Event.toJson (e : Event Stamp) : Json :=
  match e.news with
  | .stateChange c => .record (("kind", .str "state_change") :: c.members e.stamp)
  | .message m => .record (("kind", .str "client") :: m.members e.stamp)

end PortletPage
