import PortletPage.Json.Basic
import PortletPage.RenderState
import PortletPage.Timestamp

/-!
# Events

What a listener receives: news of a changed render state, or a message from a
portlet.  Every event carries a stamp; what it is about is kept apart from the
stamp.  Inside a hub the stamp is a number, and on the wire a `Stamp`.

The type of an event is either the page's own `portlet.onStateChange` or a name that a
portlet made up.  Made-up names are not empty and do not begin with `portlet.`.
-/

namespace PortletPage

/-! ## Event types -/

/-- The event type fired when a portlet's render state changes. -/
def onStateChange : String := "portlet.onStateChange"

/-- Event types that begin with this belong to the page itself. -/
def reservedStart : String := "portlet."

/-- What listeners can be added for. -/
inductive EventType where
  /-- A change of a portlet's render state. -/
  | stateChange
  /-- A message between portlets, by its name. -/
  | client (name : String)
  deriving DecidableEq, Repr

namespace EventType

/-- Whether a name begins with the reserved start. -/
def isReserved (name : String) : Bool := reservedStart.toList.isPrefixOf name.toList

/-- The event type of that name, if the name is acceptable. -/
def parse (name : String) : Option EventType :=
  if name = onStateChange then some .stateChange
  else if name = "" ∨ isReserved name then none
  else some (.client name)

/-- The name of an event type. -/
def name : EventType → String
  | .stateChange => onStateChange
  | .client name => name

end EventType

/-! ## Events -/

/-- Why a state change is announced. -/
inductive Reason where
  /-- To a newly added listener, once. -/
  | initial
  /-- The portlet submitted a new state. -/
  | submitted
  /-- Another portlet changed a parameter that the portlet shares. -/
  | publicParameter
  /-- The portlet executed an action. -/
  | action
  deriving DecidableEq, Repr

/-- The identity of an event on the wire and the time at which it was made. -/
structure Stamp where
  id : String
  time : Timestamp
  deriving DecidableEq, Repr, Inhabited

/-- News of a portlet's render state. -/
structure StateChange where
  /-- The portlet whose state it is. -/
  portlet : String
  reason : Reason
  /-- The state after the change. -/
  state : RenderState
  /-- The names whose bindings changed. -/
  changed : List String
  modeChanged : Bool
  windowChanged : Bool
  deriving DecidableEq, Repr

/-- Whether `name` is among the changed names. -/
def StateChange.hasChanged (c : StateChange) (name : String) : Bool := c.changed.contains name

/-- A message from a portlet to the page. -/
structure Message where
  /-- The name of the event type. -/
  eventType : String
  /-- The portlet that sent it. -/
  source : String
  payload : Json
  deriving Repr, BEq

/-- What an event is about. -/
inductive News where
  | stateChange (change : StateChange)
  | message (message : Message)
  deriving Repr

namespace News

/-- The name of the event type for which the news is delivered. -/
def typeName : News → String
  | .stateChange _ => onStateChange
  | .message m => m.eventType

/-- The state change, if the news is of one. -/
def change? : News → Option StateChange
  | .stateChange change => some change
  | .message _ => none

/-- The message, if the news is one. -/
def message? : News → Option Message
  | .stateChange _ => none
  | .message m => some m

end News

/-- An event as listeners receive it.  The stamp tells it from other events. -/
structure Event (σ : Type) where
  stamp : σ
  news : News
  deriving Repr

end PortletPage
