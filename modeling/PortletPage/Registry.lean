import PortletPage.Event

/-!
# Listener registries

The listeners of a page, in the order in which they were added.  Adding a
listener gives a handle with a fresh number, and a handle detaches exactly the
registration that it was given for.

What is called when an event arrives is left open: `κ` stands for callbacks.
-/

namespace PortletPage

/-- What a listener is detached with: its number, its portlet and the name of
its event type. -/
structure Handle where
  number : Nat
  portlet : String
  eventType : String
  deriving DecidableEq, Repr

/-- The written form of a handle. -/
def Handle.text (h : Handle) : String :=
  "ListenerHandle(" ++ toString h.number ++ ":" ++ h.portlet ++ ":" ++ h.eventType ++ ")"

/-- One registration. -/
structure Listener (κ : Type) where
  handle : Handle
  type : EventType
  callback : κ
  deriving Repr

/-- Whether the registration is for that portlet and that event type. -/
def Listener.isFor {κ : Type} (l : Listener κ) (portlet : String) (type : EventType) : Bool :=
  l.handle.portlet == portlet && l.type == type

/-- The listeners of a page and the number given last. -/
structure Registry (κ : Type) where
  lastNumber : Nat
  listeners : List (Listener κ)
  deriving Repr

namespace Registry

variable {κ : Type}

/-- The registry without listeners. -/
def empty : Registry κ := ⟨0, []⟩

/-- Adds a listener at the end and returns its handle. -/
def add (r : Registry κ) (portlet : String) (type : EventType) (callback : κ) :
    Handle × Registry κ :=
  let handle : Handle := ⟨r.lastNumber + 1, portlet, type.name⟩
  (handle, ⟨r.lastNumber + 1, r.listeners ++ [⟨handle, type, callback⟩]⟩)

/-- Whether the handle is attached. -/
def isAttached (r : Registry κ) (handle : Handle) : Bool :=
  r.listeners.any fun l => l.handle == handle

/-- Detaches the registration of a handle and says whether there was one. -/
def remove (r : Registry κ) (handle : Handle) : Bool × Registry κ :=
  (r.isAttached handle, { r with listeners := r.listeners.eraseP fun l => l.handle == handle })

/-- The callbacks for one portlet and event type, in the order of registration. -/
def listenersFor (r : Registry κ) (portlet : String) (type : EventType) : List κ :=
  (r.listeners.filter fun l => l.isFor portlet type).map Listener.callback

/-- The portlet and callback of every listener for an event type, in the order
of registration. -/
def listenersOfType (r : Registry κ) (type : EventType) : List (String × κ) :=
  (r.listeners.filter fun l => l.type == type).map fun l => (l.handle.portlet, l.callback)

/-- How many listeners are attached. -/
def size (r : Registry κ) : Nat := r.listeners.length

/-- Whether no listener is attached. -/
def isEmpty (r : Registry κ) : Bool := r.listeners.isEmpty

/-- The written form: the number given last and the handles. -/
def text (r : Registry κ) : String :=
  "ListenerRegistry \x7b next_id: " ++ toString r.lastNumber ++ ", handles: ["
    ++ ", ".intercalate (r.listeners.map fun l => l.handle.text) ++ "] \x7d"

end Registry

end PortletPage
