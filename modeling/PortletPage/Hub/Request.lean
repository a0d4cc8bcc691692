import PortletPage.Hub.Basic

/-!
# Requests to a hub

What portlets ask of a hub and get at once: registration, listeners, messages to
other portlets.  A request may start a delivery; its reply lies under the
frames of the delivery and is taken when they are gone.
-/

namespace PortletPage

/-- What a portlet asks of the hub. -/
inductive Request (κ : Type) where
  | register (portlet : String)
  /-- Call `callback` for events of that type. -/
  | listen (portlet eventName : String) (callback : κ)
  /-- Detach a listener; without a handle there is nothing to do. -/
  | unlisten (portlet : String) (handle : Option Handle)
  /-- Send a message to everyone who listens for that type. -/
  | dispatch (source eventName : String) (payload : Json)
  deriving Repr

namespace Hub

variable {κ : Type}

/-- The hub with frames on top of its delivery. -/
def deliver (h : Hub κ) (frames : List (Frame κ)) : Hub κ :=
  { h with delivery := frames ++ h.delivery }

/-- Registers a portlet of the page; to register it again changes nothing. -/
def register (h : Hub κ) (portlet : String) : Hub κ :=
  match h.store.get? portlet with
  | some _ => { h with store := h.store.register portlet }.deliver [.reply .registered]
  | none => h.deliver [.reply (.refused (.unknownPortlet portlet))]

/-- Adds a listener.  One for state changes is told the current state at once, if
the configuration says so. -/
def listen (h : Hub κ) (portlet eventName : String) (callback : κ) : Hub κ :=
  match EventType.parse eventName with
  | none => h.deliver [.reply (.refused (.invalidEventType eventName))]
  | some type =>
    let (handle, registry) := h.registry.add portlet type callback
    let h := { h with registry := registry }
    match type, h.config.announceInitial, h.store.state? portlet with
    | .stateChange, true, some state =>
      let change : StateChange :=
        ⟨portlet, .initial, state, state.parameters.names, false, false⟩
      { h with made := h.made + 1 }.deliver
        [.calls ⟨h.made, .stateChange change⟩ [callback], .reply (.added handle)]
    | _, _, _ => h.deliver [.reply (.added handle)]

/-- Detaches a listener of that portlet. -/
def unlisten (h : Hub κ) (portlet : String) (handle : Option Handle) : Hub κ :=
  match handle with
  | none => h.deliver [.reply .removed]
  | some handle =>
    let (found, registry) := h.registry.remove handle
    if handle.portlet = portlet ∧ found then
      { h with registry := registry }.deliver [.reply .removed]
    else h.deliver [.reply (.refused (.unknownListener handle))]

/-- Sends a message to every listener for its type that is attached now. -/
def dispatch (h : Hub κ) (source eventName : String) (payload : Json) : Hub κ :=
  match EventType.parse eventName with
  | some (.client name) =>
    let targets := (h.registry.listenersOfType (.client name)).map Prod.snd
    { h with made := h.made + 1 }.deliver
      [.calls ⟨h.made, .message ⟨eventName, source, payload⟩⟩ targets,
        .reply (.delivered targets.length)]
  | _ => h.deliver [.reply (.refused (.invalidEventType eventName))]

/-- Puts a request to the hub. -/
def ask (h : Hub κ) : Request κ → Hub κ
  | .register portlet => h.register portlet
  | .listen portlet eventName callback => h.listen portlet eventName callback
  | .unlisten portlet handle => h.unlisten portlet handle
  | .dispatch source eventName payload => h.dispatch source eventName payload

end Hub

end PortletPage
