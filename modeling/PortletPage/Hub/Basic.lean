import PortletPage.Failure
import PortletPage.Page
import PortletPage.Store
import PortletPage.Text

/-!
# Hubs

A hub holds the authoritative states of a page's portlets and their listeners,
and passes submissions to the server one at a time.

Portlets *call* the hub to submit a state or to execute an action.  Calls wait
in a queue for the submission lock, in the order in which they came.  The call
that holds the lock sends its submission, waits for the answer, applies it and
lets go of the lock when everyone who listens has been told.  A caller that
loses interest while its call waits takes the call back; later its call runs on
without it.

`Hub.delivery` is the stack of what is being delivered: listeners may use the
hub while they run, so that one delivery can interrupt another.

The operations are in `PortletPage.Hub.Request`, and `PortletPage.Hub.Move`
puts them together into the moves that a hub can make.
-/

namespace PortletPage

/-- What a portlet wants of the server. -/
inductive Wish where
  /-- Show this state. -/
  | state (s : RenderState)
  /-- Execute an action with these parameters. -/
  | action (parameters : Parameters)
  deriving DecidableEq, Repr

/-- A portlet's call of the hub, told from other calls by its number. -/
structure Call where
  number : Nat
  portlet : String
  wish : Wish
  deriving DecidableEq, Repr

/-- How a call ends for its caller. -/
abbrev CallResult := Except Failure Outcome

/-- How far the call that holds the lock has come. -/
inductive Stage where
  /-- Its submission is made and waits to be sent. -/
  | ready (s : Submission)
  /-- Its submission is with the server. -/
  | sent (s : Submission)
  /-- The answer has come and, if it was granted, been applied. -/
  | over (result : CallResult)
  deriving Repr

/-- The call that holds the submission lock. -/
structure Holder where
  call : Call
  /-- Whether the caller still waits for the result. -/
  attended : Bool
  stage : Stage
  deriving Repr

/-- What a request is answered with. -/
inductive Reply where
  | registered
  /-- The handle of a new listener. -/
  | added (handle : Handle)
  | removed
  /-- How many listeners a message was delivered to. -/
  | delivered (count : Nat)
  | refused (failure : Failure)
  deriving DecidableEq, Repr

/-- A part of a delivery that is not over. -/
inductive Frame (κ : Type) where
  /-- State changes whose turn is still to come, with their stamps. -/
  | turns (changes : List (Nat × StateChange))
  /-- An event and the callbacks that are still to be called with it. -/
  | calls (event : Event Nat) (callbacks : List κ)
  /-- A callback that runs. -/
  | running (callback : κ)
  /-- The answer that a request gets when the frames above are gone. -/
  | reply (r : Reply)
  deriving Repr

/-- The hub of a page; `κ` stands for callbacks. -/
structure Hub (κ : Type) where
  config : Config
  store : Store
  registry : Registry κ
  /-- How many calls have come and are neither ended nor taken back. -/
  inFlight : Nat
  /-- The calls that wait for the lock, in the order in which they came. -/
  queue : List Call
  /-- The call that holds the lock. -/
  holder : Option Holder
  /-- What is being delivered, innermost first. -/
  delivery : List (Frame κ)
  /-- How many events have been made. -/
  made : Nat
  deriving Repr

namespace Hub

variable {κ : Type}

/-- The hub of a page before anything has happened. -/
def start (page : Page) (config : Config) : Hub κ where
  config := config
  store := .ofPage page
  registry := .empty
  inFlight := 0
  queue := []
  holder := none
  delivery := []
  made := 0

/-- A hub for a page, if the page is valid. -/
def ofPage (page : Page) (config : Config) : Except Failure (Hub κ) :=
  match page.validate with
  | .ok page => .ok (start page config)
  | .error fault => .error (.invalidPage fault)

/-- Whether any call is queued or under way. -/
def inProgress (h : Hub κ) : Bool := 0 < h.inFlight

/-- A portlet's authoritative state; empty for a portlet that is not on the page. -/
def renderState (h : Hub κ) (portlet : String) : RenderState :=
  (h.store.state? portlet).getD .empty

/-- A new state to work on: a copy of `seed` or, without one, the configured mode
and window state and no parameters. -/
def newState (h : Hub κ) (seed : Option RenderState) : RenderState :=
  seed.getD ⟨h.config.mode, h.config.window, .empty⟩

/-- The written form of a hub: its portlets, how many listeners there are and how
many calls are in flight. -/
def text (h : Hub κ) : String :=
  "PortletHub \x7b portlets: [" ++ ", ".intercalate (h.store.ids.map Text.quote)
    ++ "], listeners: " ++ toString h.registry.size
    ++ ", in_flight: " ++ toString h.inFlight ++ " \x7d"

/-- The written form of a registered portlet's access to the hub. -/
def accessText (portlet : String) : String :=
  "PortletInit \x7b portlet_id: " ++ Text.quote portlet ++ " \x7d"

end Hub

end PortletPage
