import PortletPage.RenderState

/-!
# Pages and configurations

A page lists its portlets in page order.  Each portlet declares parameter names
that are its own (private) and names that it shares with every other portlet
that declares them public, and has a state to start from.

`Page.validate` accepts a page when every portlet has a name, no two portlets
have the same one, and no portlet declares a name both private and public.  It
reports the first fault in page order.

A configuration is set for the hub of a page: what a new render state begins with, and
whether a new listener is told the current state.
-/

namespace PortletPage

/-! ## Pages -/

/-- One portlet as the page declares it. -/
structure Portlet where
  id : String
  privateNames : List String
  publicNames : List String
  /-- The state to start from. -/
  state : RenderState
  deriving DecidableEq, Repr

/-- Whether the portlet declares `name` public. -/
def Portlet.isPublic (p : Portlet) (name : String) : Bool := p.publicNames.contains name

/-- The portlets of a page, in page order. -/
structure Page where
  portlets : List Portlet
  deriving DecidableEq, Repr

namespace Page

/-- What can be wrong with a page. -/
inductive Fault where
  | emptyId
  | repeatedId (id : String)
  | privateAndPublic (name id : String)
  deriving DecidableEq, Repr

/-- The wording of a fault. -/
def Fault.message : Fault → String
  | .emptyId => "portlet id must not be empty"
  | .repeatedId id => "duplicate portlet id '" ++ id ++ "'"
  | .privateAndPublic name id =>
    "parameter '" ++ name ++ "' of portlet '" ++ id ++ "' is declared both private and public"

/-- The fault of `p` on a page where the ids of `earlier` come before it. -/
def faultOf (earlier : List String) (p : Portlet) : Option Fault :=
  if p.id = "" then some .emptyId
  else if p.id ∈ earlier then some (.repeatedId p.id)
  else (p.privateNames.find? p.isPublic).map fun name => .privateAndPublic name p.id

/-- The first fault among portlets that follow those with the ids `earlier`. -/
def firstFault (earlier : List String) : List Portlet → Option Fault
  | [] => none
  | p :: rest =>
    match faultOf earlier p with
    | some fault => some fault
    | none => firstFault (p.id :: earlier) rest

/-- The page itself, or its first fault. -/
def validate (page : Page) : Except Fault Page :=
  match firstFault [] page.portlets with
  | some fault => .error fault
  | none => .ok page

/-- The portlet with that id. -/
def get? (page : Page) (id : String) : Option Portlet := page.portlets.find? fun p => p.id == id

/-- The ids in page order. -/
def ids (page : Page) : List String := page.portlets.map Portlet.id

end Page

/-! ## Configurations -/

/-- The settings of a hub. -/
structure Config where
  /-- The mode of a new render state. -/
  mode : String := ""
  /-- The window state of a new render state. -/
  window : String := ""
  /-- Whether a listener for state changes is told the current state when it is added. -/
  announceInitial : Bool := true
  deriving DecidableEq, Repr

namespace Config

/-- The settings with another mode and window state for new render states. -/
def withState (c : Config) (mode window : String) : Config :=
  { c with mode := mode, window := window }

/-- The settings with the announcement to new listeners switched. -/
def withAnnouncement (c : Config) (on : Bool) : Config := { c with announceInitial := on }

end Config

end PortletPage
