import PortletPage.Event
import PortletPage.Page
import PortletPage.Submission

/-!
# The store of render states

One record for each portlet of the page, in page order, with the portlet's
authoritative render state.  States change in one way only: `Store.commit`
applies what a server granted to one portlet, its submitter.
-/

namespace PortletPage

/-- A portlet with its authoritative state. -/
structure Record where
  portlet : Portlet
  state : RenderState
  /-- Whether the portlet has been registered. -/
  registered : Bool
  deriving DecidableEq, Repr

namespace Record

/-- The record of a portlet before anything has happened. -/
def start (p : Portlet) : Record := ⟨p, p.state, false⟩

/-- Whether the portlet declares `name` public. -/
def isPublic (r : Record) (name : String) : Bool := r.portlet.isPublic name

/-- The record with the state replaced, and the news of it. -/
def replace (r : Record) (state : RenderState) (reason : Reason) : StateChange × Record :=
  ({ portlet := r.portlet.id
     reason := reason
     state := state
     changed := r.state.parameters.changedNames state.parameters
     modeChanged := r.state.mode != state.mode
     windowChanged := r.state.window != state.window },
    { r with state := state })

/-- The record after changes that another portlet caused: those of names that
this portlet declares public.  There is news if one of them changed something. -/
def receive (r : Record) (changes : List Change) : Option StateChange × Record :=
  let (names, parameters) :=
    Change.applyAllNaming (changes.filter fun c => r.isPublic c.name) r.state.parameters
  let state := { r.state with parameters := parameters }
  let news : StateChange := ⟨r.portlet.id, .publicParameter, state, names, false, false⟩
  (if names = [] then none else some news, { r with state := state })

end Record

/-- The records of all portlets, in page order. -/
structure Store where
  records : List Record
  deriving DecidableEq, Repr

namespace Store

/-- The store of a page before anything has happened. -/
def ofPage (page : Page) : Store := ⟨page.portlets.map Record.start⟩

/-- The record of a portlet. -/
def get? (s : Store) (id : String) : Option Record :=
  s.records.find? fun r => r.portlet.id == id

/-- The ids in page order. -/
def ids (s : Store) : List String := s.records.map fun r => r.portlet.id

/-- The authoritative state of a portlet. -/
def state? (s : Store) (id : String) : Option RenderState := (s.get? id).map Record.state

/-- Marks a portlet as registered. -/
def register (s : Store) (id : String) : Store :=
  ⟨s.records.map fun r => if r.portlet.id = id then { r with registered := true } else r⟩

/-- Applies an update that was granted to `submitter`: its own state is replaced,
and every other portlet receives the public changes.  The news come with the
submitter's first and the others in page order. -/
def commit (s : Store) (submitter : String) (update : Update) (reason : Reason) :
    List StateChange × Store :=
  let own := (s.records.filter fun r => r.portlet.id = submitter).map fun r =>
    (r.replace update.state reason).1
  let others := (s.records.filter fun r => r.portlet.id ≠ submitter).filterMap fun r =>
    (r.receive update.publicChanges).1
  (own ++ others, ⟨s.records.map fun r =>
    if r.portlet.id = submitter then (r.replace update.state reason).2
    else (r.receive update.publicChanges).2⟩)

end Store

end PortletPage
