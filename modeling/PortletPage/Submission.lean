import PortletPage.Delta

/-!
# Submissions and their answers

What a hub sends to the server that owns the page, and what comes back.  Nothing
here says how a server decides; see `PortletPage.Server`.
-/

namespace PortletPage

/-- A new render state of a portlet, as it is sent. -/
structure StateSubmission where
  portlet : String
  /-- The difference from the state before. -/
  delta : Delta
  /-- The whole submitted state. -/
  state : RenderState
  deriving DecidableEq, Repr

/-- An action of a portlet, as it is sent. -/
structure ActionSubmission where
  portlet : String
  /-- The parameters of the action. -/
  parameters : Parameters
  /-- The state of the portlet before the action. -/
  state : RenderState
  /-- The names that the portlet declares public. -/
  publicNames : List String
  deriving DecidableEq, Repr

/-- What is sent in one round trip. -/
inductive Submission where
  | state (s : StateSubmission)
  | action (a : ActionSubmission)
  deriving DecidableEq, Repr

/-- The portlet that submits. -/
def Submission.portlet : Submission → String
  | .state s => s.portlet
  | .action a => a.portlet

/-- What a server grants. -/
structure Update where
  /-- The submitter's new state. -/
  state : RenderState
  /-- Changes for every other portlet that declares the name public. -/
  publicChanges : List Change
  deriving DecidableEq, Repr

/-- Why a round trip failed. -/
inductive TransportError where
  /-- The round trip could not be completed. -/
  | communication (text : String)
  /-- The server refused. -/
  | rejected (text : String)
  deriving DecidableEq, Repr

/-- The wording of a failed round trip. -/
def TransportError.message : TransportError → String
  | .communication text => "Communication error: " ++ text
  | .rejected text => "Submission rejected: " ++ text

/-- How a round trip ends. -/
inductive Answer where
  | granted (update : Update)
  | failed (error : TransportError)
  /-- The exchange broke off without an answer. -/
  | broken
  deriving DecidableEq, Repr

/-- What the submitter learns of a round trip that was granted. -/
structure Outcome where
  /-- The submitter's state. -/
  state : RenderState
  /-- The portlets whose states changed, in the order in which they were told. -/
  notified : List String
  deriving DecidableEq, Repr

end PortletPage
