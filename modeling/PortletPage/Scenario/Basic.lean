import PortletPage.Event
import PortletPage.Hub.Move
import PortletPage.Server

/-!
# Scenarios

A scenario is a session on a page, written down in advance: what portlets do one
step after the other, how listeners react when they are called, and how the
server answers.  This module has the vocabulary; `PortletPage.Scenario.Session`
says how a session goes on, and `PortletPage.Scenario.Play` plays a scenario.
-/

namespace PortletPage.Scenario

/-- What a registered portlet does. -/
inductive Task where
  /-- Tells its id. -/
  | id
  /-- Shows its access to the hub. -/
  | showAccess
  /-- Tells the vocabulary. -/
  | vocabulary
  /-- Asks whether any call is in progress. -/
  | inProgress
  /-- Looks up its render state. -/
  | renderState
  | newState (seed : Option RenderState)
  | newParameters (seed : Option Parameters)
  /-- Detaches the listener whose handle is kept under that name. -/
  | unlisten (name : String)
  | dispatch (eventName : String) (payload : Json)
  /-- Submits a state, its own unless another is given, after some edits. -/
  | submit (state : Option RenderState) (edits : List Edit)
  | action (parameters : Parameters)
  /-- Something that portlets cannot do. -/
  | unknown
  deriving Repr

/-- A step of a session or of a listener's reaction. -/
inductive Step where
  /-- Tells the ids of the page. -/
  | portletIds
  /-- Asks whether any call is in progress. -/
  | inProgress
  /-- Shows the hub. -/
  | showHub
  /-- Tells how many round trips the simulated server has seen. -/
  | countCalls
  /-- Switches the failing of the simulated server. -/
  | setFailing (on : Bool)
  /-- Makes round trips slow, of which nothing can be seen. -/
  | setLatency
  /-- A portlet does something. -/
  | task (portlet : String) (task : Task)
  /-- A portlet adds a listener.  Its first `times` calls lead to the reactions;
  its handle is kept under `name`. -/
  | listen (portlet eventName name : String) (reactions : List Step) (times : Nat)
  /-- The listener breaks down; the rest of its reaction is lost. -/
  | breakDown
  deriving Repr

/-- One of several calls that are made at the same time. -/
structure Item where
  portlet : String
  task : Task
  /-- Whether the caller loses interest once all are under way. -/
  abandon : Bool
  deriving Repr

/-- What a session consists of. -/
inductive Act where
  | register (portlet : String)
  | step (s : Step)
  /-- Several calls at the same time. -/
  | concurrent (items : List Item)
  deriving Repr

/-- What comes of a step. -/
inductive Result where
  | nothing
  | registered (portlet : String)
  | names (names : List String)
  | flag (b : Bool)
  | count (n : Nat)
  | text (s : String)
  | vocabulary
  | state (s : RenderState)
  | parameters (p : Parameters)
  | handle (h : Handle)
  | outcome (o : Outcome)
  | failure (f : Failure)
  /-- The portlet has not been registered. -/
  | notRegistered
  /-- There is no such step. -/
  | badStep
  /-- The call is made later. -/
  | queued
  /-- The caller lost interest. -/
  | abandoned
  /-- Whether calls were in progress after the callers that lost interest had
  left, and the results of all calls. -/
  | concurrent (inProgress : Bool) (results : List Result)
  deriving Repr

namespace Result

/-- The result of a call. -/
def ofCall : CallResult → Result
  | .ok o => .outcome o
  | .error f => .failure f

/-- The result of a request. -/
def ofReply (portlet : String) : Reply → Result
  | .registered => .registered portlet
  | .added h => .handle h
  | .removed => .nothing
  | .delivered n => .count n
  | .refused f => .failure f

end Result

/-- What a session writes down. -/
inductive Note where
  /-- A submission went to the server. -/
  | sent (s : Submission)
  /-- A listener was called; events are numbered in the order of their first entry. -/
  | heard (listener : String) (event : Nat) (news : News)
  /-- A listener reacted. -/
  | reacted (listener : String) (result : Result)
  deriving Repr

/-- What came of one act. -/
structure Report where
  result : Result
  log : List Note
  /-- The calls that listeners made in reaction, in the order in which they were
  queued, with their results. -/
  finished : List (String × Result)
  deriving Repr

/-- What came of a session. -/
structure Outline where
  reports : List Report
  /-- The states at the end, in page order. -/
  states : List (String × RenderState)
  /-- The hub at the end. -/
  hub : String
  deriving Repr

end PortletPage.Scenario
