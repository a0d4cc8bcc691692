import PortletPage.Scenario.Session

/-!
# Playing a scenario

`Scenario.play` goes through the acts of a scenario.  Each act begins when the
session has come to rest after the one before.

How many moves an act can lead to follows from the scenario: listeners react a
bounded number of times, so that only so many listeners are ever added and only
so many calls are ever made (`Act.weight`).  `moveLimit` is well above what these
can come to.
-/

namespace PortletPage.Scenario

/-! ## A limit on moves -/

mutual

/-- How many steps a step can lead to, itself included. -/
def Step.weight : Step → Nat
  | .listen _ _ _ reactions times => 1 + times * (1 + weightAll reactions)
  | _ => 1

/-- How many steps a list of steps can lead to. -/
def weightAll : List Step → Nat
  | [] => 0
  | s :: rest => s.weight + weightAll rest

end

/-- How many steps an act can lead to. -/
def Act.weight : Act → Nat
  | .register _ => 1
  | .step s => s.weight
  | .concurrent items => items.length + 1

/-- More moves than acts with these weights can lead to on a page of that size:
each step may be a call, whose changes may each be told to every listener. -/
def moveLimit (portlets : Nat) (acts : List Act) : Nat :=
  let steps := acts.foldl (fun n a => n + a.weight) 0
  16 * (steps + 1) * (steps + 1) * (portlets + 1)

/-! ## Acts -/

namespace Session

/-- The result of a call. -/
def resultOf (s : Session) (number : Nat) : Result :=
  match s.ended.lookup number with
  | some r => .ofCall r
  | none => .abandoned

/-- Begins a call and, if the lock is free, lets it come as far as it can. -/
def begin (s : Session) (call : Call) : Session :=
  let s := s.make (.enter call)
  if s.hub.holder.isNone then s.make .acquire else s

/-- Makes the calls of the items, in order; an item that is no call has a result
instead of a number. -/
def newCalls (s : Session) : List Item → List (Except Result Call) × Session
  | [] => ([], s)
  | item :: items =>
    if item.portlet ∈ s.registered then
      match s.wish? item.portlet item.task with
      | some w =>
        let (call, s) := s.newCall item.portlet w
        let (calls, s) := newCalls s items
        (.ok call :: calls, s)
      | none =>
        let (calls, s) := newCalls s items
        (.error .badStep :: calls, s)
    else
      let (calls, s) := newCalls s items
      (.error .notRegistered :: calls, s)

/-- The callers that lose interest leave, unless their calls have ended. -/
def abandon (s : Session) : List (Item × Except Result Call) → Session
  | [] => s
  | (item, .ok call) :: rest =>
    if item.abandon ∧ (s.ended.lookup call.number).isNone then
      (s.make (.leave call.number)).abandon rest
    else s.abandon rest
  | (_, .error _) :: rest => s.abandon rest

/-- Makes several calls at the same time. -/
def concurrently (s : Session) (limit : Nat) (items : List Item) : Session :=
  let (calls, s) := s.newCalls items
  let begun := calls.foldl (fun s call =>
    match call with
    | .ok call => s.begin call
    | .error _ => s) s
  let left := begun.abandon (items.zip calls)
  let inProgress := left.hub.inProgress
  let s := left.settle limit
  let results := calls.map fun call =>
    match call with
    | .ok call => s.resultOf call.number
    | .error r => r
  { s with result := .concurrent inProgress results }

/-- One act, until the session has come to rest. -/
def act (s : Session) (limit : Nat) : Act → Session
  | .register portlet => (s.ask none portlet "" (.register portlet)).settle limit
  | .concurrent items => s.concurrently limit items
  | .step (.task portlet task) =>
    match s.wish? portlet task with
    | some w =>
      if portlet ∈ s.registered then
        let (call, s) := s.newCall portlet w
        let s := (s.make (.enter call)).settle limit
        { s with result := s.resultOf call.number }
      else { s with result := .notRegistered }
    | none => (s.doStep none (.task portlet task)).settle limit
  | .step step => (s.doStep none step).settle limit

/-- What came of the act before. -/
def report (s : Session) : Report where
  result := s.result
  log := s.log.reverse
  finished := s.queued.map fun (listener, number) => (listener, s.resultOf number)

/-- Plays acts, one after the other. -/
def acts (s : Session) (limit : Nat) : List Act → List Report × Session
  | [] => ([], s)
  | a :: rest =>
    let s := { s with result := .nothing, log := [], queued := [] }.act limit a
    let (reports, last) := s.acts limit rest
    (s.report :: reports, last)

end Session

/-- Plays a scenario on a page, if the page is valid. -/
def play (page : Page) (config : Config) (script : List ScriptLine) (acts : List Act) :
    Except Failure Outline := do
  let hub ← Hub.ofPage page config
  let start : Session := { hub := hub, server := { script := script } }
  let (reports, last) := start.acts (moveLimit page.portlets.length acts) acts
  return {
    reports := reports
    states := last.hub.store.records.map fun r => (r.portlet.id, r.state)
    hub := last.hub.text }

end PortletPage.Scenario
