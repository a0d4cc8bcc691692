import PortletPage.Submission

/-!
# Servers

The servers that a hub can be tried with.  The simulated one grants every submission as
it stands; a switch makes it fail every round trip instead, and it counts the round
trips, failed ones included.  The scripted one answers by a script, one line for each
round trip.  Where the script says nothing, and after its end, a simulated server answers.
-/

namespace PortletPage

/-! ## A simulated server -/

/-- A server that grants everything, or nothing. -/
structure SimulatedServer where
  /-- Whether round trips fail. -/
  failing : Bool := false
  /-- How many round trips there were. -/
  calls : Nat := 0
  deriving DecidableEq, Repr

namespace SimulatedServer

/-- The text of a simulated failure. -/
def failureText : String := "Simulated communication error"

/-- Copies action parameters into a state, in their order.  Bindings that the
state has already are passed over; the others are listed as changes when their
name is public. -/
def merge (isPublic : String → Bool) : List Entry → RenderState → List Change × RenderState
  | [], s => ([], s)
  | (name, values) :: rest, s =>
    if s.parameters.get? name = some values then merge isPublic rest s
    else
      let (changes, merged) := merge isPublic rest (s.bind name values)
      (if isPublic name then ⟨name, some values⟩ :: changes else changes, merged)

/-- What a succeeding round trip grants: a submitted state with its public
changes, or the state that an action's parameters lead to. -/
def grant : Submission → Update
  | .state s => ⟨s.state, s.delta.publicChanges⟩
  | .action a =>
    let (changes, state) := merge a.publicNames.contains a.parameters.entries a.state
    ⟨state, changes⟩

/-- One round trip. -/
def answer (server : SimulatedServer) (s : Submission) : Answer × SimulatedServer :=
  (if server.failing then .failed (.communication failureText) else .granted (grant s),
    { server with calls := server.calls + 1 })

end SimulatedServer

/-! ## A scripted server -/

/-- How a scripted server answers one round trip. -/
inductive ScriptLine where
  | fail (error : TransportError)
  /-- The exchange breaks off. -/
  | breakOff
  /-- Grants a state, that of the submission unless another is given, after some
  edits, with the public changes of the submission unless others are given. -/
  | grant (state : Option RenderState) (edits : List Edit) (publicChanges : Option (List Change))
  /-- Leaves the answer to the simulated server. -/
  | pass
  deriving Repr

/-- A server with a script. -/
structure ScriptedServer where
  script : List ScriptLine
  simulated : SimulatedServer := {}
  deriving Repr

namespace ScriptedServer

/-- The state that a submission comes with. -/
def stateOf : Submission → RenderState
  | .state s => s.state
  | .action a => a.state

/-- The public changes that a submission comes with. -/
def publicChangesOf : Submission → List Change
  | .state s => s.delta.publicChanges
  | .action _ => []

/-- The answer of the simulated server. -/
def pass (server : ScriptedServer) (s : Submission) : Answer × ScriptedServer :=
  let (answer, simulated) := server.simulated.answer s
  (answer, { server with simulated := simulated })

/-- One round trip. -/
def answer (server : ScriptedServer) (s : Submission) : Answer × ScriptedServer :=
  match server.script with
  | [] => server.pass s
  | line :: script =>
    let server := { server with script := script }
    match line with
    | .fail error => (.failed error, server)
    | .breakOff => (.broken, server)
    | .grant state edits publicChanges =>
      (.granted {
        state := Edit.applyAll edits (state.getD (stateOf s))
        publicChanges := publicChanges.getD (publicChangesOf s) }, server)
    | .pass => server.pass s

end ScriptedServer

end PortletPage
