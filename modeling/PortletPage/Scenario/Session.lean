import PortletPage.Scenario.Basic

/-!
# Sessions

A session is a hub with its server and its listeners.  `Session.next` decides who
moves: a delivery goes on before anything else, then the lock changes hands, then
the calls that listeners made in reaction begin, in the order in which they were
made, and only then does the submission under way proceed.  So a session comes to
rest, and until then no step of its scenario begins.
-/

namespace PortletPage.Scenario

/-- A listener of a scenario. -/
structure Callback where
  /-- Tells listeners apart. -/
  key : Nat
  name : String
  /-- What the listener does when it reacts. -/
  reactions : List Step
  deriving Repr

/-- A request that has not been answered. -/
structure Asked where
  /-- The listener that asks, unless a step of the session does. -/
  listener : Option String
  portlet : String
  /-- The name under which to keep the handle. -/
  keepAs : String
  deriving Repr

/-- A session on a page. -/
structure Session where
  hub : Hub Callback
  server : ScriptedServer
  /-- The portlets that have been registered. -/
  registered : List String := []
  /-- The handles that have been kept, the latest first. -/
  handles : List (String × Handle) := []
  /-- How often each listener may still react. -/
  reactionsLeft : List Nat := []
  /-- The listeners that run, with what is left of their reactions, innermost first. -/
  running : List (String × List Step) := []
  /-- The requests that have not been answered, innermost first. -/
  asked : List Asked := []
  /-- The calls that listeners have made and that have not begun. -/
  waiting : List Call := []
  /-- How many calls have been made. -/
  calls : Nat := 0
  /-- The calls that listeners have made in this act. -/
  queued : List (String × Nat) := []
  /-- The calls that have ended, the latest first. -/
  ended : List (Nat × CallResult) := []
  /-- The result of the step that runs. -/
  result : Result := .nothing
  /-- What has been written down in this act, the latest first. -/
  log : List Note := []
  /-- The events that have been written down, by their stamps, in order. -/
  heard : List Nat := []
  deriving Repr

namespace Session

/-! ## Seeing -/

/-- Writes a note. -/
def note (s : Session) (n : Note) : Session := { s with log := n :: s.log }

/-- Hands a result to the listener that reacts or to the step that runs. -/
def post (s : Session) (listener : Option String) (r : Result) : Session :=
  match listener with
  | some name => s.note (.reacted name r)
  | none => { s with result := r }

/-- A listener is called: it reacts, if it still may. -/
def call (s : Session) (c : Callback) (e : Event Nat) : Session :=
  let heard := if e.stamp ∈ s.heard then s.heard else s.heard ++ [e.stamp]
  let s := { s with heard := heard }.note (.heard c.name (heard.idxOf e.stamp + 1) e.news)
  match s.reactionsLeft[c.key]? with
  | some (n + 1) =>
    { s with
      reactionsLeft := s.reactionsLeft.set c.key n
      running := (c.name, c.reactions) :: s.running }
  | _ => { s with running := (c.name, []) :: s.running }

/-- A request is answered; the handle of a new listener is kept. -/
def replied (s : Session) (r : Reply) : Session :=
  match s.asked with
  | [] => s
  | a :: asked =>
    let s := { s with asked := asked }
    let s := match r with
      | .added handle => { s with handles := (a.keepAs, handle) :: s.handles }
      | .registered => { s with registered := a.portlet :: s.registered }
      | _ => s
    s.post a.listener (.ofReply a.portlet r)

/-- Takes notice of what is seen of a move. -/
def see (s : Session) : Sign Callback → Session
  | .sent submission => s.note (.sent submission)
  | .called c e => s.call c e
  | .replied r => s.replied r
  | .ended number result => { s with ended := (number, result) :: s.ended }

/-- Makes a move. -/
def make (s : Session) (m : Move Callback) : Session :=
  match s.hub.move m with
  | some (hub, signs) => signs.foldl see { s with hub := hub }
  | none => s

/-! ## Doing -/

/-- Puts a request to the hub. -/
def ask (s : Session) (listener : Option String) (portlet keepAs : String)
    (r : Request Callback) : Session :=
  { s with asked := ⟨listener, portlet, keepAs⟩ :: s.asked }.make (.ask r)

/-- What a portlet wants of the server, if its task is a call. -/
def wish? (s : Session) (portlet : String) : Task → Option Wish
  | .submit state edits =>
    some (.state (Edit.applyAll edits (state.getD (s.hub.renderState portlet))))
  | .action parameters => some (.action parameters)
  | _ => none

/-- The next call, with a number of its own. -/
def newCall (s : Session) (portlet : String) (w : Wish) : Call × Session :=
  (⟨s.calls, portlet, w⟩, { s with calls := s.calls + 1 })

/-- A listener makes a call, which begins later. -/
def queueCall (s : Session) (listener portlet : String) (w : Wish) : Session :=
  let (call, s) := s.newCall portlet w
  { s with
    waiting := s.waiting ++ [call]
    queued := s.queued ++ [(listener, call.number)] }.post (some listener) .queued

/-- A registered portlet does something that is not a call. -/
def doTask (s : Session) (listener : Option String) (portlet : String) : Task → Session
  | .id => s.post listener (.text portlet)
  | .showAccess => s.post listener (.text (Hub.accessText portlet))
  | .vocabulary => s.post listener .vocabulary
  | .inProgress => s.post listener (.flag s.hub.inProgress)
  | .renderState => s.post listener (.state (s.hub.renderState portlet))
  | .newState seed => s.post listener (.state (s.hub.newState seed))
  | .newParameters seed => s.post listener (.parameters (seed.getD .empty))
  | .unlisten name => s.ask listener portlet "" (.unlisten portlet (s.handles.lookup name))
  | .dispatch eventName payload =>
    s.ask listener portlet "" (.dispatch portlet eventName payload)
  | .submit _ _ | .action _ | .unknown => s.post listener .badStep

/-- A step that is not a call. -/
def doStep (s : Session) (listener : Option String) : Step → Session
  | .portletIds => s.post listener (.names s.hub.store.ids)
  | .inProgress => s.post listener (.flag s.hub.inProgress)
  | .showHub => s.post listener (.text s.hub.text)
  | .countCalls => s.post listener (.count s.server.simulated.calls)
  | .setFailing on =>
    let simulated := { s.server.simulated with failing := on }
    { s with server := { s.server with simulated := simulated } }.post listener (.flag on)
  | .setLatency => s.post listener .nothing
  | .task portlet task =>
    if portlet ∈ s.registered then s.doTask listener portlet task
    else s.post listener .notRegistered
  | .listen portlet eventName name reactions times =>
    if portlet ∈ s.registered then
      let c : Callback := ⟨s.reactionsLeft.length, name, reactions⟩
      { s with reactionsLeft := s.reactionsLeft ++ [times] }.ask listener portlet name
        (.listen portlet eventName c)
    else s.post listener .notRegistered
  | .breakDown => s.post listener .badStep

/-- A step of a listener's reaction: calls are queued, all else is done at once. -/
def react (s : Session) (listener : String) (step : Step) : Session :=
  match step with
  | .task portlet task =>
    match s.wish? portlet task with
    | some w =>
      if portlet ∈ s.registered then s.queueCall listener portlet w
      else s.post (some listener) .notRegistered
    | none => s.doStep (some listener) step
  | step => s.doStep (some listener) step

/-! ## Going on -/

/-- The listener on top goes on with its reaction, or ends. -/
def goOn (s : Session) : Session :=
  match s.running with
  | (name, step :: steps) :: rest =>
    match step with
    | .breakDown => { s with running := rest }.make .finish
    | step => { s with running := (name, steps) :: rest }.react name step
  | _ :: rest => { s with running := rest }.make .finish
  | [] => s.make .finish

/-- The server answers the submission that it was sent. -/
def receive (s : Session) (submission : Submission) : Session :=
  let (answer, server) := s.server.answer submission
  { s with server := server }.make (.receive answer)

/-- The session after the next move; none when it has come to rest. -/
def next (s : Session) : Option Session :=
  match s.hub.delivery with
  | .running _ :: _ => some s.goOn
  | _ :: _ => some (s.make .proceed)
  | [] =>
    match s.hub.holder, s.hub.queue, s.waiting with
    | some ⟨_, _, .over _⟩, _, _ => some (s.make .release)
    | none, _ :: _, _ => some (s.make .acquire)
    | _, _, call :: waiting => some ({ s with waiting := waiting }.make (.enter call))
    | some ⟨_, _, .ready _⟩, _, [] => some (s.make .send)
    | some ⟨_, _, .sent submission⟩, _, [] => some (s.receive submission)
    | none, [], [] => none

/-- The session after moves until it comes to rest, and no more than `fuel`. -/
def settle : Nat → Session → Session
  | 0, s => s
  | fuel + 1, s =>
    match s.next with
    | some s => settle fuel s
    | none => s

end Session

end PortletPage.Scenario
