import PortletPage.Hub.Request

/-!
# The moves of a hub

`Hub.move` says what each move does, and to which hubs it is open.  Who moves
when is left to whoever runs the hub; a list of moves is a run (`Hub.run`), and
everything that can be seen of it is the list of its `Sign`s.

A call goes through the moves `enter`, `acquire`, `send`, `receive` and
`release`.  It ends already with `acquire` if there is nothing to submit.
`leave` is the caller's loss of interest.

A delivery goes on by `proceed`, which calls the next callback or takes up the
next state change.  A callback that runs may put requests, and ends with
`finish`, by returning or by breaking down: the hub does not tell the two apart.
-/

namespace PortletPage

/-- A move of a hub. -/
inductive Move (κ : Type) where
  /-- A call comes and joins the queue. -/
  | enter (call : Call)
  /-- The caller of the call with that number loses interest. -/
  | leave (number : Nat)
  /-- The first call of the queue takes the lock. -/
  | acquire
  /-- The submission of the call that holds the lock goes to the server. -/
  | send
  /-- The answer of the server arrives and is applied. -/
  | receive (answer : Answer)
  /-- The call that holds the lock ends and lets go of it. -/
  | release
  /-- A request is put, by the callback that runs or, when none does, from outside. -/
  | ask (request : Request κ)
  /-- The delivery goes on. -/
  | proceed
  /-- The callback that runs ends. -/
  | finish
  deriving Repr

/-- What can be seen of a move. -/
inductive Sign (κ : Type) where
  /-- A submission goes to the server. -/
  | sent (s : Submission)
  /-- A callback is called. -/
  | called (callback : κ) (event : Event Nat)
  /-- A request is answered. -/
  | replied (r : Reply)
  /-- The call with that number ends, and its caller learns the result. -/
  | ended (number : Nat) (result : CallResult)
  deriving Repr

namespace Hub

variable {κ : Type}

/-- The submission that a call asks for, or the result that it has at once: a
state that agrees with the authoritative one is not submitted. -/
def prepare (store : Store) (call : Call) : Except CallResult Submission :=
  match store.get? call.portlet with
  | none => .error (.error (.unknownPortlet call.portlet))
  | some record =>
    match call.wish with
    | .state s =>
      let delta := Delta.between record.state s record.isPublic
      if delta.isEmpty then .error (.ok ⟨record.state, []⟩)
      else .ok (.state ⟨call.portlet, delta, s⟩)
    | .action parameters =>
      .ok (.action ⟨call.portlet, parameters, record.state, record.portlet.publicNames⟩)

/-- Why a granted submission changes the submitter's state. -/
def reasonFor : Submission → Reason
  | .state _ => .submitted
  | .action _ => .action

/-- What the submitter learns when an update leads to these changes. -/
def outcomeOf (submitter : String) (changes : List StateChange) : Outcome :=
  { state := match changes with
      | change :: _ => if change.portlet = submitter then change.state else .empty
      | [] => .empty
    notified := changes.map StateChange.portlet }

/-- Stamps changes with the numbers from `first` on. -/
def stampFrom (first : Nat) (changes : List StateChange) : List (Nat × StateChange) :=
  changes.mapIdx fun i change => (first + i, change)

/-- Applies a granted update and puts its changes up for delivery. -/
def commit (h : Hub κ) (holder : Holder) (s : Submission) (update : Update) : Hub κ :=
  let submitter := holder.call.portlet
  let (changes, store) := h.store.commit submitter update (reasonFor s)
  { h with
    store := store
    made := h.made + changes.length
    holder := some { holder with stage := .over (.ok (outcomeOf submitter changes)) }
    delivery := [.turns (stampFrom h.made changes)] }

/-- Ends the round trip of the holder without an update. -/
def fail (h : Hub κ) (holder : Holder) (failure : Failure) : Hub κ :=
  { h with holder := some { holder with stage := .over (.error failure) } }

/-- The next step of the delivery, unless a callback runs. -/
def proceed (h : Hub κ) : Option (Hub κ × List (Sign κ)) :=
  match h.delivery with
  | .turns [] :: rest => some ({ h with delivery := rest }, [])
  | .turns ((stamp, change) :: changes) :: rest =>
    let callbacks := h.registry.listenersFor change.portlet .stateChange
    some ({ h with
      delivery := .calls ⟨stamp, .stateChange change⟩ callbacks :: .turns changes :: rest }, [])
  | .calls _ [] :: rest => some ({ h with delivery := rest }, [])
  | .calls event (callback :: callbacks) :: rest =>
    some ({ h with delivery := .running callback :: .calls event callbacks :: rest },
      [.called callback event])
  | .reply r :: rest => some ({ h with delivery := rest }, [.replied r])
  | .running _ :: _ | [] => none

/-- Whether a request may be put now. -/
def mayAsk (h : Hub κ) : Bool :=
  match h.delivery with
  | .running _ :: _ | [] => true
  | _ => false

/-- The hub after a move and what is seen of it; none if the move is not open. -/
def move (h : Hub κ) : Move κ → Option (Hub κ × List (Sign κ))
  | .enter call =>
    some ({ h with queue := h.queue ++ [call], inFlight := h.inFlight + 1 }, [])
  | .leave number =>
    if h.queue.any fun call => call.number == number then
      some ({ h with
        queue := h.queue.eraseP fun call => call.number == number
        inFlight := h.inFlight - 1 }, [])
    else
      match h.holder with
      | some holder =>
        if holder.call.number = number then
          some ({ h with holder := some { holder with attended := false } }, [])
        else none
      | none => none
  | .acquire =>
    match h.holder, h.queue with
    | none, call :: queue =>
      match prepare h.store call with
      | .ok s => some ({ h with queue := queue, holder := some ⟨call, true, .ready s⟩ }, [])
      | .error result =>
        some ({ h with queue := queue, inFlight := h.inFlight - 1 }, [.ended call.number result])
    | _, _ => none
  | .send =>
    match h.holder with
    | some ⟨call, attended, .ready s⟩ =>
      some ({ h with holder := some ⟨call, attended, .sent s⟩ }, [.sent s])
    | _ => none
  | .receive answer =>
    match h.holder, h.delivery with
    | some ⟨call, attended, .sent s⟩, [] =>
      let holder : Holder := ⟨call, attended, .sent s⟩
      match answer with
      | .granted update => some (h.commit holder s update, [])
      | .failed error => some (h.fail holder (.communication call.portlet error), [])
      | .broken => some (h.fail holder .interrupted, [])
    | _, _ => none
  | .release =>
    match h.holder, h.delivery with
    | some ⟨call, attended, .over result⟩, [] =>
      some ({ h with holder := none, inFlight := h.inFlight - 1 },
        if attended then [.ended call.number result] else [])
    | _, _ => none
  | .ask request => if h.mayAsk then some (h.ask request, []) else none
  | .proceed => h.proceed
  | .finish =>
    match h.delivery with
    | .running _ :: rest => some ({ h with delivery := rest }, [])
    | _ => none

/-- The hub after a list of moves and all that is seen of them; none if one of
them is not open when its turn comes. -/
def run (h : Hub κ) : List (Move κ) → Option (Hub κ × List (Sign κ))
  | [] => some (h, [])
  | m :: moves => do
    let (h, signs) ← h.move m
    let (h, more) ← h.run moves
    return (h, signs ++ more)

/-- A run can be cut anywhere. -/
theorem run_append (h : Hub κ) (first second : List (Move κ)) :
    h.run (first ++ second) = (do
      let (h, signs) ← h.run first
      let (h, more) ← h.run second
      return (h, signs ++ more)) := by
  induction first generalizing h with
  | nil => cases hr : h.run second <;> simp [run, hr]
  | cons m moves ih => simp [run, ih, Option.bind_assoc, List.append_assoc]

end Hub

end PortletPage
