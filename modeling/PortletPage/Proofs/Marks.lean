import PortletPage.Proofs.Requests

/-!
# Marked callbacks

A hub passes callbacks on and never looks at them.  So a run stays a run when the
callbacks are replaced by others (`Hub.move_map`), and it does no harm to mark
them.

In a run that is watched (`Hub.watch`) each callback is marked with the number of
the handle under which it is added.  The marks tell which listener is called, even
if one callback has been added several times.

* `Hub.watch_of_run`: every run can be watched, and without the marks it is the
  run itself.
-/

namespace PortletPage

section Map

variable {κ κ' : Type}

/-- The listener with its callback replaced. -/
def Listener.map (f : κ → κ') (l : Listener κ) : Listener κ' :=
  ⟨l.handle, l.type, f l.callback⟩

/-- The registry with all callbacks replaced. -/
def Registry.map (f : κ → κ') (r : Registry κ) : Registry κ' :=
  ⟨r.lastNumber, r.listeners.map (Listener.map f)⟩

/-- The request with its callback replaced. -/
def Request.map (f : κ → κ') : Request κ → Request κ'
  | .register portlet => .register portlet
  | .listen portlet eventName callback => .listen portlet eventName (f callback)
  | .unlisten portlet handle => .unlisten portlet handle
  | .dispatch source eventName payload => .dispatch source eventName payload

/-- The frame with all callbacks replaced. -/
def Frame.map (f : κ → κ') : Frame κ → Frame κ'
  | .turns changes => .turns changes
  | .calls event callbacks => .calls event (callbacks.map f)
  | .running callback => .running (f callback)
  | .reply r => .reply r

/-- The move with its callback replaced. -/
def Move.map (f : κ → κ') : Move κ → Move κ'
  | .enter call => .enter call
  | .leave number => .leave number
  | .acquire => .acquire
  | .send => .send
  | .receive answer => .receive answer
  | .release => .release
  | .ask request => .ask (request.map f)
  | .proceed => .proceed
  | .finish => .finish

/-- The sign with its callback replaced. -/
def Sign.map (f : κ → κ') : Sign κ → Sign κ'
  | .sent s => .sent s
  | .called callback event => .called (f callback) event
  | .replied r => .replied r
  | .ended number result => .ended number result

namespace Registry

variable (f : κ → κ') (r : Registry κ)

theorem add_map (portlet : String) (type : EventType) (callback : κ) :
    (r.map f).add portlet type (f callback) =
      ((r.add portlet type callback).1, (r.add portlet type callback).2.map f) := by
  simp [add, map, Listener.map]

theorem remove_map (handle : Handle) :
    (r.map f).remove handle = ((r.remove handle).1, (r.remove handle).2.map f) := by
  simp [remove, map, isAttached, Listener.map, List.any_map, Function.comp_def,
    List.eraseP_map]

theorem listenersFor_map (portlet : String) (type : EventType) :
    (r.map f).listenersFor portlet type = (r.listenersFor portlet type).map f := by
  simp [listenersFor, map, Listener.map, Listener.isFor, List.filter_map, Function.comp_def]

theorem listenersOfType_map (type : EventType) :
    ((r.map f).listenersOfType type).map Prod.snd =
      ((r.listenersOfType type).map Prod.snd).map f := by
  simp [listenersOfType, map, Listener.map, List.filter_map, Function.comp_def]

end Registry

namespace Hub

variable (f : κ → κ')

/-- The hub with all callbacks replaced. -/
def map (h : Hub κ) : Hub κ' :=
  { config := h.config
    store := h.store
    registry := h.registry.map f
    inFlight := h.inFlight
    queue := h.queue
    holder := h.holder
    delivery := h.delivery.map (Frame.map f)
    made := h.made }

variable (h : Hub κ)

theorem ask_map (request : Request κ) :
    (h.map f).ask (request.map f) = (h.ask request).map f := by
  cases request with
  | register portlet =>
    simp only [Request.map, ask, register, map]
    split <;> rfl
  | listen portlet eventName callback =>
    simp only [Request.map, ask, listen, map]
    split
    · rfl
    · rw [Registry.add_map]
      split <;> rfl
  | unlisten portlet handle =>
    cases handle with
    | none => rfl
    | some handle =>
      have hremove : (h.map f).registry.remove handle =
          ((h.registry.remove handle).1, (h.registry.remove handle).2.map f) :=
        Registry.remove_map f h.registry handle
      rw [Request.map, ask, ask, unlisten_some, unlisten_some, hremove]
      split <;> rfl
  | dispatch source eventName payload =>
    simp only [Request.map, ask, dispatch, map]
    split
    · rw [Registry.listenersOfType_map, List.length_map]
      rfl
    · rfl

theorem mayAsk_map : (h.map f).mayAsk = h.mayAsk := by
  simp only [mayAsk, map]
  cases h.delivery with
  | nil => rfl
  | cons frame rest => cases frame <;> rfl

theorem proceed_map :
    (h.map f).proceed = h.proceed.map fun p => (p.1.map f, p.2.map (Sign.map f)) := by
  obtain ⟨config, store, registry, inFlight, queue, holder, delivery, made⟩ := h
  cases delivery with
  | nil => rfl
  | cons frame rest =>
    cases frame with
    | turns changes =>
      cases changes with
      | nil => rfl
      | cons change changes =>
        obtain ⟨stamp, change⟩ := change
        simp [proceed, map, Frame.map, Registry.listenersFor_map]
    | calls event callbacks => cases callbacks <;> rfl
    | running callback => rfl
    | reply r => rfl

/-- Replaced callbacks change nothing about which moves are open and what they
lead to. -/
theorem move_map (m : Move κ) :
    (h.map f).move (m.map f) =
      (h.move m).map fun p => (p.1.map f, p.2.map (Sign.map f)) := by
  cases m with
  | enter call => rfl
  | leave number =>
    obtain ⟨config, store, registry, inFlight, queue, holder, delivery, made⟩ := h
    by_cases waits : (queue.any fun call => call.number == number) = true
    · simp [Move.map, move, map, waits]
    · cases holder with
      | none => simp [Move.map, move, map, waits]
      | some holder =>
        by_cases hnumber : holder.call.number = number <;>
          simp [Move.map, move, map, waits, hnumber]
  | acquire =>
    obtain ⟨config, store, registry, inFlight, queue, holder, delivery, made⟩ := h
    cases holder with
    | some holder => rfl
    | none =>
      cases queue with
      | nil => rfl
      | cons call queue =>
        simp only [Move.map, move, map]
        cases prepare store call <;> rfl
  | send =>
    obtain ⟨config, store, registry, inFlight, queue, holder, delivery, made⟩ := h
    cases holder with
    | none => rfl
    | some holder =>
      obtain ⟨call, attended, stage⟩ := holder
      cases stage <;> rfl
  | receive answer =>
    obtain ⟨config, store, registry, inFlight, queue, holder, delivery, made⟩ := h
    cases holder with
    | none => rfl
    | some holder =>
      obtain ⟨call, attended, stage⟩ := holder
      cases stage <;> cases delivery <;> cases answer <;> rfl
  | release =>
    obtain ⟨config, store, registry, inFlight, queue, holder, delivery, made⟩ := h
    cases holder with
    | none => rfl
    | some holder =>
      obtain ⟨call, attended, stage⟩ := holder
      cases stage <;> cases delivery <;> cases attended <;> rfl
  | ask request =>
    simp only [Move.map, move, mayAsk_map, ask_map]
    split <;> rfl
  | proceed => exact proceed_map f h
  | finish =>
    obtain ⟨config, store, registry, inFlight, queue, holder, delivery, made⟩ := h
    cases delivery with
    | nil => rfl
    | cons frame rest => cases frame <;> rfl

end Hub

end Map

/-! ## Runs that are watched -/

/-- The request with its callback marked. -/
def Request.marked {κ : Type} (number : Nat) (request : Request κ) : Request (Nat × κ) :=
  request.map fun callback => (number, callback)

theorem Request.mark_of_listen {κ : Type} {number : Nat} {request : Request κ}
    {portlet name : String} {callback : Nat × κ}
    (h : request.marked number = .listen portlet name callback) : callback.1 = number := by
  cases request <;> cases h
  rfl

/-- The move with its callback marked. -/
def Move.marked {κ : Type} (number : Nat) (m : Move κ) : Move (Nat × κ) :=
  m.map fun callback => (number, callback)

namespace Hub

variable {κ : Type}

/-- A run in which each callback is marked with the number under which it is
added. -/
def watch (h : Hub (Nat × κ)) : List (Move κ) → Option (Hub (Nat × κ) × List (Sign (Nat × κ)))
  | [] => some (h, [])
  | m :: moves => do
    let (h, signs) ← h.move (m.marked (h.registry.lastNumber + 1))
    let (h, more) ← h.watch moves
    return (h, signs ++ more)

theorem watch_cons_iff {h h' : Hub (Nat × κ)} {m : Move κ} {moves : List (Move κ)}
    {signs : List (Sign (Nat × κ))} :
    h.watch (m :: moves) = some (h', signs) ↔
      ∃ mid first more, h.move (m.marked (h.registry.lastNumber + 1)) = some (mid, first) ∧
        mid.watch moves = some (h', more) ∧ signs = first ++ more := by
  constructor
  · intro hw
    simp only [watch, bind, Option.bind_eq_some_iff] at hw
    obtain ⟨⟨mid, first⟩, hfirst, ⟨last, more⟩, hmore, heq⟩ := hw
    cases heq
    exact ⟨mid, first, more, hfirst, hmore, rfl⟩
  · intro hw
    obtain ⟨mid, first, more, hfirst, hmore, rfl⟩ := hw
    simp [watch, hfirst, hmore]

theorem unmark_marked (number : Nat) (m : Move κ) : (m.marked number).map Prod.snd = m := by
  cases m with
  | ask request => cases request <;> rfl
  | _ => rfl

/-- Every run can be watched, and without the marks it is the run itself. -/
theorem watch_of_run {w : Hub (Nat × κ)} {h : Hub κ} {moves : List (Move κ)}
    {signs : List (Sign κ)} (runs : (w.map Prod.snd).run moves = some (h, signs)) :
    ∃ w' marked, w.watch moves = some (w', marked) ∧ w'.map Prod.snd = h ∧
      marked.map (Sign.map Prod.snd) = signs := by
  induction moves generalizing w signs with
  | nil =>
    cases runs
    exact ⟨w, [], rfl, rfl, rfl⟩
  | cons m moves ih =>
    obtain ⟨mid, first, more, hmove, hrest, rfl⟩ := run_cons_iff.mp runs
    have hlift := move_map Prod.snd w (m.marked (w.registry.lastNumber + 1))
    rw [unmark_marked, hmove] at hlift
    obtain ⟨⟨wmid, wfirst⟩, hwmove, heq⟩ := Option.map_eq_some_iff.mp hlift.symm
    obtain ⟨rfl, rfl⟩ := Prod.mk.inj heq
    obtain ⟨w', wmore, hwrest, hlast, hmore⟩ := ih hrest
    refine ⟨w', wfirst ++ wmore, watch_cons_iff.mpr ⟨wmid, wfirst, wmore, hwmove, hwrest, rfl⟩,
      hlast, ?_⟩
    rw [List.map_append, hmore]

end Hub

end PortletPage
