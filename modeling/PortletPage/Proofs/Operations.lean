import PortletPage.Proofs.Requests
import PortletPage.Proofs.Serializability

/-!
# Operations

An operation is something that is done to a hub in one go.  A call comes, takes
the lock and is answered before anything else happens, and a request that is
refused gets its answer at once.  What else is delivered is delivered by further
operations, so that a callback that runs may put requests as well.

* `Hub.movesOf` spells an operation out, and `Hub.perform` makes its moves.
* `Hub.failure?` says why an operation fails, if it does.
* `Hub.perform_call_of_early`, `Hub.perform_call_of_granted` and
  `Hub.perform_call_of_failed` are all that a call can come to, and
  `Hub.perform_request_of_refusal` and `Hub.perform_request_of_accepted` all that a
  request can come to.
* `Hub.Performs` is what an operation leads to case by case, and later proofs go
  through its constructors (`Hub.performs_of_perform`).
* `Hub.performAll` performs one operation after the other and keeps an account
  of each.
-/

namespace PortletPage

/-- What is done to a hub in one go. -/
inductive Operation (κ : Type) where
  /-- A portlet submits a state or executes an action.  If anything is sent, it is
  answered so. -/
  | call (call : Call) (answer : Answer)
  /-- A request is put, by the callback that runs or, when none does, from outside. -/
  | request (request : Request κ)
  /-- The delivery goes on. -/
  | proceed
  /-- The callback that runs ends. -/
  | finish
  /-- The call whose answer has been applied ends. -/
  | release
  deriving Repr

/-- An operation that has been performed. -/
structure Performed (κ : Type) where
  operation : Operation κ
  /-- Why it failed, if it did. -/
  failure : Option Failure
  /-- What was seen of it. -/
  signs : List (Sign κ)
  deriving Repr

/-- Why a round trip that is answered so fails, if it does. -/
def Answer.failure? (portlet : String) : Answer → Option Failure
  | .granted _ => none
  | .failed error => some (.communication portlet error)
  | .broken => some .interrupted

section Seen

variable {κ : Type}

/-- A callback that is called, with the event. -/
def Sign.called? : Sign κ → Option (κ × Event Nat)
  | .called callback event => some (callback, event)
  | _ => none

/-- The callbacks that are called, with the events, in order. -/
def Sign.calls (signs : List (Sign κ)) : List (κ × Event Nat) := signs.filterMap Sign.called?

@[simp] theorem Sign.calls_nil : Sign.calls ([] : List (Sign κ)) = [] := rfl

@[simp] theorem Sign.calls_append (signs signs' : List (Sign κ)) :
    Sign.calls (signs ++ signs') = Sign.calls signs ++ Sign.calls signs' :=
  List.filterMap_append

end Seen

namespace Hub

variable {κ : Type}

/-- The moves of an operation. -/
def movesOf (h : Hub κ) : Operation κ → List (Move κ)
  | .call call answer =>
    match prepare h.store call with
    | .error _ => [.enter call, .acquire]
    | .ok _ =>
      if (answer.failure? call.portlet).isSome then
        [.enter call, .acquire, .send, .receive answer, .release]
      else [.enter call, .acquire, .send, .receive answer]
  | .request request =>
    if (h.refusal? request).isSome then [.ask request, .proceed] else [.ask request]
  | .proceed => [.proceed]
  | .finish => [.finish]
  | .release => [.release]

/-- The hub after an operation and what is seen of it; none if it is not open. -/
def perform (h : Hub κ) (operation : Operation κ) : Option (Hub κ × List (Sign κ)) :=
  h.run (h.movesOf operation)

/-- Why an operation fails, if it does. -/
def failure? (h : Hub κ) : Operation κ → Option Failure
  | .call call answer =>
    match prepare h.store call with
    | .error (.error failure) => some failure
    | .error (.ok _) => none
    | .ok _ => answer.failure? call.portlet
  | .request request => h.refusal? request
  | _ => none

/-- The hub after a list of operations and an account of each; none if one of
them is not open when its turn comes. -/
def performAll (h : Hub κ) : List (Operation κ) → Option (Hub κ × List (Performed κ))
  | [] => some (h, [])
  | operation :: operations => do
    let (h', signs) ← h.perform operation
    let (last, performed) ← h'.performAll operations
    return (last, ⟨operation, h.failure? operation, signs⟩ :: performed)

theorem performAll_cons_iff {h last : Hub κ} {operation : Operation κ}
    {operations : List (Operation κ)} {performed : List (Performed κ)} :
    h.performAll (operation :: operations) = some (last, performed) ↔
      ∃ h' signs rest, h.perform operation = some (h', signs) ∧
        h'.performAll operations = some (last, rest) ∧
        performed = ⟨operation, h.failure? operation, signs⟩ :: rest := by
  constructor
  · intro hp
    simp only [performAll, bind, Option.bind_eq_some_iff] at hp
    obtain ⟨⟨h', signs⟩, hfirst, ⟨last', rest⟩, hrest, heq⟩ := hp
    cases heq
    exact ⟨h', signs, rest, hfirst, hrest, rfl⟩
  · intro hp
    obtain ⟨h', signs, rest, hfirst, hrest, rfl⟩ := hp
    simp [performAll, hfirst, hrest]

/-! ## Calls -/

section Calls

variable {h : Hub κ} {call : Call}

/-- A call with nothing to submit comes and ends, and the hub is as before. -/
theorem perform_call_of_early {result : CallResult} (alone : h.AtRest)
    (prepared : prepare h.store call = .error result) (answer : Answer) :
    h.perform (.call call answer) = some (h, [.ended call.number result]) := by
  obtain ⟨hqueue, hholder⟩ := alone
  simp only [perform, movesOf, prepared]
  simp [run, move, prepared, hqueue, hholder]
  cases h
  cases hqueue
  cases hholder
  rfl

/-- A call whose submission is granted has its changes put up for delivery. -/
theorem perform_call_of_granted {s : Submission} (alone : h.AtRest) (quiet : h.delivery = [])
    (prepared : prepare h.store call = .ok s) (update : Update) :
    h.perform (.call call (.granted update)) =
      some ({ h with inFlight := h.inFlight + 1 }.commit ⟨call, true, .sent s⟩ s update,
        [.sent s]) := by
  obtain ⟨hqueue, hholder⟩ := alone
  simp only [perform, movesOf, prepared, Answer.failure?]
  simp [run, move, prepared, hqueue, hholder, quiet, Hub.commit]

/-- A call whose submission fails leaves the hub as it was. -/
theorem perform_call_of_failed {s : Submission} {answer : Answer} {failure : Failure}
    (alone : h.AtRest) (quiet : h.delivery = []) (prepared : prepare h.store call = .ok s)
    (failed : answer.failure? call.portlet = some failure) :
    h.perform (.call call answer) =
      some (h, [.sent s, .ended call.number (.error failure)]) := by
  obtain ⟨config, store, registry, inFlight, queue, holder, delivery, made⟩ := h
  obtain ⟨rfl, rfl⟩ := alone
  cases quiet
  simp only [perform, movesOf, prepared, failed, Option.isSome_some, if_true]
  have hacquire : Hub.move ⟨config, store, registry, inFlight + 1, [call], none, [], made⟩
      .acquire = some (⟨config, store, registry, inFlight + 1, [],
        some ⟨call, true, .ready s⟩, [], made⟩, []) :=
    move_of_step (.acquire _ call [] s rfl rfl prepared)
  cases answer with
  | granted update => cases failed
  | failed error =>
    cases failed
    exact run_cons_iff.mpr ⟨_, _, _, rfl, run_cons_iff.mpr ⟨_, _, _, hacquire, rfl, rfl⟩, rfl⟩
  | broken =>
    cases failed
    exact run_cons_iff.mpr ⟨_, _, _, rfl, run_cons_iff.mpr ⟨_, _, _, hacquire, rfl, rfl⟩, rfl⟩

/-- A call can only be performed if the lock is free, and while nothing is
delivered if anything is sent. -/
theorem free_of_perform_call {h' : Hub κ} {answer : Answer} {signs : List (Sign κ)}
    (hqueue : h.queue = []) (hp : h.perform (.call call answer) = some (h', signs)) :
    h.AtRest ∧ ∀ s, prepare h.store call = .ok s → h.delivery = [] := by
  have hmoves : ∃ rest, h.movesOf (.call call answer) = .enter call :: .acquire :: rest := by
    simp only [movesOf]
    split
    · exact ⟨_, rfl⟩
    · split <;> exact ⟨_, rfl⟩
  have hfree : h.holder = none := by
    obtain ⟨rest, hmoves⟩ := hmoves
    rw [perform, hmoves] at hp
    obtain ⟨h₁, first, more, henter, hrest, _⟩ := run_cons_iff.mp hp
    cases henter
    obtain ⟨h₂, second, later, hacquire, _⟩ := run_cons_iff.mp hrest
    cases step_of_move hacquire with
    | acquire call queue s free first prepared => exact free
    | endEarly call queue result free first prepared => exact free
  refine ⟨⟨hqueue, hfree⟩, ?_⟩
  intro s prepared
  cases hdelivery : h.delivery with
  | nil => rfl
  | cons frame rest =>
    -- the answer could not arrive
    simp only [perform, movesOf, prepared] at hp
    split at hp <;> simp [run, move, prepared, hqueue, hfree, hdelivery] at hp

end Calls

/-! ## Requests -/

/-- A request that is refused leaves the hub as it was. -/
theorem perform_request_of_refusal {h : Hub κ} (tidy : h.registry.Tidy)
    (may : h.mayAsk = true) {request : Request κ} {failure : Failure}
    (refused : h.refusal? request = some failure) :
    h.perform (.request request) = some (h, [.replied (.refused failure)]) := by
  simp only [perform, movesOf, refused, Option.isSome_some, if_true]
  simp [run, move, may, ask_of_refusal tidy refused, proceed, deliver]

/-- Any other request is put and has its answer later. -/
theorem perform_request_of_accepted {h h' : Hub κ} {request : Request κ}
    {signs : List (Sign κ)} (accepted : h.refusal? request = none)
    (hp : h.perform (.request request) = some (h', signs)) :
    h.mayAsk = true ∧ h' = h.ask request ∧ signs = [] := by
  have hask : h.move (.ask request) = some (h', signs) := by
    rw [← run_singleton]
    simpa [perform, movesOf, accepted] using hp
  cases step_of_move hask with
  | ask request may => exact ⟨may, rfl, rfl⟩

/-! ## The cases of an operation -/

/-- What an operation leads to and what is seen of it, case by case. -/
inductive Performs : Hub κ → Operation κ → Hub κ → List (Sign κ) → Prop
  /-- A call has nothing to submit. -/
  | early (h : Hub κ) (call : Call) (answer : Answer) (result : CallResult)
      (alone : h.AtRest) (prepared : prepare h.store call = .error result) :
      Performs h (.call call answer) h [.ended call.number result]
  | granted (h : Hub κ) (call : Call) (update : Update) (s : Submission)
      (alone : h.AtRest) (quiet : h.delivery = []) (prepared : prepare h.store call = .ok s) :
      Performs h (.call call (.granted update))
        ({ h with inFlight := h.inFlight + 1 }.commit ⟨call, true, .sent s⟩ s update) [.sent s]
  | failed (h : Hub κ) (call : Call) (answer : Answer) (s : Submission) (failure : Failure)
      (alone : h.AtRest) (quiet : h.delivery = []) (prepared : prepare h.store call = .ok s)
      (failed : answer.failure? call.portlet = some failure) :
      Performs h (.call call answer) h [.sent s, .ended call.number (.error failure)]
  | refused (h : Hub κ) (request : Request κ) (failure : Failure) (may : h.mayAsk = true)
      (refused : h.refusal? request = some failure) :
      Performs h (.request request) h [.replied (.refused failure)]
  | accepted (h : Hub κ) (request : Request κ) (may : h.mayAsk = true)
      (accepted : h.refusal? request = none) :
      Performs h (.request request) (h.ask request) []
  | proceed (h h' : Hub κ) (signs : List (Sign κ)) (proceeds : h.proceed = some (h', signs)) :
      Performs h .proceed h' signs
  | finish (h : Hub κ) (callback : κ) (rest : List (Frame κ))
      (runs : h.delivery = .running callback :: rest) :
      Performs h .finish { h with delivery := rest } []
  | release (h : Hub κ) (call : Call) (attended : Bool) (result : CallResult)
      (holds : h.holder = some ⟨call, attended, .over result⟩) (quiet : h.delivery = []) :
      Performs h .release { h with holder := none, inFlight := h.inFlight - 1 }
        (if attended then [.ended call.number result] else [])

/-- Every operation that is performed while no other call waits is one of the
cases. -/
theorem performs_of_perform {h h' : Hub κ} (tidy : h.registry.Tidy) (hqueue : h.queue = [])
    {operation : Operation κ} {signs : List (Sign κ)}
    (hp : h.perform operation = some (h', signs)) : Performs h operation h' signs := by
  cases operation with
  | call call answer =>
    obtain ⟨alone, quiet⟩ := free_of_perform_call hqueue hp
    cases hprepared : prepare h.store call with
    | error result =>
      rw [perform_call_of_early alone hprepared] at hp
      cases hp
      exact .early h call answer result alone hprepared
    | ok s =>
      have hquiet := quiet s hprepared
      cases hfailed : answer.failure? call.portlet with
      | some failure =>
        rw [perform_call_of_failed alone hquiet hprepared hfailed] at hp
        cases hp
        exact .failed h call answer s failure alone hquiet hprepared hfailed
      | none =>
        cases answer with
        | granted update =>
          rw [perform_call_of_granted alone hquiet hprepared] at hp
          cases hp
          exact .granted h call update s alone hquiet hprepared
        | _ => cases hfailed
  | request request =>
    cases hrefused : h.refusal? request with
    | some failure =>
      have hmoves : h.run [.ask request, .proceed] = some (h', signs) := by
        simpa [perform, movesOf, hrefused] using hp
      obtain ⟨h₁, first, more, hask, _⟩ := run_cons_iff.mp hmoves
      have may : h.mayAsk = true := by
        cases step_of_move hask with
        | ask request may => exact may
      rw [perform_request_of_refusal tidy may hrefused] at hp
      cases hp
      exact .refused h request failure may hrefused
    | none =>
      obtain ⟨may, rfl, rfl⟩ := perform_request_of_accepted hrefused hp
      exact .accepted h request may hrefused
  | proceed =>
    rw [perform, movesOf, run_singleton] at hp
    exact .proceed h h' signs hp
  | finish =>
    rw [perform, movesOf, run_singleton] at hp
    cases step_of_move hp with
    | finish callback rest runs => exact .finish h callback rest runs
  | release =>
    rw [perform, movesOf, run_singleton] at hp
    cases step_of_move hp with
    | release call attended result holds quiet =>
      exact .release h call attended result holds quiet

/-- No operation leaves a call in the queue. -/
theorem Performs.queue {h h' : Hub κ} {operation : Operation κ} {signs : List (Sign κ)}
    (hp : Performs h operation h' signs) (hqueue : h.queue = []) : h'.queue = [] := by
  cases hp with
  | accepted request may accepted =>
    rw [(ask_calls h request).2.1]
    exact hqueue
  | proceed h' signs proceeds =>
    rw [(proceed_calls proceeds).2.1]
    exact hqueue
  | _ => exact hqueue

/-- Every operation keeps the registry tidy. -/
theorem Performs.tidy {h h' : Hub κ} {operation : Operation κ} {signs : List (Sign κ)}
    (hp : Performs h operation h' signs) (tidy : h.registry.Tidy) : h'.registry.Tidy := by
  cases hp with
  | accepted request may accepted =>
    rw [registry_ask tidy]
    exact tidy.heed request
  | proceed h' signs proceeds =>
    rw [registry_proceed proceeds]
    exact tidy
  | _ => exact tidy

end Hub

end PortletPage
