import PortletPage.Proofs.Course

/-!
# The count of calls and the lock

A hub counts the calls that are queued or under way, and serves them under a lock.
A call can go in many ways: it is taken back while it waits, it ends early, or it
is answered and lets go of the lock, with or without its caller.  On each of these
ways it is taken off the count once and gives the lock back once.

* `Hub.Account` compares a run with the hub that it leads to: which calls are
  present, how many are counted, and who holds the lock.  `Step.account` and
  `run_account` prove it for steps and for runs.
* `Hub.exists_run_of_holder`: whoever holds the lock can be brought to let go of it,
  whatever the answer is.
* `Hub.Busy`: while a commit is being told, its call still holds the lock.
* `Hub.count_and_lock_are_exact` is the result.
-/

namespace PortletPage

/-- Moves of the call that holds the lock, if it is answered so, and of deliveries. -/
def Move.isOfHolder {κ : Type} (answer : Answer) : Move κ → Bool
  | .send | .release | .proceed | .finish => true
  | .receive answer' => answer' = answer
  | _ => false

theorem Move.isOfHolder_of_isDelivery {κ : Type} (m : Move κ) (h : m.isDelivery = true)
    (answer : Answer) : m.isOfHolder answer = true := by
  cases m <;> first | rfl | cases h

/-- Whether news are those of a commit. -/
def News.isOfCommit : News → Bool
  | .stateChange change => change.reason ≠ .initial
  | .message _ => false

/-- Whether a frame belongs to the telling of a commit. -/
def Frame.isOfCommit {κ : Type} : Frame κ → Bool
  | .turns _ => true
  | .calls event _ => event.news.isOfCommit
  | _ => false

namespace Hub

variable {κ α : Type}

/-! ## What is gathered along a run -/

/-- What the moves of a run give, each at the hub that makes it. -/
def gather (give : Hub κ → Move κ → List α) : Hub κ → List (Move κ) → List α
  | _, [] => []
  | h, m :: moves => give h m ++ match h.move m with
    | some (h', _) => h'.gather give moves
    | none => []

theorem gather_cons (give : Hub κ → Move κ → List α) {h h₁ : Hub κ} {m : Move κ}
    {first : List (Sign κ)} (hm : h.move m = some (h₁, first)) (moves : List (Move κ)) :
    h.gather give (m :: moves) = give h m ++ h₁.gather give moves := by
  rw [gather, hm]

@[simp] theorem gather_singleton (give : Hub κ → Move κ → List α) (h : Hub κ) (m : Move κ) :
    h.gather give [m] = give h m := by
  rw [gather]
  split <;> simp [gather]

/-- The call that takes the lock with a move, if any. -/
def locking (h : Hub κ) : Move κ → List Call
  | .acquire => h.queue.head?.toList
  | _ => []

/-- The call that lets go of the lock with a move, if any: the one that holds it,
or one that has taken it and has nothing to submit. -/
def unlocking (h : Hub κ) : Move κ → List Call
  | .acquire => h.queue.head?.toList.filter fun call =>
      match prepare h.store call with
      | .ok _ => false
      | .error _ => true
  | .release => (h.holder.map Holder.call).toList
  | _ => []

/-- The call that holds the lock, if any. -/
def locked (h : Hub κ) : List Call := (h.holder.map Holder.call).toList

/-- The calls that are under way or queued. -/
def present (h : Hub κ) : List Call := h.locked ++ h.queue

/-! ## The account of a run -/

/-- What a run that begins at the first hub and leads to the second comes to. -/
structure Account (h : Hub κ) (moves : List (Move κ)) (h' : Hub κ) (signs : List (Sign κ)) :
    Prop where
  /-- The calls that come have ended or been taken back, or they are present. -/
  calls : (h.gather unlocking moves ++ h.takenBack moves ++ h'.present).Perm
    (h.present ++ Move.entered moves)
  /-- Whoever takes the lock lets go of it before the next one takes it. -/
  lock : h.locked ++ h.gather locking moves = h.gather unlocking moves ++ h'.locked
  /-- Calls whose results are learned have let go of the lock. -/
  results : ((Sign.results signs).map Prod.fst).Sublist
    ((h.gather unlocking moves).map Call.number)

theorem Account.nil (h : Hub κ) : h.Account [] h [] where
  calls := by simp [gather, takenBack]
  lock := by simp [gather]
  results := List.Sublist.refl _

/-- Accounts of one step and of the run after it make an account of both. -/
theorem Account.cons {h h₁ h' : Hub κ} {m : Move κ} {moves : List (Move κ)}
    {first more : List (Sign κ)} (hm : h.move m = some (h₁, first))
    (hfirst : h.Account [m] h₁ first) (hrest : h₁.Account moves h' more) :
    h.Account (m :: moves) h' (first ++ more) := by
  constructor
  · have hcalls := hfirst.calls
    rw [gather_singleton, takenBack_singleton hm, Move.entered_cons, Move.entered_nil,
      List.append_nil] at hcalls
    rw [gather_cons _ hm, takenBack_cons hm, Move.entered_cons, List.perm_iff_count]
    intro call
    have hleft := List.perm_iff_count.mp hcalls call
    have hright := List.perm_iff_count.mp hrest.calls call
    simp only [List.count_append] at hleft hright ⊢
    omega
  · have hlock := hfirst.lock
    rw [gather_singleton, gather_singleton] at hlock
    rw [gather_cons _ hm, gather_cons _ hm, ← List.append_assoc, hlock, List.append_assoc,
      hrest.lock, List.append_assoc]
  · have hresults := hfirst.results
    rw [gather_singleton] at hresults
    rw [Sign.results_append, List.map_append, gather_cons _ hm, List.map_append]
    exact hresults.append hrest.results

/-- A step that moves no call is in order. -/
theorem Account.of_still {h h' : Hub κ} {m : Move κ} {signs : List (Sign κ)}
    (hm : h.move m = some (h', signs)) (hcall : m.call? = none) (hwaived : h.waived m = [])
    (hlocking : h.locking m = []) (hunlocking : h.unlocking m = [])
    (hresults : Sign.results signs = []) (hlocked : h'.locked = h.locked)
    (hqueue : h'.queue = h.queue) : h.Account [m] h' signs where
  calls := by
    rw [gather_singleton, takenBack_singleton hm, hunlocking, hwaived, present, present,
      hlocked, hqueue]
    simp [hcall]
  lock := by
    rw [gather_singleton, gather_singleton, hlocking, hunlocking, hlocked]
    simp
  results := by
    rw [hresults]
    exact List.nil_sublist _

/-- Every step is in order. -/
theorem Step.account {h h' : Hub κ} {m : Move κ} {signs : List (Sign κ)}
    (hs : Step h m h' signs) : h.Account [m] h' signs := by
  have hm := move_of_step hs
  cases hs with
  | enter call =>
    constructor
    · rw [gather_singleton, takenBack_singleton hm]
      simp [unlocking, waived, present, locked, Move.call?]
    · simp [locking, unlocking, locked]
    · exact List.nil_sublist _
  | takeBack number waits =>
    constructor
    · rw [gather_singleton, takenBack_singleton hm]
      have hqueue := perm_eraseP_find? h.queue fun call => call.number == number
      simp only [unlocking, waived, present, List.nil_append, Move.entered_cons,
        Move.call?, Option.toList_none, Move.entered_nil, List.append_nil]
      -- what is taken back stands behind the lock on one side and in the queue on the other
      rw [List.perm_iff_count] at hqueue ⊢
      intro call
      have hcount := hqueue call
      simp only [List.count_append, locked] at hcount ⊢
      omega
    · simp [locking, unlocking, locked]
    · exact List.nil_sublist _
  | desert call attended stage holds waitsNot =>
    refine .of_still hm rfl ?_ rfl rfl rfl ?_ rfl
    · rw [waived, Option.toList_eq_nil_iff, List.find?_eq_none]
      intro c hc hnumber
      exact waitsNot (List.mem_map.mpr ⟨c, hc, by simpa using hnumber⟩)
    · rw [locked, locked, holds]
      rfl
  | acquire call queue s free first prepared =>
    constructor
    · rw [gather_singleton, takenBack_singleton hm]
      simp [unlocking, waived, present, locked, Move.call?, first, free, prepared]
    · simp [locking, unlocking, locked, first, free, prepared]
    · exact List.nil_sublist _
  | endEarly call queue result free first prepared =>
    constructor
    · rw [gather_singleton, takenBack_singleton hm]
      simp [unlocking, waived, present, locked, Move.call?, first, free, prepared]
    · simp [locking, unlocking, locked, first, free, prepared]
    · rw [gather_singleton]
      simp [unlocking, first, prepared, Sign.results, Sign.result?]
  | send call attended s holds =>
    refine .of_still hm rfl rfl rfl rfl rfl ?_ rfl
    rw [locked, locked, holds]
    rfl
  | grant call attended s update holds quiet =>
    refine .of_still hm rfl rfl rfl rfl rfl ?_ rfl
    rw [locked, locked, holds]
    rfl
  | fail call attended s error holds quiet =>
    refine .of_still hm rfl rfl rfl rfl rfl ?_ rfl
    rw [locked, locked, holds]
    rfl
  | breakOff call attended s holds quiet =>
    refine .of_still hm rfl rfl rfl rfl rfl ?_ rfl
    rw [locked, locked, holds]
    rfl
  | release call attended result holds quiet =>
    constructor
    · rw [gather_singleton, takenBack_singleton hm]
      simp [unlocking, waived, present, locked, Move.call?, holds]
    · simp [locking, unlocking, locked, holds]
    · rw [gather_singleton]
      cases attended <;> simp [unlocking, holds, Sign.results, Sign.result?]
  | ask request may =>
    obtain ⟨_, hqueue, hholder⟩ := ask_calls h request
    exact .of_still hm rfl rfl rfl rfl rfl (by rw [locked, locked, hholder]) hqueue
  | proceed h' signs proceeds =>
    obtain ⟨_, hqueue, hholder⟩ := proceed_calls proceeds
    exact .of_still hm rfl rfl rfl rfl (proceed_signs proceeds).2
      (by rw [locked, locked, hholder]) hqueue
  | finish callback rest runs => exact .of_still hm rfl rfl rfl rfl rfl rfl rfl

/-- Every run is in order. -/
theorem run_account {h h' : Hub κ} {moves : List (Move κ)} {signs : List (Sign κ)}
    (hr : h.run moves = some (h', signs)) : h.Account moves h' signs := by
  induction moves generalizing h signs with
  | nil =>
    cases hr
    exact .nil _
  | cons m moves ih =>
    obtain ⟨h₁, first, more, hm, hrest, rfl⟩ := run_cons_iff.mp hr
    exact (step_of_move hm).account.cons hm (ih hrest)

/-! ## The count -/

/-- What is counted are the calls that are present. -/
theorem Sound.inFlight_eq {h : Hub κ} (hi : h.Sound) : h.inFlight = h.present.length := by
  rw [hi.counted, present, locked, List.length_append]
  cases h.holder <;> simp [Nat.add_comm]

/-- A move takes off the count as many calls as go with it. -/
theorem Sound.inFlight_step {h h' : Hub κ} {m : Move κ} {signs : List (Sign κ)} (hi : h.Sound)
    (hm : h.move m = some (h', signs)) :
    h'.inFlight + (h.unlocking m ++ h.waived m).length =
      h.inFlight + (Move.entered [m]).length := by
  have hs := step_of_move hm
  have hlength := hs.account.calls.length_eq
  rw [gather_singleton, takenBack_singleton hm] at hlength
  simp only [List.length_append] at hlength ⊢
  rw [hi.inFlight_eq, (hi.step hs).inFlight_eq]
  omega

/-! ## The lock can be had again -/

/-- When the lock is free, the first call of the queue can take it. -/
theorem exists_move_acquire {h : Hub κ} (free : h.holder = none) {call : Call}
    {queue : List Call} (first : h.queue = call :: queue) :
    ∃ h' signs, h.move .acquire = some (h', signs) ∧ h.locking .acquire = [call] := by
  have hlocking : h.locking .acquire = [call] := by rw [locking, first]; rfl
  cases hprepared : prepare h.store call with
  | ok s => exact ⟨_, _, move_of_step (.acquire h call queue s free first hprepared), hlocking⟩
  | error result =>
    exact ⟨_, _, move_of_step (.endEarly h call queue result free first hprepared), hlocking⟩

/-- A call that lets go of the lock leaves it free. -/
theorem free_of_unlocking {h h' : Hub κ} {m : Move κ} {signs : List (Sign κ)}
    (hm : h.move m = some (h', signs)) (hgoes : h.unlocking m ≠ []) : h'.holder = none := by
  cases step_of_move hm with
  | acquire call queue s free first prepared => simp [unlocking, first, prepared] at hgoes
  | endEarly call queue result free first prepared => exact free
  | release call attended result holds quiet => rfl
  | _ => exact absurd rfl hgoes

/-- A call whose answer has been applied can be brought to its end. -/
theorem exists_run_of_over (answer : Answer) {h : Hub κ} {call : Call} {attended : Bool}
    {result : CallResult} (holds : h.holder = some ⟨call, attended, .over result⟩) :
    ∃ moves h' signs, (∀ m ∈ moves, m.isOfHolder answer = true) ∧
      h.run moves = some (h', signs) ∧ h'.holder = none ∧ h'.queue = h.queue := by
  obtain ⟨moves, signs, hmoves, hrun⟩ := h.exists_run_of_frames h.delivery
  rw [delivering_self rfl] at hrun
  have hrelease := move_of_step
    (.release (h.delivering []) call attended result holds rfl)
  rw [← run_singleton] at hrelease
  refine ⟨moves ++ [.release], { h.delivering [] with holder := none, inFlight := h.inFlight - 1 },
    _, ?_, run_append_iff.mpr ⟨_, _, _, hrun, hrelease, rfl⟩, rfl, rfl⟩
  intro m hm
  rcases List.mem_append.mp hm with hm | hm
  · exact m.isOfHolder_of_isDelivery (hmoves m hm) answer
  · rw [List.mem_singleton.mp hm]
    rfl

/-- So can a call that waits for its answer, whatever the answer is. -/
theorem exists_run_of_sent (answer : Answer) {h : Hub κ} {call : Call} {attended : Bool}
    {s : Submission} (holds : h.holder = some ⟨call, attended, .sent s⟩) :
    ∃ moves h' signs, (∀ m ∈ moves, m.isOfHolder answer = true) ∧
      h.run moves = some (h', signs) ∧ h'.holder = none ∧ h'.queue = h.queue := by
  obtain ⟨moves, signs, hmoves, hrun⟩ := h.exists_run_of_frames h.delivery
  rw [delivering_self rfl] at hrun
  -- the answer can come when everything has been delivered
  have hanswered : ∃ h₁ result, (h.delivering []).move (.receive answer) = some (h₁, []) ∧
      h₁.holder = some ⟨call, attended, .over result⟩ ∧ h₁.queue = h.queue := by
    cases answer with
    | granted update =>
      exact ⟨_, _, move_of_step (.grant (h.delivering []) call attended s update holds rfl),
        rfl, rfl⟩
    | failed error =>
      exact ⟨_, _, move_of_step (.fail (h.delivering []) call attended s error holds rfl),
        rfl, rfl⟩
    | broken =>
      exact ⟨_, _, move_of_step (.breakOff (h.delivering []) call attended s holds rfl),
        rfl, rfl⟩
  obtain ⟨h₁, result, hreceive, hover, hqueue⟩ := hanswered
  obtain ⟨later, h', signs', hlater, hend, hfree, hqueue'⟩ := exists_run_of_over answer hover
  refine ⟨moves ++ .receive answer :: later, h', _, ?_, run_append_iff.mpr ⟨_, _, _, hrun,
    run_cons_iff.mpr ⟨_, _, _, hreceive, hend, rfl⟩, rfl⟩, hfree, hqueue'.trans hqueue⟩
  intro m hm
  rcases List.mem_append.mp hm with hm | hm
  · exact m.isOfHolder_of_isDelivery (hmoves m hm) answer
  · rcases List.mem_cons.mp hm with rfl | hm
    · simp [Move.isOfHolder]
    · exact hlater m hm

/-- Whoever holds the lock can be brought to let go of it, whatever the answer is,
and nothing else has to happen for that. -/
theorem exists_run_of_holder (answer : Answer) {h : Hub κ} (held : h.holder ≠ none) :
    ∃ moves h' signs, (∀ m ∈ moves, m.isOfHolder answer = true) ∧
      h.run moves = some (h', signs) ∧ h'.holder = none ∧ h'.queue = h.queue := by
  cases hholder : h.holder with
  | none => exact absurd hholder held
  | some holder =>
    obtain ⟨call, attended, stage⟩ := holder
    cases stage with
    | ready s =>
      obtain ⟨moves, h', signs, hmoves, hrun, hfree, hqueue⟩ := exists_run_of_sent answer
        (h := { h with holder := some ⟨call, attended, .sent s⟩ }) rfl
      refine ⟨.send :: moves, h', _, List.forall_mem_cons.mpr ⟨rfl, hmoves⟩, run_cons_iff.mpr
        ⟨_, _, _, move_of_step (.send h call attended s hholder), hrun, rfl⟩, hfree, hqueue⟩
    | sent s => exact exists_run_of_sent answer hholder
    | _ => exact exists_run_of_over answer hholder

/-! ## Commits that are being told -/

/-- While a commit is being told, its call still holds the lock. -/
def Busy (h : Hub κ) : Prop :=
  (∃ f ∈ h.delivery, f.isOfCommit = true) →
    ∃ call attended result, h.holder = some ⟨call, attended, .over result⟩

/-- What a request puts up for delivery does not belong to a commit. -/
theorem isOfCommit_framesFor {h : Hub κ} {request : Request κ} {f : Frame κ}
    (hf : f ∈ h.framesFor request) : f.isOfCommit = false := by
  rcases mem_framesFor hf with ⟨news, callbacks, hnews, rfl⟩ | rfl
  · cases request with
    | listen portlet eventName callback =>
      rw [announcement] at hnews
      split at hnews
      · obtain ⟨state, _, heq⟩ := Option.map_eq_some_iff.mp hnews
        cases heq
        rfl
      · cases hnews
    | dispatch source eventName payload =>
      rw [announcement] at hnews
      split at hnews
      · cases hnews
      · cases hnews
        rfl
    | _ => cases hnews
  · rfl

/-- The frames of a delivery that goes on belong to a commit only if there were
such frames before. -/
theorem Proceeds.isOfCommit {h h' : Hub κ} {signs : List (Sign κ)} (hp : Proceeds h h' signs)
    (hf : ∃ f ∈ h'.delivery, f.isOfCommit = true) :
    ∃ f ∈ h.delivery, f.isOfCommit = true := by
  obtain ⟨f, hf, hcommit⟩ := hf
  cases hp with
  | told rest top => exact ⟨f, top ▸ List.mem_cons_of_mem _ hf, hcommit⟩
  | turn stamp change changes rest top => exact ⟨_, top ▸ List.mem_cons_self, rfl⟩
  | called event rest top => exact ⟨f, top ▸ List.mem_cons_of_mem _ hf, hcommit⟩
  | call event callback callbacks rest top =>
    rcases List.mem_cons.mp hf with rfl | hf
    · cases hcommit
    · rcases List.mem_cons.mp hf with rfl | hf
      · exact ⟨.calls event (callback :: callbacks), top ▸ List.mem_cons_self, hcommit⟩
      · exact ⟨f, top ▸ List.mem_cons_of_mem _ hf, hcommit⟩
  | reply r rest top => exact ⟨f, top ▸ List.mem_cons_of_mem _ hf, hcommit⟩

/-- Every step keeps it so. -/
theorem Step.busy {h h' : Hub κ} {m : Move κ} {signs : List (Sign κ)}
    (hs : Step h m h' signs) (tidy : h.registry.Tidy) (hb : h.Busy) : h'.Busy := by
  intro hf
  cases hs with
  | desert call attended stage holds waitsNot =>
    obtain ⟨call', attended', result, holds'⟩ := hb hf
    rw [holds] at holds'
    cases holds'
    exact ⟨call, false, result, rfl⟩
  | acquire call queue s free first prepared =>
    obtain ⟨call', attended', result, holds'⟩ := hb hf
    rw [free] at holds'
    cases holds'
  | send call attended s holds =>
    obtain ⟨call', attended', result, holds'⟩ := hb hf
    rw [holds] at holds'
    cases holds'
  | grant call attended s update holds quiet => exact ⟨call, attended, _, rfl⟩
  | fail call attended s error holds quiet => exact ⟨call, attended, _, rfl⟩
  | breakOff call attended s holds quiet => exact ⟨call, attended, _, rfl⟩
  | release call attended result holds quiet =>
    obtain ⟨f, hf, _⟩ := hf
    rw [show _ = [] from quiet] at hf
    cases hf
  | ask request may =>
    rw [(ask_calls h request).2.2]
    obtain ⟨f, hf, hcommit⟩ := hf
    rw [ask_eq tidy] at hf
    rcases List.mem_append.mp hf with hf | hf
    · rw [isOfCommit_framesFor hf] at hcommit
      cases hcommit
    · exact hb ⟨f, hf, hcommit⟩
  | proceed h' signs proceeds =>
    rw [(proceed_calls proceeds).2.2]
    exact hb ((proceeds_of_proceed proceeds).isOfCommit hf)
  | finish callback rest runs =>
    obtain ⟨f, hf, hcommit⟩ := hf
    exact hb ⟨f, runs ▸ List.mem_cons_of_mem _ hf, hcommit⟩
  | _ => exact hb hf

theorem Reachable.busy {h : Hub κ} (reach : h.Reachable) : h.Busy := by
  obtain ⟨page, config, start, moves, signs, hp, hrun⟩ := reach
  have hstart : start.Busy := by
    obtain ⟨_, rfl⟩ := start_of_ofPage hp
    intro hf
    obtain ⟨f, hf, _⟩ := hf
    cases hf
  have hboth := run_invariant (I := fun g => g.registry.Tidy ∧ g.Busy)
    (fun hs hi => ⟨hs.tidy hi.1, hs.busy hi.1 hi.2⟩) hrun ⟨tidy_of_ofPage hp, hstart⟩
  exact hboth.2

/-- While a commit is being told, the hub is in progress. -/
theorem Reachable.inProgress {h : Hub κ} (reach : h.Reachable) {f : Frame κ}
    (hf : f ∈ h.delivery) (hcommit : f.isOfCommit = true) : h.inProgress = true := by
  obtain ⟨call, attended, result, holds⟩ := reach.busy ⟨f, hf, hcommit⟩
  have hpos := reach.sound.inFlight_pos (.inr (by rw [holds]; exact Option.some_ne_none _))
  simpa [Hub.inProgress] using hpos

/-! ## Results -/

/-- When a caller learns its result, its call is the one that has just gone. -/
theorem present_of_ended {h h' : Hub κ} {m : Move κ} {signs : List (Sign κ)}
    (hm : h.move m = some (h', signs)) {number : Nat} {result : CallResult}
    (ended : .ended number result ∈ signs) :
    h'.holder = none ∧ ∃ call, call.number = number ∧ h.present = call :: h'.present := by
  cases step_of_move hm with
  | endEarly call queue result' free first prepared =>
    rw [List.mem_singleton] at ended
    cases ended
    exact ⟨free, call, rfl, by simp [present, locked, free, first]⟩
  | release call attended result' holds quiet =>
    split at ended
    · rw [List.mem_singleton] at ended
      cases ended
      exact ⟨rfl, call, rfl, by simp [present, locked, holds]⟩
    · cases ended
  | send call attended s holds =>
    rw [List.mem_singleton] at ended
    cases ended
  | proceed h' signs proceeds =>
    have hnone : (number, result) ∈ Sign.results signs :=
      List.mem_filterMap.mpr ⟨_, ended, rfl⟩
    rw [(proceed_signs proceeds).2] at hnone
    cases hnone
  | _ => cases ended

/-- A call whose result has been learned is no longer present, as calls are told
apart by their numbers. -/
theorem Account.not_present {h h' : Hub κ} {moves : List (Move κ)} {signs : List (Sign κ)}
    (ha : h.Account moves h' signs)
    (distinct : ((h.present ++ Move.entered moves).map Call.number).Nodup) {number : Nat}
    {result : CallResult} (ended : .ended number result ∈ signs) :
    number ∉ h'.present.map Call.number := by
  have hgone : number ∈ (h.gather unlocking moves).map Call.number := by
    have hresult : (number, result) ∈ Sign.results signs :=
      List.mem_filterMap.mpr ⟨_, ended, rfl⟩
    exact ha.results.subset (List.mem_map.mpr ⟨_, hresult, rfl⟩)
  have hall := (ha.calls.map Call.number).nodup_iff.mpr distinct
  rw [List.append_assoc, List.map_append, List.nodup_append] at hall
  intro hpresent
  refine hall.2.2 number hgone number ?_ rfl
  rw [List.map_append]
  exact List.mem_append_right _ hpresent

/-- For every run on a valid page:

* the calls that have come have let go of the lock, were taken back, or are present,
  and what is counted are those that are present;
* no move takes more off the count than is on it;
* the calls that have taken the lock are those that have let go of it and, last, the
  one that holds it.  A call that lets go leaves the lock free, so that the first of
  the queue can take it, and every holder can be brought to let go of it whatever the
  answer is;
* as long as a callback runs that was called with the news of a commit, the hub is in
  progress;
* when a caller learns its result, its call has just gone, and it does not come back. -/
theorem count_and_lock_are_exact {page : Page} {config : Config} {start h : Hub κ}
    (valid : ofPage page config = .ok start) {moves : List (Move κ)} {signs : List (Sign κ)}
    (runs : start.run moves = some (h, signs)) :
    ((start.gather unlocking moves ++ start.takenBack moves ++ h.present).Perm
          (Move.entered moves) ∧
        h.inFlight = h.present.length ∧ (h.inProgress = true ↔ h.present ≠ [])) ∧
      (∀ m h₁ signs₁, h.move m = some (h₁, signs₁) →
        h₁.inFlight + (h.unlocking m ++ h.waived m).length =
          h.inFlight + (Move.entered [m]).length) ∧
      (start.gather locking moves = start.gather unlocking moves ++ h.locked ∧
        (∀ m h₁ signs₁, h.move m = some (h₁, signs₁) → h.unlocking m ≠ [] →
          h₁.holder = none) ∧
        (h.holder = none → ∀ call queue, h.queue = call :: queue →
          ∃ h₁ signs₁, h.move .acquire = some (h₁, signs₁) ∧ h.locking .acquire = [call]) ∧
        (h.holder ≠ none → ∀ answer, ∃ more h₁ signs₁,
          (∀ m ∈ more, m.isOfHolder answer = true) ∧ h.run more = some (h₁, signs₁) ∧
            h₁.holder = none ∧ h₁.queue = h.queue)) ∧
      (∀ callback event h₁, h.move .proceed = some (h₁, [.called callback event]) →
        event.news.isOfCommit = true → ∀ more h₂ signs₂, h₁.run more = some (h₂, signs₂) →
          h₁.delivery <:+ h₂.delivery → h₂.inProgress = true) ∧
      ((∀ m h₁ signs₁ number result, h.move m = some (h₁, signs₁) →
          .ended number result ∈ signs₁ →
            h₁.holder = none ∧ ∃ call, call.number = number ∧ h.present = call :: h₁.present) ∧
        (((Move.entered moves).map Call.number).Nodup → ∀ number result,
          .ended number result ∈ signs → number ∉ h.present.map Call.number)) := by
  have hsound := (sound_of_ofPage valid).run runs
  have reach : h.Reachable := ⟨page, config, start, moves, signs, valid, runs⟩
  have haccount := run_account runs
  have hnobody : start.locked = [] ∧ start.present = [] := by
    obtain ⟨hqueue, hholder⟩ := atRest_of_ofPage valid
    simp [present, locked, hqueue, hholder]
  refine ⟨⟨?_, hsound.inFlight_eq, ?_⟩, ?_, ⟨?_, ?_, ?_, ?_⟩, ?_, ?_, ?_⟩
  · have hcalls := haccount.calls
    rwa [hnobody.2, List.nil_append] at hcalls
  · rw [Hub.inProgress, hsound.inFlight_eq, decide_eq_true_eq, List.length_pos_iff]
  · intro m h₁ signs₁ hm
    exact hsound.inFlight_step hm
  · have hlock := haccount.lock
    rwa [hnobody.1, List.nil_append] at hlock
  · intro m h₁ signs₁ hm hgoes
    exact free_of_unlocking hm hgoes
  · intro free call queue first
    exact exists_move_acquire free first
  · intro held answer
    exact exists_run_of_holder answer held
  · intro callback event h₁ hm hcommit more h₂ signs₂ hmore hkept
    have reach₂ : h₂.Reachable :=
      (reach.run ((run_singleton h _).trans hm)).run hmore
    -- the rest of the calls lies under the callback that runs
    have hframe : ∃ callbacks, .calls event callbacks ∈ h₁.delivery := by
      cases proceeds_of_proceed hm with
      | call event callback callbacks rest top =>
        exact ⟨callbacks, List.mem_cons_of_mem _ List.mem_cons_self⟩
    obtain ⟨callbacks, hframe⟩ := hframe
    exact reach₂.inProgress (hkept.subset hframe) hcommit
  · intro m h₁ signs₁ number result hm ended
    exact present_of_ended hm ended
  · intro distinct number result ended
    refine haccount.not_present ?_ ended
    rw [hnobody.2, List.nil_append]
    exact distinct

/-- Of the three calls on the small page one has ended without its caller, one has
been taken back, and one is with the server. -/
theorem overlapping_calls_are_counted :
    ∃ h signs, Sample.hub.run ([.enter weatherCall] ++ .enter secondCall ::
        (meanwhile ++ .leave 1 :: afterwards)) = some (h, signs) ∧
      h.present = [thirdCall] ∧ h.inFlight = 1 ∧
      ([weatherCall] ++ [secondCall] ++ h.present).Perm
        [weatherCall, secondCall, thirdCall] := by
  have hrun : ∃ h signs, Sample.hub.run ([.enter weatherCall] ++ .enter secondCall ::
      (meanwhile ++ .leave 1 :: afterwards)) = some (h, signs) ∧
      h.present = [thirdCall] := ⟨_, _, rfl, rfl⟩
  obtain ⟨h, signs, hrun, hpresent⟩ := hrun
  obtain ⟨⟨hcalls, hcount, _⟩, _⟩ := count_and_lock_are_exact Sample.hub_of_page hrun
  refine ⟨h, signs, hrun, hpresent, ?_, hcalls⟩
  rw [hcount, hpresent]
  rfl

end Hub

end PortletPage
