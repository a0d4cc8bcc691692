import PortletPage.Proofs.Decisions
import PortletPage.Proofs.Sites

/-!
# Submissions that are not needed

A state is sent to the server if the portlet has another one, and otherwise it is not.
What has been granted is what the portlet has, so that a submission can be repeated
without anything coming of it.

* `Hub.Lone` follows a call that has a hub to itself and keeps account of how often
  something is still to be sent before it ends (`Step.lone`, `Lone.length_submissions`).
* `Hub.Void`: nothing comes of a call.  It is answered with the state that the portlet
  has, and hub and server are as before, whatever the server does with other calls.
* `Step.state_of_success`: a portlet that has learnt that its submission was successful
  has the state that it has submitted.
* `Hub.picture_run_of_ungranted`: it keeps the state as long as nothing is granted.
* `Hub.submissions_are_idempotent` puts this together.
-/

namespace PortletPage

/-- How often something is still to be sent before the call that holds the lock ends. -/
def Stage.toSend : Stage → Nat
  | .ready _ => 1
  | .sent _ => 0
  | .over _ => 0

namespace Hub

variable {κ : Type}

/-! ## Calls that have a hub to themselves -/

/-- How often something is sent for a call. -/
def toSend (store : Store) (call : Call) : Nat :=
  match prepare store call with
  | .ok _ => 1
  | .error _ => 0

/-- The call waits for the lock or holds it, and there is no other call.  The number
says how often something is still to be sent before it ends. -/
inductive Lone (call : Call) : Hub κ → Nat → Prop
  | waits (h : Hub κ) (free : h.holder = none) (first : h.queue = [call]) :
      Lone call h (toSend h.store call)
  | holds (h : Hub κ) (attended : Bool) (stage : Stage)
      (holds : h.holder = some ⟨call, attended, stage⟩) (empty : h.queue = []) :
      Lone call h stage.toSend

/-- What does not touch calls and render states does not matter. -/
theorem Lone.of_still {h h' : Hub κ} {call : Call} {n : Nat} (hl : Lone call h n)
    (hholder : h'.holder = h.holder) (hqueue : h'.queue = h.queue)
    (hpicture : h'.store.picture = h.store.picture) : Lone call h' n := by
  cases hl with
  | waits free first =>
    have hsame : toSend h.store call = toSend h'.store call := by
      rw [toSend, toSend, prepare_of_picture_eq hpicture]
    rw [hsame]
    exact .waits h' (hholder.trans free) (hqueue.trans first)
  | holds attended stage holds empty =>
    exact .holds h' attended stage (hholder.trans holds) (hqueue.trans empty)

/-- As long as no call comes nothing is sent and no call ends. -/
theorem AtRest.step {h h' : Hub κ} {m : Move κ} {signs : List (Sign κ)} (rest : h.AtRest)
    (hs : Step h m h' signs) (hm : m.call? = none) :
    h'.AtRest ∧ Sign.submissions signs = [] ∧ Sign.results signs = [] := by
  obtain ⟨hqueue, hholder⟩ := rest
  cases hs with
  | enter call => cases hm
  | takeBack number waits => rw [hqueue] at waits; cases waits
  | desert call attended stage holds waitsNot => rw [hholder] at holds; cases holds
  | acquire call queue s free first prepared => rw [hqueue] at first; cases first
  | endEarly call queue result free first prepared => rw [hqueue] at first; cases first
  | send call attended s holds => rw [hholder] at holds; cases holds
  | grant call attended s update holds quiet => rw [hholder] at holds; cases holds
  | fail call attended s error holds quiet => rw [hholder] at holds; cases holds
  | breakOff call attended s holds quiet => rw [hholder] at holds; cases holds
  | release call attended result holds quiet => rw [hholder] at holds; cases holds
  | ask request may =>
    obtain ⟨_, hqueue', hholder'⟩ := ask_calls h request
    exact ⟨⟨hqueue'.trans hqueue, hholder'.trans hholder⟩, rfl, rfl⟩
  | proceed h' signs proceeds =>
    obtain ⟨_, hqueue', hholder'⟩ := proceed_calls proceeds
    exact ⟨⟨hqueue'.trans hqueue, hholder'.trans hholder⟩, proceed_signs proceeds⟩
  | finish callback rest runs => exact ⟨⟨hqueue, hholder⟩, rfl, rfl⟩

theorem AtRest.run {h h' : Hub κ} {moves : List (Move κ)} {signs : List (Sign κ)}
    (rest : h.AtRest) (hr : h.run moves = some (h', signs)) (hm : Move.entered moves = []) :
    Sign.submissions signs = [] ∧ Sign.results signs = [] := by
  induction moves generalizing h signs with
  | nil =>
    cases hr
    exact ⟨rfl, rfl⟩
  | cons m moves ih =>
    obtain ⟨h₁, first, more, hmove, hrest, rfl⟩ := run_cons_iff.mp hr
    rw [Move.entered_cons, List.append_eq_nil_iff, Option.toList_eq_nil_iff] at hm
    obtain ⟨rest₁, hsubmissions, hresults⟩ := rest.step (step_of_move hmove) hm.1
    obtain ⟨hsubmissions', hresults'⟩ := ih rest₁ hrest hm.2
    simp [hsubmissions, hresults, hsubmissions', hresults']

theorem Lone.of_holds {h : Hub κ} {call c : Call} {n : Nat} {attended : Bool} {stage : Stage}
    (hl : Lone call h n) (holds : h.holder = some ⟨c, attended, stage⟩) :
    c = call ∧ stage.toSend = n ∧ h.queue = [] := by
  cases hl with
  | waits free first => rw [free] at holds; cases holds
  | holds attended' stage' holds' empty =>
    rw [holds'] at holds
    cases holds
    exact ⟨rfl, rfl, empty⟩

theorem Lone.of_waits {h : Hub κ} {call c : Call} {queue : List Call} {n : Nat}
    (hl : Lone call h n) (first : h.queue = c :: queue) :
    c = call ∧ toSend h.store call = n ∧ queue = [] ∧ h.holder = none := by
  cases hl with
  | waits free first' =>
    rw [first'] at first
    cases first
    exact ⟨rfl, rfl, rfl, free⟩
  | holds attended stage holds empty => rw [empty] at first; cases first

/-- With each step the call goes on, and what is sent has been to be sent, or the call is
gone.  It is not answered unless nothing is to be sent any more. -/
theorem Step.lone {h h' : Hub κ} {m : Move κ} {signs : List (Sign κ)} {call : Call} {n : Nat}
    (hs : Step h m h' signs) (hm : m.call? = none) (hl : Lone call h n) :
    (∃ n', Lone call h' n' ∧ Sign.results signs = [] ∧
        (Sign.submissions signs).length + n' = n) ∨
      (h'.AtRest ∧ Sign.submissions signs = [] ∧ (Sign.results signs ≠ [] → n = 0)) := by
  cases hs with
  | enter c => cases hm
  | takeBack number waits =>
    obtain ⟨c, queue, first⟩ := List.exists_cons_of_ne_nil (l := h.queue)
      fun hnil => by rw [hnil] at waits; cases waits
    obtain ⟨rfl, -, rfl, free⟩ := hl.of_waits first
    have hnumber : c.number = number := by simpa [first, eq_comm] using waits
    exact .inr ⟨⟨by simp [first, hnumber], free⟩, rfl, fun h => absurd rfl h⟩
  | desert c attended stage holds waitsNot =>
    obtain ⟨rfl, rfl, empty⟩ := hl.of_holds holds
    exact .inl ⟨_, .holds _ false stage rfl empty, rfl, Nat.zero_add _⟩
  | acquire c queue s free first prepared =>
    obtain ⟨rfl, rfl, rfl, -⟩ := hl.of_waits first
    refine .inl ⟨1, .holds _ true (.ready s) rfl rfl, rfl, ?_⟩
    rw [toSend, prepared]
    rfl
  | endEarly c queue result free first prepared =>
    obtain ⟨rfl, rfl, rfl, -⟩ := hl.of_waits first
    refine .inr ⟨⟨rfl, free⟩, rfl, fun _ => ?_⟩
    rw [toSend, prepared]
  | send c attended s holds =>
    obtain ⟨rfl, rfl, empty⟩ := hl.of_holds holds
    exact .inl ⟨0, .holds _ attended (.sent s) rfl empty, rfl, rfl⟩
  | grant c attended s update holds quiet =>
    obtain ⟨rfl, rfl, empty⟩ := hl.of_holds holds
    exact .inl ⟨0, .holds _ attended (.over _) rfl empty, rfl, rfl⟩
  | fail c attended s error holds quiet =>
    obtain ⟨rfl, rfl, empty⟩ := hl.of_holds holds
    exact .inl ⟨0, .holds _ attended (.over _) rfl empty, rfl, rfl⟩
  | breakOff c attended s holds quiet =>
    obtain ⟨rfl, rfl, empty⟩ := hl.of_holds holds
    exact .inl ⟨0, .holds _ attended (.over _) rfl empty, rfl, rfl⟩
  | release c attended result holds quiet =>
    obtain ⟨rfl, rfl, empty⟩ := hl.of_holds holds
    exact .inr ⟨⟨empty, rfl⟩, by cases attended <;> rfl, fun _ => rfl⟩
  | ask request may =>
    obtain ⟨_, hqueue, hholder⟩ := ask_calls h request
    exact .inl ⟨n, hl.of_still hholder hqueue (picture_ask h request), rfl, Nat.zero_add n⟩
  | proceed h' signs proceeds =>
    obtain ⟨_, hqueue, hholder⟩ := proceed_calls proceeds
    obtain ⟨hsubmissions, hresults⟩ := proceed_signs proceeds
    refine .inl ⟨n, hl.of_still hholder hqueue (by rw [store_proceed proceeds]), hresults, ?_⟩
    rw [hsubmissions]
    exact Nat.zero_add n
  | finish callback rest runs =>
    exact .inl ⟨n, hl.of_still rfl rfl rfl, rfl, Nat.zero_add n⟩

/-- In a run that the call is answered in, as much is sent as was to be sent. -/
theorem Lone.length_submissions {h h' : Hub κ} {moves : List (Move κ)} {signs : List (Sign κ)}
    {call : Call} {n : Nat} (hl : Lone call h n) (hr : h.run moves = some (h', signs))
    (hm : Move.entered moves = []) (answered : Sign.results signs ≠ []) :
    (Sign.submissions signs).length = n := by
  induction moves generalizing h signs n with
  | nil =>
    cases hr
    exact absurd rfl answered
  | cons m moves ih =>
    obtain ⟨h₁, first, more, hmove, hrest, rfl⟩ := run_cons_iff.mp hr
    rw [Move.entered_cons, List.append_eq_nil_iff, Option.toList_eq_nil_iff] at hm
    rw [Sign.results_append] at answered
    rw [Sign.submissions_append, List.length_append]
    rcases (step_of_move hmove).lone hm.1 hl with
      ⟨n', hl', hresults, hn⟩ | ⟨rest, hsubmissions, hdone⟩
    · rw [hresults, List.nil_append] at answered
      rw [ih hl' hrest hm.2 answered, hn]
    · -- the call is gone
      obtain ⟨hsubmissions', hresults'⟩ := rest.run hrest hm.2
      rw [hresults', List.append_nil] at answered
      rw [hsubmissions, hsubmissions', hdone answered]
      rfl

/-! ## Calls that nothing comes of -/

/-- Nothing comes of the call: it is answered with that state, and nobody else is told
anything.  Apart from that, hub and server are as before, be the server working or not. -/
structure Void (h : Hub κ) (call : Call) (state : RenderState) : Prop where
  /-- When its turn comes it ends and does not take the lock. -/
  turn : ∀ queue, h.holder = none → h.queue = call :: queue →
    h.move .acquire = some ({ h with queue := queue, inFlight := h.inFlight - 1 },
      [.ended call.number (.ok ⟨state, []⟩)])
  /-- If there is no other call its turn comes at once. -/
  alone : h.AtRest →
    h.run [.enter call, .acquire] = some (h, [.ended call.number (.ok ⟨state, []⟩)])
  server : h.AtRest → ∀ server, Site.take ⟨h, server⟩ (.call call) = some ⟨h, server⟩

theorem void_of_prepare {h : Hub κ} {call : Call} {state : RenderState}
    (prepared : prepare h.store call = .error (.ok ⟨state, []⟩)) : h.Void call state where
  turn queue free first := move_of_step (.endEarly h call queue _ free first prepared)
  alone rest := by
    have hperform := perform_call_of_early rest prepared .broken
    rwa [perform, movesOf, prepared] at hperform
  server rest server := by
    rw [Site.take]
    simp only [prepared, perform_call_of_early rest prepared]
    rfl

/-- Nothing comes of a submission of the state that the portlet has. -/
theorem void_of_agrees {h : Hub κ} {id : String} {state s : RenderState}
    (has : h.store.state? id = some state) (agrees : state.agrees s = true) (number : Nat) :
    h.Void ⟨number, id, .state s⟩ state := by
  obtain ⟨own, found, rfl⟩ := Option.map_eq_some_iff.mp has
  exact void_of_prepare (prepare_present found rfl agrees)

/-! ## Successful calls -/

/-- A call that ends before anything is sent asked for the state that the portlet has. -/
theorem present_of_prepare {store : Store} {call : Call} {s : RenderState} {outcome : Outcome}
    (wish : call.wish = .state s) (prepared : prepare store call = .error (.ok outcome)) :
    store.state? call.portlet = some outcome.state ∧ outcome.state.agrees s = true := by
  cases found : store.get? call.portlet with
  | none =>
    simp only [prepare, found] at prepared
    cases prepared
  | some own =>
    cases agrees : own.state.agrees s with
    | true =>
      rw [prepare_present found wish agrees] at prepared
      cases prepared
      exact ⟨congrArg (Option.map Record.state) found, agrees⟩
    | false =>
      rw [prepare_state found wish agrees] at prepared
      cases prepared

/-- When a submission over a simulated server turns out to be successful, the portlet has
the state that it has submitted, and that is the result. -/
theorem Step.state_of_success {h h' : Hub κ} {m : Move κ} {signs : List (Sign κ)} {call : Call}
    {s : RenderState} {outcome : Outcome} (hs : Step h m h' signs) (hsound : h.Sound)
    (hsim : h.SimulatedAt m) (success : (call, .ok outcome) ∈ h.decides h' m)
    (wish : call.wish = .state s) :
    h'.store.state? call.portlet = some outcome.state ∧ outcome.state.agrees s = true := by
  cases hs with
  | acquire c queue submission free first prepared =>
    simp [decides, first, prepared] at success
  | endEarly c queue result free first prepared =>
    simp only [decides, first, prepared, List.mem_singleton] at success
    cases success
    exact present_of_prepare wish prepared
  | grant c attended submission update holds quiet =>
    have hprepared := hsound.prepared holds rfl
    obtain ⟨own, found⟩ := hsound.found holds rfl
    have hupdate : update = SimulatedServer.grant submission := by
      rcases hsim.cases holds with heq | heq <;> cases heq
      rfl
    have houtcome : call = c ∧ (.ok outcome : CallResult) = .ok (outcomeOf c.portlet
        (h.store.commit c.portlet update (reasonFor submission)).1) :=
      Prod.mk.inj (List.mem_singleton.mp success)
    obtain ⟨rfl, houtcome⟩ := houtcome
    cases houtcome
    rw [outcomeOf_commit hsound.ids found]
    refine ⟨Store.state?_commit_submitter found _ _, ?_⟩
    cases agrees : own.state.agrees s with
    | true =>
      -- it would have ended early
      rw [prepare_present found wish agrees] at hprepared
      cases hprepared
    | false =>
      rw [prepare_state found wish agrees] at hprepared
      cases hprepared
      subst hupdate
      exact s.agrees_refl
  | fail c attended submission error holds quiet =>
    cases List.mem_singleton.mp success
  | breakOff c attended submission holds quiet =>
    cases List.mem_singleton.mp success
  | _ => cases success

/-- As long as nothing is granted all portlets keep their states. -/
theorem picture_run_of_ungranted {h h' : Hub κ} {moves : List (Move κ)} {signs : List (Sign κ)}
    (hr : h.run moves = some (h', signs))
    (ungranted : ∀ m ∈ moves, ∀ update, m ≠ .receive (.granted update)) :
    h'.store.picture = h.store.picture := by
  induction moves generalizing h signs with
  | nil =>
    cases hr
    rfl
  | cons m moves ih =>
    obtain ⟨h₁, first, more, hm, hrest, _⟩ := run_cons_iff.mp hr
    obtain ⟨hfirst, hmore⟩ := List.forall_mem_cons.mp ungranted
    rw [ih hrest hmore, (step_of_move hm).picture_eq hfirst]

/-! ## Repeated submissions -/

section Repeated

variable {h : Hub κ} {id : String} {own : Record} {s : RenderState}

/-- A state is sent once if the portlet has another one, and otherwise not at all. -/
theorem toSend_state {store : Store} (found : store.get? id = some own) (number : Nat) :
    toSend store ⟨number, id, .state s⟩ = if own.state.agrees s then 0 else 1 := by
  cases agrees : own.state.agrees s with
  | true => rw [toSend, prepare_present found rfl agrees]; rfl
  | false => rw [toSend, prepare_state found rfl agrees]; rfl

/-- In a run that a call is answered in and no other call comes in, as much is sent as is
to be sent for the call. -/
theorem AtRest.length_submissions (rest : h.AtRest) {call : Call} {moves : List (Move κ)}
    {h' : Hub κ} {signs : List (Sign κ)} (hr : h.run (.enter call :: moves) = some (h', signs))
    (hm : Move.entered moves = []) (answered : Sign.results signs ≠ []) :
    (Sign.submissions signs).length = toSend h.store call := by
  obtain ⟨h₁, first, more, henter, hrest, rfl⟩ := run_cons_iff.mp hr
  cases henter
  have hlone : Lone call { h with queue := h.queue ++ [call], inFlight := h.inFlight + 1 }
      (toSend h.store call) :=
    .waits _ rest.2 (by rw [rest.1]; rfl)
  exact hlone.length_submissions hrest hm answered

/-- A state that the portlet does not have is sent. -/
theorem AtRest.run_send_state (rest : h.AtRest) (found : h.store.get? id = some own)
    (differs : own.state.agrees s = false) (number : Nat) :
    ∃ submission g, h.run [.enter ⟨number, id, .state s⟩, .acquire, .send] =
      some (g, [.sent submission]) := by
  let call : Call := ⟨number, id, .state s⟩
  let h₁ : Hub κ := { h with queue := h.queue ++ [call], inFlight := h.inFlight + 1 }
  have first : h₁.queue = call :: [] := by
    show h.queue ++ [call] = _
    rw [rest.1, List.nil_append]
  have hsend := run_send (h := h₁) rest.2 first (prepare_state found rfl differs)
  exact ⟨_, _, run_cons_iff.mpr ⟨h₁, [], _, rfl, hsend, rfl⟩⟩

/-- The server counts what is sent to it. -/
theorem server_take {server : SimulatedServer} {call : Call} {taken : Site κ}
    (ht : Site.take ⟨h, server⟩ (.call call) = some taken) :
    taken.server = { server with calls := server.calls + toSend h.store call } := by
  simp only [Site.take] at ht
  cases prepared : prepare h.store call with
  | error result =>
    rw [prepared] at ht
    obtain ⟨p, _, rfl⟩ := Option.map_eq_some_iff.mp ht
    rw [toSend, prepared]
    rfl
  | ok submission =>
    rw [prepared] at ht
    obtain ⟨p, _, rfl⟩ := Option.map_eq_some_iff.mp ht
    rw [toSend, prepared]
    rfl

/-- After a successful submission the portlet has the state, whatever routine follows. -/
theorem state_of_act {site : Site κ} (steady : site.Steady)
    (found : site.hub.store.get? id = some own)
    (success : own.state.agrees s = true ∨ site.server.failing = false) {number : Nat}
    {routine : List Routine} {upshot : Upshot κ}
    (ha : site.act ⟨.call ⟨number, id, .state s⟩, routine⟩ = some upshot) :
    ∃ state, upshot.after.hub.store.state? id = some state ∧ state.agrees s = true := by
  obtain ⟨taken, after, calls, ht, hg, rfl⟩ := Site.act_iff.mp ha
  have hstore : after.hub.store =
      (site.hub.store.respond site.server.failing ⟨number, id, .state s⟩).2 :=
    (Site.goesOn_of_goOn hg).store.trans (Site.takes_of_take steady ht).store
  show ∃ state, after.hub.store.state? id = some state ∧ _
  rw [hstore]
  cases agrees : own.state.agrees s with
  | true =>
    rw [Store.respond_of_early (prepare_present found rfl agrees)]
    exact ⟨own.state, congrArg (Option.map Record.state) found, agrees⟩
  | false =>
    have works : site.server.failing = false :=
      success.resolve_left (by rw [agrees]; exact Bool.false_ne_true)
    rw [works, Store.respond_of_sent (prepare_state found rfl agrees)]
    exact ⟨s, Store.state?_commit_submitter found _ _, s.agrees_refl⟩

/-- To submit a state twice comes to the same as to submit it once. -/
theorem run_twice {server : SimulatedServer} (steady : Site.Steady ⟨h, server⟩)
    (found : h.store.get? id = some own)
    (success : own.state.agrees s = true ∨ server.failing = false) {number : Nat}
    {routine : List Routine} {upshot : Upshot κ}
    (hr : Site.run ⟨h, server⟩ [⟨.call ⟨number, id, .state s⟩, routine⟩] = some [upshot])
    (rest : upshot.after.hub.AtRest) (again : Nat) :
    Site.run ⟨h, server⟩ [⟨.call ⟨number, id, .state s⟩, routine⟩,
        ⟨.call ⟨again, id, .state s⟩, []⟩] =
      some [upshot, ⟨[], [], upshot.after.hub.delivery.isEmpty, upshot.after⟩] := by
  obtain ⟨upshot', rest', ha, hnone, heq⟩ := Site.run_cons_iff.mp hr
  cases hnone
  cases heq
  obtain ⟨state, has, agrees⟩ := state_of_act steady found success ha
  have htake : upshot.after.take (.call ⟨again, id, .state s⟩) = some upshot.after :=
    (void_of_agrees has agrees again).server rest upshot.after.server
  have hagain : upshot.after.act ⟨.call ⟨again, id, .state s⟩, []⟩ =
      some ⟨[], [], upshot.after.hub.delivery.isEmpty, upshot.after⟩ := by
    refine Site.act_iff.mpr ⟨upshot.after, upshot.after, [], htake, rfl, ?_⟩
    rw [Site.arrivals_self, Bool.and_self]
  exact Site.run_cons_iff.mpr ⟨upshot, _, ha,
    Site.run_cons_iff.mpr ⟨_, [], hagain, rfl, rfl⟩, rfl⟩

end Repeated

/-- For every hub that a run on a valid page leads to, every portlet of the page and every
state:

* if no other call is queued or under way and the portlet has the state already, nothing
  comes of submitting it, and if the portlet has another state, it can be sent at once.
  In every run in which the submission comes and no other call does and in which it is
  answered, exactly one submission is sent if the portlet has another state, and otherwise
  none; and so the server counts;
* when a submission of the state over a simulated server turns out to be successful, the
  portlet has the state and keeps it in every run in which nothing else is granted.  After
  every such run nothing comes of submitting the state, also while round trips fail;
* to submit the state twice over a simulated server comes to the same as to submit it once,
  if it is successful. -/
theorem submissions_are_idempotent {h : Hub κ} (reach : h.Reachable) {id : String}
    {own : Record} (found : h.store.get? id = some own) (s : RenderState) :
    (h.AtRest → ∀ number,
      (own.state.agrees s = true → h.Void ⟨number, id, .state s⟩ own.state) ∧
      (own.state.agrees s = false → ∃ submission g,
        h.run [.enter ⟨number, id, .state s⟩, .acquire, .send] =
          some (g, [.sent submission])) ∧
      (∀ moves h' signs, h.run (.enter ⟨number, id, .state s⟩ :: moves) = some (h', signs) →
        Move.entered moves = [] → Sign.results signs ≠ [] →
        (Sign.submissions signs).length = if own.state.agrees s then 0 else 1) ∧
      ∀ server taken, Site.take ⟨h, server⟩ (.call ⟨number, id, .state s⟩) = some taken →
        taken.server =
          { server with calls := server.calls + if own.state.agrees s then 0 else 1 }) ∧
    (∀ call m g signs outcome, call.portlet = id → call.wish = .state s → h.SimulatedAt m →
      h.move m = some (g, signs) → (call, .ok outcome) ∈ h.decides g m →
      ∀ moves g' more, g.run moves = some (g', more) →
        (∀ m ∈ moves, ∀ update, m ≠ .receive (.granted update)) →
        g'.store.state? id = some outcome.state ∧ outcome.state.agrees s = true ∧
          ∀ number, g'.Void ⟨number, id, .state s⟩ outcome.state) ∧
    (h.AtRest → ∀ server number routine upshot,
      (own.state.agrees s = true ∨ server.failing = false) →
      Site.run ⟨h, server⟩ [⟨.call ⟨number, id, .state s⟩, routine⟩] = some [upshot] →
      upshot.after.hub.AtRest → ∀ again,
      Site.run ⟨h, server⟩ [⟨.call ⟨number, id, .state s⟩, routine⟩,
          ⟨.call ⟨again, id, .state s⟩, []⟩] =
        some [upshot, ⟨[], [], upshot.after.hub.delivery.isEmpty, upshot.after⟩]) := by
  refine ⟨?_, ?_, ?_⟩
  · intro rest number
    refine ⟨fun agrees => ?_, fun differs => rest.run_send_state found differs number, ?_, ?_⟩
    · exact void_of_agrees (congrArg (Option.map Record.state) found) agrees number
    · intro moves h' signs hr hm answered
      rw [rest.length_submissions hr hm answered, toSend_state found number]
    · intro server taken ht
      rw [server_take ht, toSend_state found number]
  · intro call m g signs outcome hid wish hsim hm success moves g' more hr ungranted
    obtain ⟨has, agrees⟩ := (step_of_move hm).state_of_success reach.sound hsim success wish
    have has' : g'.store.state? id = some outcome.state := by
      rw [Store.state?_of_picture_eq (picture_run_of_ungranted hr ungranted), ← hid]
      exact has
    exact ⟨has', agrees, void_of_agrees has' agrees⟩
  · intro rest server number routine upshot success hr hrest again
    exact run_twice ⟨reach.sound.ids, reach.tidy, rest.1⟩ found success hr hrest again

/-- The weather report gets its city, and the map hears of it.  To submit it once more
leads to nothing, and the server has been asked once. -/
theorem weather_submits_twice :
    ∃ upshot : Upshot Unit, upshot.after.server.calls = 1 ∧ upshot.news.length = 2 ∧
      Site.run ⟨Sample.hub, {}⟩ [⟨.call weatherCall,
          [.proceed, .proceed, .proceed, .proceed, .proceed, .release]⟩,
        ⟨.call { weatherCall with number := 1 }, []⟩] =
      some [upshot, ⟨[], [], true, upshot.after⟩] := by
  have reach : Sample.hub.Reachable := ⟨Sample.page, {}, Sample.hub, [], [], rfl, rfl⟩
  have found : Sample.hub.store.get? "weather" = some weatherRecord := rfl
  obtain ⟨-, -, twice⟩ := submissions_are_idempotent reach found
    ⟨"VIEW", "NORMAL", .ofEntries [("city", [some "Oslo"])]⟩
  exact ⟨_, rfl, rfl, twice ⟨rfl, rfl⟩ {} 0
    [.proceed, .proceed, .proceed, .proceed, .proceed, .release] _ (.inr rfl) rfl ⟨rfl, rfl⟩ 1⟩

end Hub

end PortletPage
