import PortletPage.Proofs.Course
import PortletPage.Proofs.Responses

/-!
# Sites

A site is a hub with the simulated server.  It takes calls and requests, and its
server can be switched to fail, and after each input things go on by routine: what
is put up for delivery is delivered, and a call that is over ends.

* `Site.intake` says what an input comes to, and `Site.takes_of_take` that it does.
* `Hub.due` are the calls of callbacks that are to come if no listener is added or
  removed meanwhile.  A routine makes them in order (`Site.GoesOn`), and an act that
  leaves nothing to deliver makes them all (`Site.calls_of_whole`).
* `Site.exists_run`: whatever the inputs are, there are routines with which each of
  them is delivered in full before the next one comes.
-/

namespace PortletPage

/-! ## Sites -/

/-- A hub with the simulated server. -/
structure Site (κ : Type) where
  hub : Hub κ
  server : SimulatedServer

/-- What comes to a site. -/
inductive Input (κ : Type) where
  /-- A portlet calls, and the server answers at once if anything is sent. -/
  | call (call : Call)
  /-- A request is put, by the callback that runs or, when none does, from outside. -/
  | request (request : Request κ)
  /-- From now on round trips fail, or they do so no longer. -/
  | switch (failing : Bool)

/-- What a site does by itself. -/
inductive Routine where
  /-- The delivery goes on. -/
  | proceed
  /-- The callback that runs ends. -/
  | finish
  /-- The call whose answer has been applied ends. -/
  | release

/-- An input with the routine that follows until the next one. -/
structure Act (κ : Type) where
  input : Input κ
  routine : List Routine

/-- The state changes that a frame is about. -/
def Frame.changes {κ : Type} : Frame κ → List StateChange
  | .turns changes => changes.map Prod.snd
  | .calls event _ => event.news.change?.toList
  | .running _ => []
  | .reply _ => []

/-- What an act has led to. -/
structure Upshot (κ : Type) where
  /-- The state changes that have come up for delivery with the input. -/
  news : List StateChange
  /-- The callbacks that have been called, with what. -/
  calls : List (κ × News)
  /-- Nothing was being delivered before the act, and nothing is after it. -/
  whole : Bool
  /-- The site when the routine is over. -/
  after : Site κ

section

variable {κ : Type}

def Routine.move : Routine → Move κ
  | .proceed => .proceed
  | .finish => .finish
  | .release => .release

/-- The callbacks that are called, with what, in order. -/
def Sign.told (signs : List (Sign κ)) : List (κ × News) :=
  (Sign.calls signs).map fun call => (call.1, call.2.news)

/-- The listeners of each change in turn. -/
def Registry.audience (registry : Registry κ) (changes : List StateChange) : List (κ × News) :=
  changes.flatMap fun change =>
    (registry.listenersFor change.portlet .stateChange).map fun callback =>
      (callback, .stateChange change)

/-- The calls that a frame leads to if no listener is added or removed. -/
def Frame.due (registry : Registry κ) : Frame κ → List (κ × News)
  | .turns changes => registry.audience (changes.map Prod.snd)
  | .calls event callbacks => callbacks.map fun callback => (callback, event.news)
  | .running _ => []
  | .reply _ => []

/-- The calls that a delivery leads to if no listener is added or removed. -/
def Hub.due (h : Hub κ) : List (κ × News) := h.delivery.flatMap (Frame.due h.registry)

/-- The state changes in the frames that have come on top of a delivery. -/
def Hub.arrivals (before after : Hub κ) : List StateChange :=
  (after.delivery.take (after.delivery.length - before.delivery.length)).flatMap Frame.changes

namespace Site

/-- The site after an input; none if it is not open. -/
def take (site : Site κ) : Input κ → Option (Site κ)
  | .call call =>
    match Hub.prepare site.hub.store call with
    | .ok s =>
      let (answer, server) := site.server.answer s
      (site.hub.perform (.call call answer)).map fun p => ⟨p.1, server⟩
    -- nothing is sent, so that it does not matter with what answer
    | .error _ => (site.hub.perform (.call call .broken)).map fun p => ⟨p.1, site.server⟩
  | .request request => (site.hub.perform (.request request)).map fun p => ⟨p.1, site.server⟩
  | .switch failing => some { site with server := { site.server with failing := failing } }

/-- The site after a routine, and the callbacks that it has called. -/
def goOn (site : Site κ) (routine : List Routine) : Option (Site κ × List (κ × News)) :=
  (site.hub.run (routine.map Routine.move)).map fun p =>
    ({ site with hub := p.1 }, Sign.told p.2)

def act (site : Site κ) (a : Act κ) : Option (Upshot κ) := do
  let taken ← site.take a.input
  let (after, calls) ← taken.goOn a.routine
  return ⟨site.hub.arrivals taken.hub, calls,
    site.hub.delivery.isEmpty && after.hub.delivery.isEmpty, after⟩

/-- What each act of a list has led to; none if one of them is not open when its
turn comes. -/
def run (site : Site κ) : List (Act κ) → Option (List (Upshot κ))
  | [] => some []
  | a :: acts => do
    let upshot ← site.act a
    let upshots ← upshot.after.run acts
    return upshot :: upshots

end Site

/-! ## Inputs -/

/-- What an input comes to. -/
structure Intake (κ : Type) where
  /-- The state changes that come up for delivery. -/
  news : List StateChange
  /-- The calls that are due then, if nothing was being delivered. -/
  calls : List (κ × News)
  store : Store
  registry : Registry κ
  failing : Bool

/-- What holds of a site in the course of a run. -/
structure Site.Steady (site : Site κ) : Prop where
  ids : site.hub.store.ids.Nodup
  tidy : site.hub.registry.Tidy
  queue : site.hub.queue = []

/-- The site has taken an input that comes to this. -/
structure Site.Takes (site : Site κ) (intake : Intake κ) (taken : Site κ) : Prop where
  news : site.hub.arrivals taken.hub = intake.news
  due : site.hub.delivery = [] → taken.hub.due = intake.calls
  store : taken.hub.store = intake.store
  registry : taken.hub.registry = intake.registry
  failing : taken.server.failing = intake.failing
  config : taken.hub.config = site.hub.config
  queue : taken.hub.queue = []

/-- The state changes among the news of a request. -/
def Hub.announced (h : Hub κ) (request : Request κ) : List StateChange :=
  (h.announcement request).toList.filterMap fun news => news.1.change?

/-- The calls with the news of a request. -/
def Hub.addressed (h : Hub κ) (request : Request κ) : List (κ × News) :=
  (h.announcement request).toList.flatMap fun news =>
    news.2.map fun callback => (callback, news.1)

/-- A call comes to what the simulated server makes of it, and a request to what it
says, where nothing comes of one that is refused. -/
def Site.intake (site : Site κ) : Input κ → Intake κ
  | .call call =>
    let (news, store) := site.hub.store.respond site.server.failing call
    ⟨news, site.hub.registry.audience news, store, site.hub.registry, site.server.failing⟩
  | .request request =>
    ⟨site.hub.announced request, site.hub.addressed request, site.hub.store.heed request,
      site.hub.registry.heed request, site.server.failing⟩
  | .switch failing => ⟨[], [], site.hub.store, site.hub.registry, failing⟩

namespace Site

variable {site taken : Site κ}

theorem arrivals_of_append {before after : Hub κ} {frames : List (Frame κ)}
    (h : after.delivery = frames ++ before.delivery) :
    before.arrivals after = frames.flatMap Frame.changes := by
  rw [Hub.arrivals, h, List.length_append, Nat.add_sub_cancel, List.take_left]

theorem arrivals_self (h : Hub κ) : h.arrivals h = [] :=
  arrivals_of_append (List.nil_append _).symm

theorem due_of_quiet {h : Hub κ} (quiet : h.delivery = []) : h.due = [] := by
  rw [Hub.due, quiet, List.flatMap_nil]

/-- Nothing comes of an input that leaves the hub as it was. -/
theorem takes_nothing (hi : site.Steady) {server : SimulatedServer} {failing : Bool}
    (hserver : server.failing = failing) :
    site.Takes ⟨[], [], site.hub.store, site.hub.registry, failing⟩ ⟨site.hub, server⟩ :=
  ⟨arrivals_self _, due_of_quiet, rfl, rfl, hserver, rfl, hi.queue⟩

theorem takes_call (hi : site.Steady) {call : Call} (ht : site.take (.call call) = some taken) :
    site.Takes (site.intake (.call call)) taken := by
  simp only [take] at ht
  cases hprepared : Hub.prepare site.hub.store call with
  | error result =>
    rw [hprepared] at ht
    obtain ⟨⟨hub, signs⟩, hp, rfl⟩ := Option.map_eq_some_iff.mp ht
    rw [intake, Store.respond_of_early hprepared]
    cases Hub.performs_of_perform hi.tidy hi.queue hp with
    | early call answer result alone prepared => exact takes_nothing hi rfl
    | failed call answer s failure alone quiet prepared failed =>
      rw [hprepared] at prepared
      cases prepared
  | ok s =>
    rw [hprepared] at ht
    obtain ⟨⟨hub, signs⟩, hp, rfl⟩ := Option.map_eq_some_iff.mp ht
    cases hfailing : site.server.failing with
    | true =>
      rw [SimulatedServer.answer, hfailing] at hp
      rw [intake, hfailing, Store.respond_failing, ← hfailing]
      cases Hub.performs_of_perform hi.tidy hi.queue hp with
      | early call answer result alone prepared => exact takes_nothing hi rfl
      | failed call answer s failure alone quiet prepared failed => exact takes_nothing hi rfl
    | false =>
      rw [SimulatedServer.answer, hfailing] at hp
      rw [intake, hfailing, Store.respond_of_sent hprepared, ← hfailing]
      cases Hub.performs_of_perform hi.tidy hi.queue hp with
      | early call answer result alone prepared =>
        rw [hprepared] at prepared
        cases prepared
      | granted call update s' alone quiet prepared =>
        rw [hprepared] at prepared
        cases prepared
        refine ⟨?_, ?_, rfl, rfl, rfl, rfl, hi.queue⟩
        · have happend : ∀ frames : List (Frame κ), frames = frames ++ site.hub.delivery := by
            intro frames
            rw [quiet, List.append_nil]
          refine (arrivals_of_append (happend _)).trans ?_
          show (Hub.stampFrom site.hub.made _).map Prod.snd ++ [] = _
          rw [List.append_nil, Hub.map_snd_stampFrom]
          rfl
        · intro _
          show site.hub.registry.audience ((Hub.stampFrom site.hub.made _).map Prod.snd) ++ [] = _
          rw [List.append_nil, Hub.map_snd_stampFrom]
          rfl
      | failed call answer s failure alone quiet prepared failed => cases failed

theorem takes_request (hi : site.Steady) {request : Request κ}
    (ht : site.take (.request request) = some taken) :
    site.Takes (site.intake (.request request)) taken := by
  simp only [take] at ht
  obtain ⟨⟨hub, signs⟩, hp, rfl⟩ := Option.map_eq_some_iff.mp ht
  have hperforms := Hub.performs_of_perform hi.tidy hi.queue hp
  have hqueue := hperforms.queue hi.queue
  cases hperforms with
  | refused request failure may refused =>
    obtain ⟨hstore, hregistry, hnews⟩ := Hub.idle_of_refusal refused
    rw [intake, Hub.announced, Hub.addressed, hstore, hregistry, hnews]
    exact takes_nothing hi rfl
  | accepted request may accepted =>
    have hask := Hub.ask_eq hi.tidy request
    refine ⟨?_, ?_, ?_, Hub.registry_ask hi.tidy request, rfl, ?_, hqueue⟩
    · rw [arrivals_of_append (congrArg Hub.delivery hask)]
      cases hnews : site.hub.announcement request with
      | none => simp [intake, Hub.announced, Hub.framesFor, hnews, Frame.changes]
      | some news =>
        cases hchange : news.1.change? <;>
          simp [intake, Hub.announced, Hub.framesFor, hnews, Frame.changes, hchange]
    · intro quiet
      rw [hask, Hub.due, quiet, List.append_nil]
      cases hnews : site.hub.announcement request <;>
        simp [intake, Hub.addressed, Hub.framesFor, hnews, Frame.due]
    · rw [hask]
      rfl
    · rw [hask]

/-- Every input comes to what it should. -/
theorem takes_of_take (hi : site.Steady) {input : Input κ} (ht : site.take input = some taken) :
    site.Takes (site.intake input) taken := by
  cases input with
  | call call => exact takes_call hi ht
  | request request => exact takes_request hi ht
  | switch failing =>
    cases ht
    exact takes_nothing hi rfl

/-! ## Routines -/

/-- A step of a routine changes neither records nor listeners, and makes what calls
it makes first among those that were due. -/
theorem step_routine {h h' : Hub κ} {r : Routine} {signs : List (Sign κ)}
    (hs : Hub.Step h r.move h' signs) :
    h'.store = h.store ∧ h'.registry = h.registry ∧ h'.config = h.config ∧
      h'.queue = h.queue ∧ h.due = Sign.told signs ++ h'.due := by
  cases r with
  | proceed =>
    cases hs with
    | proceed h' signs proceeds =>
      cases Hub.proceeds_of_proceed proceeds with
      | told rest top =>
        exact ⟨rfl, rfl, rfl, rfl, by simp [Hub.due, top, Frame.due, Registry.audience, Sign.told]⟩
      | turn stamp change changes rest top =>
        exact ⟨rfl, rfl, rfl, rfl, by simp [Hub.due, top, Frame.due, Registry.audience, Sign.told]⟩
      | called event rest top =>
        exact ⟨rfl, rfl, rfl, rfl, by simp [Hub.due, top, Frame.due, Sign.told]⟩
      | call event callback callbacks rest top =>
        exact ⟨rfl, rfl, rfl, rfl, by
          simp [Hub.due, top, Frame.due, Sign.told, Sign.calls, Sign.called?]⟩
      | reply r rest top =>
        exact ⟨rfl, rfl, rfl, rfl, by
          simp [Hub.due, top, Frame.due, Sign.told, Sign.calls, Sign.called?]⟩
  | finish =>
    cases hs with
    | finish callback rest runs =>
      exact ⟨rfl, rfl, rfl, rfl, by simp [Hub.due, runs, Frame.due, Sign.told]⟩
  | release =>
    cases hs with
    | release call attended result holds quiet =>
      exact ⟨rfl, rfl, rfl, rfl, by
        cases attended <;> simp [Hub.due, quiet, Sign.told, Sign.calls, Sign.called?]⟩

theorem run_routine {h h' : Hub κ} {routine : List Routine} {signs : List (Sign κ)}
    (hr : h.run (routine.map Routine.move) = some (h', signs)) :
    h'.store = h.store ∧ h'.registry = h.registry ∧ h'.config = h.config ∧
      h'.queue = h.queue ∧ h.due = Sign.told signs ++ h'.due := by
  induction routine generalizing h signs with
  | nil =>
    cases hr
    exact ⟨rfl, rfl, rfl, rfl, rfl⟩
  | cons r routine ih =>
    obtain ⟨h₁, first, more, hm, hrest, rfl⟩ := Hub.run_cons_iff.mp hr
    obtain ⟨hstore, hregistry, hconfig, hqueue, hdue⟩ := step_routine (Hub.step_of_move hm)
    obtain ⟨hstore', hregistry', hconfig', hqueue', hdue'⟩ := ih hrest
    refine ⟨hstore'.trans hstore, hregistry'.trans hregistry, hconfig'.trans hconfig,
      hqueue'.trans hqueue, ?_⟩
    rw [hdue, hdue']
    simp [Sign.told]

/-- A site has gone on by a routine that has made these calls. -/
structure GoesOn (site : Site κ) (calls : List (κ × News)) (after : Site κ) : Prop where
  store : after.hub.store = site.hub.store
  registry : after.hub.registry = site.hub.registry
  config : after.hub.config = site.hub.config
  queue : after.hub.queue = site.hub.queue
  server : after.server = site.server
  due : site.hub.due = calls ++ after.hub.due

theorem goesOn_of_goOn {routine : List Routine} {after : Site κ} {calls : List (κ × News)}
    (hg : site.goOn routine = some (after, calls)) : site.GoesOn calls after := by
  obtain ⟨⟨hub, signs⟩, hr, heq⟩ := Option.map_eq_some_iff.mp hg
  cases heq
  obtain ⟨hstore, hregistry, hconfig, hqueue, hdue⟩ := run_routine hr
  exact ⟨hstore, hregistry, hconfig, hqueue, rfl, hdue⟩

/-- Every input keeps a site steady, and so does every routine. -/
theorem Steady.take (hi : site.Steady) {input : Input κ} (ht : site.take input = some taken) :
    taken.Steady := by
  have htakes := takes_of_take hi ht
  refine ⟨?_, ?_, htakes.queue⟩
  · rw [htakes.store]
    cases input with
    | call call => exact (Store.ids_respond ..).symm ▸ hi.ids
    | request request => exact (Store.ids_heed ..).symm ▸ hi.ids
    | switch failing => exact hi.ids
  · rw [htakes.registry]
    cases input with
    | request request => exact hi.tidy.heed request
    | _ => exact hi.tidy

theorem Steady.goOn (hi : site.Steady) {calls : List (κ × News)} {after : Site κ}
    (hg : site.GoesOn calls after) : after.Steady :=
  ⟨hg.store ▸ hi.ids, hg.registry ▸ hi.tidy, hg.queue.trans hi.queue⟩

/-! ## Acts -/

theorem act_iff {a : Act κ} {upshot : Upshot κ} :
    site.act a = some upshot ↔ ∃ taken after calls, site.take a.input = some taken ∧
      taken.goOn a.routine = some (after, calls) ∧
      upshot = ⟨site.hub.arrivals taken.hub, calls,
        site.hub.delivery.isEmpty && after.hub.delivery.isEmpty, after⟩ := by
  simp only [act, bind, Option.bind_eq_some_iff, pure, Option.some.injEq]
  constructor
  · intro ha
    obtain ⟨taken, ht, ⟨after, calls⟩, hg, rfl⟩ := ha
    exact ⟨taken, after, calls, ht, hg, rfl⟩
  · intro ha
    obtain ⟨taken, after, calls, ht, hg, rfl⟩ := ha
    exact ⟨taken, ht, (after, calls), hg, rfl⟩

theorem run_cons_iff {a : Act κ} {acts : List (Act κ)} {upshots : List (Upshot κ)} :
    site.run (a :: acts) = some upshots ↔ ∃ upshot rest, site.act a = some upshot ∧
      upshot.after.run acts = some rest ∧ upshots = upshot :: rest := by
  simp only [run, bind, Option.bind_eq_some_iff, pure, Option.some.injEq]
  constructor
  · intro hr
    obtain ⟨upshot, ha, rest, hrest, rfl⟩ := hr
    exact ⟨upshot, rest, ha, hrest, rfl⟩
  · intro hr
    obtain ⟨upshot, rest, ha, hrest, rfl⟩ := hr
    exact ⟨upshot, ha, rest, hrest, rfl⟩

/-- An act that is whole calls whom its input is to be told to. -/
theorem calls_of_whole {intake : Intake κ} {after : Site κ}
    {calls : List (κ × News)}
    (ht : site.Takes intake taken) (hg : taken.GoesOn calls after)
    (whole : (site.hub.delivery.isEmpty && after.hub.delivery.isEmpty) = true) :
    calls = intake.calls := by
  rw [Bool.and_eq_true, List.isEmpty_iff, List.isEmpty_iff] at whole
  rw [← ht.due whole.1, hg.due, due_of_quiet whole.2, List.append_nil]

/-! ## Every input can be taken -/

/-- No call waits, and the one that holds the lock, if any, can end. -/
structure Idle (site : Site κ) : Prop where
  queue : site.hub.queue = []
  holder : site.hub.holder = none ∨
    ∃ call attended result, site.hub.holder = some ⟨call, attended, .over result⟩

theorem idle_of_atRest {h : Hub κ} (alone : h.AtRest) (server : SimulatedServer) :
    Idle ⟨h, server⟩ :=
  ⟨alone.1, .inl alone.2⟩

theorem exists_take_call (alone : site.hub.AtRest) (quiet : site.hub.delivery = [])
    (call : Call) : ∃ taken, site.take (.call call) = some taken ∧ taken.Idle := by
  rw [take]
  cases hprepared : Hub.prepare site.hub.store call with
  | error result =>
    exact ⟨_, congrArg (Option.map _) (Hub.perform_call_of_early alone hprepared .broken),
      idle_of_atRest alone _⟩
  | ok s =>
    cases hfailing : site.server.failing with
    | true =>
      simp only [SimulatedServer.answer, hfailing]
      exact ⟨_, congrArg (Option.map _) (Hub.perform_call_of_failed alone quiet hprepared rfl),
        idle_of_atRest alone _⟩
    | false =>
      simp only [SimulatedServer.answer, hfailing]
      exact ⟨_, congrArg (Option.map _) (Hub.perform_call_of_granted alone quiet hprepared _),
        alone.1, .inr ⟨_, _, _, rfl⟩⟩

theorem exists_take_request (hi : site.Steady) (alone : site.hub.AtRest)
    (quiet : site.hub.delivery = []) (request : Request κ) :
    ∃ taken, site.take (.request request) = some taken ∧ taken.Idle := by
  have may : site.hub.mayAsk = true := by rw [Hub.mayAsk, quiet]
  cases hrefused : site.hub.refusal? request with
  | some failure =>
    exact ⟨_, congrArg (Option.map _) (Hub.perform_request_of_refusal hi.tidy may hrefused),
      idle_of_atRest alone _⟩
  | none =>
    have hperform : site.hub.perform (.request request) = some (site.hub.ask request, []) := by
      simp [Hub.perform, Hub.movesOf, hrefused, Hub.run, Hub.move, may]
    have hcalls := Hub.ask_calls site.hub request
    exact ⟨_, congrArg (Option.map _) hperform,
      idle_of_atRest ⟨hcalls.2.1.trans alone.1, hcalls.2.2.trans alone.2⟩ _⟩

/-- A site at which nothing is under way takes every input. -/
theorem exists_take (hi : site.Steady) (alone : site.hub.AtRest)
    (quiet : site.hub.delivery = []) (input : Input κ) :
    ∃ taken, site.take input = some taken ∧ taken.Idle := by
  cases input with
  | call call => exact exists_take_call alone quiet call
  | request request => exact exists_take_request hi alone quiet request
  | switch failing => exact ⟨_, rfl, idle_of_atRest alone _⟩

/-- The moves of a delivery are a routine. -/
theorem exists_routine_of_delivery {moves : List (Move κ)}
    (h : ∀ m ∈ moves, m.isDelivery = true) :
    ∃ routine : List Routine, routine.map Routine.move = moves := by
  induction moves with
  | nil => exact ⟨[], rfl⟩
  | cons m moves ih =>
    obtain ⟨hm, hmoves⟩ := List.forall_mem_cons.mp h
    obtain ⟨routine, rfl⟩ := ih hmoves
    cases m with
    | proceed => exact ⟨.proceed :: routine, rfl⟩
    | finish => exact ⟨.finish :: routine, rfl⟩
    | _ => cases hm

/-- A routine can deliver everything and end the call that is over. -/
theorem Idle.exists_goOn (hidle : site.Idle) :
    ∃ routine after calls, site.goOn routine = some (after, calls) ∧ after.hub.AtRest ∧
      after.hub.delivery = [] := by
  obtain ⟨moves, signs, hmoves, hrun⟩ := site.hub.exists_run_of_frames site.hub.delivery
  rw [Hub.delivering_self rfl] at hrun
  obtain ⟨routine, rfl⟩ := exists_routine_of_delivery hmoves
  rcases hidle.holder with hfree | ⟨call, attended, result, hover⟩
  · exact ⟨routine, _, _, congrArg (Option.map _) hrun, ⟨hidle.queue, hfree⟩, rfl⟩
  · have hrelease := Hub.move_of_step
      (Hub.Step.release (site.hub.delivering []) call attended result hover rfl)
    rw [← Hub.run_singleton] at hrelease
    have hall := Hub.run_append_iff.mpr ⟨_, _, _, hrun, hrelease, rfl⟩
    rw [show [Move.release] = [Routine.release].map Routine.move from rfl, ← List.map_append]
      at hall
    exact ⟨_, _, _, congrArg (Option.map _) hall, ⟨hidle.queue, rfl⟩, rfl⟩

/-- Whatever the inputs are, they can be taken one after the other, each when nothing
of the one before is left. -/
theorem exists_run (hi : site.Steady) (alone : site.hub.AtRest)
    (quiet : site.hub.delivery = []) (inputs : List (Input κ)) :
    ∃ acts upshots, acts.map Act.input = inputs ∧ site.run acts = some upshots ∧
      ∀ upshot ∈ upshots, upshot.whole = true := by
  induction inputs generalizing site with
  | nil => exact ⟨[], [], rfl, rfl, List.forall_mem_nil _⟩
  | cons input inputs ih =>
    obtain ⟨taken, ht, hidle⟩ := exists_take hi alone quiet input
    obtain ⟨routine, after, calls, hg, halone, hquiet⟩ := hidle.exists_goOn
    obtain ⟨acts, upshots, hinputs, hrun, hwhole⟩ :=
      ih ((hi.take ht).goOn (goesOn_of_goOn hg)) halone hquiet
    refine ⟨⟨input, routine⟩ :: acts, _, congrArg (input :: ·) hinputs,
      run_cons_iff.mpr ⟨_, upshots, act_iff.mpr ⟨taken, after, calls, ht, hg, rfl⟩, hrun, rfl⟩,
      List.forall_mem_cons.mpr ⟨?_, hwhole⟩⟩
    rw [Bool.and_eq_true, List.isEmpty_iff, List.isEmpty_iff]
    exact ⟨quiet, hquiet⟩

end Site

end

end PortletPage
