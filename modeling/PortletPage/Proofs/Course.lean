import PortletPage.Proofs.Agreement
import PortletPage.Proofs.Operations

/-!
# Exact delivery

A hub keeps what it is delivering on a stack, since callbacks may use the hub while
they run.  Here the same is told without the stack, as a story with stories in it.

* `Hub.Course` tells how one thing is done from beginning to end: state changes are
  told one after the other, an event is delivered to callbacks one after the other,
  a callback runs and puts requests, a request is put, announced and answered.
* `Hub.History` tells what happens to a hub on the whole: one update or request after
  the other, each with all that it gives rise to.

In both nobody is called but by `Course.call`, so that a history says exactly who is
called with what, and in what order.  `Hub.delivery_is_exact` is the result: the runs
that end with nothing left to deliver are the histories, and every run is the
beginning of one.
-/

namespace PortletPage

/-- Moves that are made beside every delivery. -/
def Move.isAside {κ : Type} : Move κ → Bool
  | .enter _ | .leave _ | .acquire | .send => true
  | _ => false

/-- Moves of calls. -/
def Move.isOfCall {κ : Type} : Move κ → Bool
  | .ask _ | .proceed | .finish => false
  | _ => true

/-- Moves by which a delivery goes on. -/
def Move.isDelivery {κ : Type} : Move κ → Bool
  | .proceed | .finish => true
  | _ => false

theorem Move.isOfCall_of_isAside {κ : Type} (m : Move κ) (h : m.isAside = true) :
    m.isOfCall = true := by
  cases m <;> first | rfl | cases h

namespace Hub

variable {κ : Type}

/-- The hub with these frames to deliver. -/
def delivering (h : Hub κ) (frames : List (Frame κ)) : Hub κ := { h with delivery := frames }

/-- The hub after a request, with nothing put up for delivery. -/
def heeding (h : Hub κ) (request : Request κ) : Hub κ :=
  { h with
    store := h.store.heed request
    registry := h.registry.heed request
    made := h.made + (h.announcement request).toList.length }

/-! ## Courses and histories -/

/-- What has a course: a frame that is on top, or a request that is put. -/
inductive Job (κ : Type) where
  | frame (f : Frame κ)
  | request (r : Request κ)

/-- How one thing is done from beginning to end, by which moves, and what is seen
of it.  The hubs are taken without what else they deliver. -/
inductive Course : Job κ → Hub κ → List (Move κ) → Hub κ → List (Sign κ) → Prop
  /-- Calls come, are taken back, take the lock and are sent at any time. -/
  | aside {f : Frame κ} {h h₁ h₂ : Hub κ} {m : Move κ} {moves : List (Move κ)}
      {signs more : List (Sign κ)} (beside : m.isAside = true) (step : Step h m h₁ signs)
      (later : Course (.frame f) h₁ moves h₂ more) :
      Course (.frame f) h (m :: moves) h₂ (signs ++ more)
  /-- When the turn of a change comes, those are called with it who are attached by
  then under the portlet's name, in the order in which they were added.  What they do
  meanwhile does not change who is called in this turn. -/
  | turn {h h₁ h₂ : Hub κ} (stamp : Nat) (change : StateChange)
      (changes : List (Nat × StateChange)) {moves moves' : List (Move κ)}
      {signs signs' : List (Sign κ)}
      (calls : Course (.frame (.calls ⟨stamp, .stateChange change⟩
        (h.registry.addedFor change.portlet))) h moves h₁ signs)
      (later : Course (.frame (.turns changes)) h₁ moves' h₂ signs') :
      Course (.frame (.turns ((stamp, change) :: changes))) h
        (.proceed :: (moves ++ moves')) h₂ (signs ++ signs')
  | told (h : Hub κ) : Course (.frame (.turns [])) h [.proceed] h []
  /-- One callback is called after the other, however the one before ends. -/
  | call {h h₁ h₂ : Hub κ} (event : Event Nat) (callback : κ) (callbacks : List κ)
      {moves moves' : List (Move κ)} {signs signs' : List (Sign κ)}
      (runs : Course (.frame (.running callback)) h moves h₁ signs)
      (later : Course (.frame (.calls event callbacks)) h₁ moves' h₂ signs') :
      Course (.frame (.calls event (callback :: callbacks))) h
        (.proceed :: (moves ++ moves')) h₂ (.called callback event :: (signs ++ signs'))
  | called (h : Hub κ) (event : Event Nat) : Course (.frame (.calls event [])) h [.proceed] h []
  /-- A callback that runs may put a request. -/
  | ask {h h₁ h₂ : Hub κ} (callback : κ) (request : Request κ) {moves moves' : List (Move κ)}
      {signs signs' : List (Sign κ)} (asked : Course (.request request) h moves h₁ signs)
      (later : Course (.frame (.running callback)) h₁ moves' h₂ signs') :
      Course (.frame (.running callback)) h (moves ++ moves') h₂ (signs ++ signs')
  | finish (h : Hub κ) (callback : κ) : Course (.frame (.running callback)) h [.finish] h []
  /-- A request without news is answered. -/
  | silent {h h₁ : Hub κ} (request : Request κ) {moves : List (Move κ)}
      {signs : List (Sign κ)} (nothing : h.announcement request = none)
      (answered : Course (.frame (.reply (h.replyTo request))) (h.heeding request) moves h₁ signs) :
      Course (.request request) h (.ask request :: moves) h₁ signs
  /-- A request with news is answered when they have been delivered. -/
  | announced {h h₁ h₂ : Hub κ} (request : Request κ) (news : News) (callbacks : List κ)
      {moves moves' : List (Move κ)} {signs signs' : List (Sign κ)}
      (something : h.announcement request = some (news, callbacks))
      (calls : Course (.frame (.calls ⟨h.made, news⟩ callbacks)) (h.heeding request) moves h₁ signs)
      (answered : Course (.frame (.reply (h.replyTo request))) h₁ moves' h₂ signs') :
      Course (.request request) h (.ask request :: (moves ++ moves')) h₂ (signs ++ signs')
  | reply (h : Hub κ) (r : Reply) : Course (.frame (.reply r)) h [.proceed] h [.replied r]

/-- What happens to a hub on the whole, from one moment when nothing is delivered to
another. -/
inductive History : Hub κ → List (Move κ) → Hub κ → List (Sign κ) → Prop
  | nil (h : Hub κ) : History h [] h []
  /-- A move of a call that puts nothing up for delivery. -/
  | call {h h₁ h₂ : Hub κ} {m : Move κ} {moves : List (Move κ)} {signs more : List (Sign κ)}
      (ofCall : m.isOfCall = true) (step : Step h m h₁ signs) (quiet : h₁.delivery = [])
      (later : History h₁ moves h₂ more) : History h (m :: moves) h₂ (signs ++ more)
  /-- An update is granted and committed, and its changes are told in order. -/
  | commit {h h₁ h₂ : Hub κ} (call : Call) (attended : Bool) (s : Submission)
      (update : Update) {moves moves' : List (Move κ)} {signs signs' : List (Sign κ)}
      (holds : h.holder = some ⟨call, attended, .sent s⟩)
      (turns : Course (.frame (.turns (stampFrom h.made
          (h.store.commit call.portlet update (reasonFor s)).1)))
        ((h.commit ⟨call, attended, .sent s⟩ s update).delivering []) moves h₁ signs)
      (later : History h₁ moves' h₂ signs') :
      History h (.receive (.granted update) :: (moves ++ moves')) h₂ (signs ++ signs')
  | request {h h₁ h₂ : Hub κ} (request : Request κ) {moves moves' : List (Move κ)}
      {signs signs' : List (Sign κ)} (asked : Course (.request request) h moves h₁ signs)
      (later : History h₁ moves' h₂ signs') :
      History h (moves ++ moves') h₂ (signs ++ signs')

/-! ## Hubs and their deliveries -/

section Delivering

variable (h : Hub κ) (frames : List (Frame κ))

theorem delivering_self {h : Hub κ} {frames : List (Frame κ)} (hd : h.delivery = frames) :
    h.delivering frames = h := by
  subst hd
  rfl

/-- A request does not look at what is delivered. -/
theorem ask_delivering (tidy : h.registry.Tidy) (request : Request κ) :
    (h.delivering frames).ask request =
      (h.heeding request).delivering (h.framesFor request ++ frames) := by
  rw [ask_eq (by exact tidy)]
  cases request <;> rfl

end Delivering

/-- A move beside the delivery does not look at it. -/
theorem Step.delivering {h h' : Hub κ} {m : Move κ} {signs : List (Sign κ)}
    (hs : Step h m h' signs) (beside : m.isAside = true) (frames : List (Frame κ)) :
    Step (h.delivering frames) m (h'.delivering frames) signs := by
  cases hs with
  | enter call => exact .enter _ call
  | takeBack number waits => exact .takeBack _ number waits
  | desert call attended stage holds waitsNot =>
    exact .desert _ call attended stage holds waitsNot
  | acquire call queue s free first prepared => exact .acquire _ call queue s free first prepared
  | endEarly call queue result free first prepared =>
    exact .endEarly _ call queue result free first prepared
  | send call attended s holds => exact .send _ call attended s holds
  | _ => cases beside

theorem Step.delivery_of_aside {h h' : Hub κ} {m : Move κ} {signs : List (Sign κ)}
    (hs : Step h m h' signs) (beside : m.isAside = true) : h'.delivery = h.delivery := by
  cases hs <;> first | rfl | cases beside

/-! ## Courses are runs -/

/-- A job is done by these moves, whatever else is to be delivered. -/
def Job.Done : Job κ → Hub κ → List (Move κ) → Hub κ → List (Sign κ) → Prop
  | .frame f, h, moves, h', signs =>
    ∀ rest, (h.delivering (f :: rest)).run moves = some (h'.delivering rest, signs)
  | .request _, h, moves, h', signs =>
    ∀ rest, (h.delivering rest).mayAsk = true →
      (h.delivering rest).run moves = some (h'.delivering rest, signs)

theorem Job.Done.tidy {job : Job κ} {h h' : Hub κ} {moves : List (Move κ)}
    {signs : List (Sign κ)} (done : job.Done h moves h' signs) (tidy : h.registry.Tidy) :
    h'.registry.Tidy := by
  have hrun : ∃ frames, (h.delivering frames).run moves = some (h'.delivering [], signs) := by
    cases job with
    | frame f => exact ⟨[f], done []⟩
    | request r => exact ⟨[], done [] rfl⟩
  obtain ⟨frames, hrun⟩ := hrun
  have tidy : (h.delivering frames).registry.Tidy := tidy
  have htidy := run_invariant (I := fun g => g.registry.Tidy) Step.tidy hrun tidy
  exact htidy

/-- Every course is a run. -/
theorem Course.done {job : Job κ} {h h' : Hub κ} {moves : List (Move κ)}
    {signs : List (Sign κ)} (hc : Course job h moves h' signs) (tidy : h.registry.Tidy) :
    job.Done h moves h' signs := by
  induction hc with
  | aside beside step later ih =>
    intro rest
    exact run_cons_iff.mpr ⟨_, _, _, move_of_step (step.delivering beside _),
      ih (step.tidy tidy) rest, rfl⟩
  | @turn h h₁ h₂ stamp change changes moves moves' signs signs' calls later ihcalls ihlater =>
    have hcalls := ihcalls tidy
    have hlater := ihlater (hcalls.tidy tidy)
    intro rest
    have hturn : (h.delivering (.turns ((stamp, change) :: changes) :: rest)).move .proceed =
        some (h.delivering (.calls ⟨stamp, .stateChange change⟩
          (h.registry.addedFor change.portlet) :: .turns changes :: rest), []) := by
      rw [← tidy.listenersFor_eq]
      rfl
    exact run_cons_iff.mpr ⟨_, _, _, hturn,
      run_append_iff.mpr ⟨_, _, _, hcalls _, hlater rest, rfl⟩, rfl⟩
  | told h => exact fun rest => rfl
  | call event callback callbacks runs later ihruns ihlater =>
    have hruns := ihruns tidy
    have hlater := ihlater (hruns.tidy tidy)
    intro rest
    exact run_cons_iff.mpr ⟨_, _, _, rfl,
      run_append_iff.mpr ⟨_, _, _, hruns _, hlater rest, rfl⟩, rfl⟩
  | called h event => exact fun rest => rfl
  | ask callback request asked later ihasked ihlater =>
    have hasked := ihasked tidy
    have hlater := ihlater (hasked.tidy tidy)
    intro rest
    exact run_append_iff.mpr ⟨_, _, _, hasked _ rfl, hlater rest, rfl⟩
  | finish h callback => exact fun rest => rfl
  | @silent h h₁ request moves signs nothing answered ih =>
    have hanswered := ih (tidy.heed request)
    intro rest may
    have hask : (h.delivering rest).move (.ask request) =
        some ((h.heeding request).delivering (.reply (h.replyTo request) :: rest), []) := by
      rw [move, if_pos may, ask_delivering h rest tidy, framesFor, nothing]
      rfl
    exact run_cons_iff.mpr ⟨_, _, _, hask, hanswered rest, rfl⟩
  | @announced h h₁ h₂ request news callbacks moves moves' signs signs' something calls answered
      ihcalls ihanswered =>
    have hcalls := ihcalls (tidy.heed request)
    have hanswered := ihanswered (hcalls.tidy (tidy.heed request))
    intro rest may
    have hask : (h.delivering rest).move (.ask request) =
        some ((h.heeding request).delivering
          (.calls ⟨h.made, news⟩ callbacks :: .reply (h.replyTo request) :: rest), []) := by
      rw [move, if_pos may, ask_delivering h rest tidy, framesFor, something]
      rfl
    exact run_cons_iff.mpr ⟨_, _, _, hask,
      run_append_iff.mpr ⟨_, _, _, hcalls _, hanswered rest, rfl⟩, rfl⟩
  | reply h r => exact fun rest => rfl

/-- Courses leave the rest of the delivery to others. -/
theorem Course.delivery_eq {job : Job κ} {h h' : Hub κ} {moves : List (Move κ)}
    {signs : List (Sign κ)} (hc : Course job h moves h' signs) : h'.delivery = h.delivery := by
  induction hc with
  | aside beside step later ih => exact ih.trans (step.delivery_of_aside beside)
  | turn stamp change changes calls later ihcalls ihlater => exact ihlater.trans ihcalls
  | call event callback callbacks runs later ihruns ihlater => exact ihlater.trans ihruns
  | ask callback request asked later ihasked ihlater => exact ihlater.trans ihasked
  | silent request nothing answered ih => exact ih
  | announced request news callbacks something calls answered ihcalls ihanswered =>
    exact ihanswered.trans ihcalls
  | _ => rfl

/-- Every history that begins with nothing to deliver is a run, and nothing is left
to deliver in the end. -/
theorem History.run {h h' : Hub κ} {moves : List (Move κ)} {signs : List (Sign κ)}
    (hh : History h moves h' signs) (tidy : h.registry.Tidy) (quiet : h.delivery = []) :
    h.run moves = some (h', signs) ∧ h'.delivery = [] := by
  induction hh with
  | nil h => exact ⟨rfl, quiet⟩
  | call ofCall step quiet' later ih =>
    obtain ⟨hrest, hquiet⟩ := ih (step.tidy tidy) quiet'
    exact ⟨run_cons_iff.mpr ⟨_, _, _, move_of_step step, hrest, rfl⟩, hquiet⟩
  | @commit h h₁ h₂ call attended s update moves moves' signs signs' holds turns later ih =>
    have hturns := turns.done tidy
    have hquiet : h₁.delivery = [] := turns.delivery_eq
    obtain ⟨hrest, hquiet'⟩ := ih (hturns.tidy tidy) hquiet
    have hgrant : h.move (.receive (.granted update)) =
        some (h.commit ⟨call, attended, .sent s⟩ s update, []) :=
      move_of_step (.grant h call attended s update holds quiet)
    have htold := hturns []
    rw [delivering_self hquiet] at htold
    exact ⟨run_cons_iff.mpr ⟨_, _, _, hgrant,
      run_append_iff.mpr ⟨_, _, _, htold, hrest, rfl⟩, rfl⟩, hquiet'⟩
  | request request asked later ih =>
    have hasked := asked.done tidy
    have hquiet := asked.delivery_eq.trans quiet
    obtain ⟨hrest, hquiet'⟩ := ih (hasked.tidy tidy) hquiet
    have hput := hasked [] rfl
    rw [delivering_self quiet, delivering_self hquiet] at hput
    exact ⟨run_append_iff.mpr ⟨_, _, _, hput, hrest, rfl⟩, hquiet'⟩

/-! ## Runs are histories -/

/-- How a hub goes on that has these frames to deliver. -/
inductive Resumes : List (Frame κ) → Hub κ → List (Move κ) → Hub κ → List (Sign κ) → Prop
  | idle {h h' : Hub κ} {moves : List (Move κ)} {signs : List (Sign κ)}
      (history : History h moves h' signs) : Resumes [] h moves h' signs
  | frame {f : Frame κ} {frames : List (Frame κ)} {h h₁ h' : Hub κ}
      {moves moves' : List (Move κ)} {signs signs' : List (Sign κ)}
      (course : Course (.frame f) h moves h₁ signs)
      (later : Resumes frames h₁ moves' h' signs') :
      Resumes (f :: frames) h (moves ++ moves') h' (signs ++ signs')

namespace Resumes

variable {h h₁ h' : Hub κ} {frames : List (Frame κ)} {moves : List (Move κ)}
  {signs more : List (Sign κ)}

/-- A move beside the delivery belongs to what is under way. -/
theorem aside {m : Move κ} (beside : m.isAside = true) (hs : Step h m h₁ signs)
    (quiet : h₁.delivery = []) (later : Resumes frames h₁ moves h' more) :
    Resumes frames h (m :: moves) h' (signs ++ more) := by
  cases later with
  | idle history => exact .idle (.call (m.isOfCall_of_isAside beside) hs quiet history)
  | frame course later =>
    rw [← List.append_assoc]
    exact .frame (.aside beside hs course) later

/-- The frames of a request are done by the course of the request. -/
theorem request {request : Request κ}
    (later : Resumes (h.framesFor request ++ frames) (h.heeding request) moves h' more) :
    ∃ h₁ first rest signs signs', Course (.request request) h (.ask request :: first) h₁ signs ∧
      Resumes frames h₁ rest h' signs' ∧ moves = first ++ rest ∧ more = signs ++ signs' := by
  cases hnews : h.announcement request with
  | none =>
    rw [framesFor, hnews] at later
    cases later with
    | frame answered later =>
      exact ⟨_, _, _, _, _, .silent request hnews answered, later, rfl, rfl⟩
  | some news =>
    obtain ⟨news, callbacks⟩ := news
    rw [framesFor, hnews] at later
    cases later with
    | frame calls later =>
      cases later with
      | frame answered later =>
        exact ⟨_, _, _, _, _, .announced request news callbacks hnews calls answered, later,
          (List.append_assoc _ _ _).symm, (List.append_assoc _ _ _).symm⟩

end Resumes

/-- A request that is put belongs to the callback that runs or, when none does, to
the history. -/
theorem resumes_of_ask {w h' : Hub κ} {request : Request κ} {moves : List (Move κ)}
    {more : List (Sign κ)} (tidy : w.registry.Tidy) (may : w.mayAsk = true)
    (later : Resumes (w.ask request).delivery ((w.ask request).delivering []) moves h' more) :
    Resumes w.delivery (w.delivering []) (.ask request :: moves) h' more := by
  have hask := ask_delivering w w.delivery tidy request
  rw [delivering_self rfl] at hask
  rw [hask] at later
  obtain ⟨h₁, first, rest, signs, signs', course, below, rfl, rfl⟩ :=
    Resumes.request (h := w.delivering []) later
  cases hdelivery : w.delivery with
  | nil =>
    rw [hdelivery] at below
    cases below with
    | idle history => exact .idle (.request request course history)
  | cons f frames =>
    rw [hdelivery] at below
    cases f with
    | running callback =>
      cases below with
      | frame runs after =>
        have hcourse := Resumes.frame (.ask callback request course runs) after
        simpa [List.append_assoc] using hcourse
    | _ =>
      rw [mayAsk, hdelivery] at may
      cases may

/-- A delivery that goes on belongs to the frame on top. -/
theorem resumes_of_proceeds {w w₁ h' : Hub κ} {moves : List (Move κ)}
    {signs more : List (Sign κ)} (tidy : w.registry.Tidy) (hp : Proceeds w w₁ signs)
    (later : Resumes w₁.delivery (w₁.delivering []) moves h' more) :
    Resumes w.delivery (w.delivering []) (.proceed :: moves) h' (signs ++ more) := by
  cases hp with
  | told rest top =>
    rw [top]
    exact .frame (.told _) later
  | turn stamp change changes rest top =>
    rw [top]
    rw [tidy.listenersFor_eq] at later
    cases later with
    | frame calls later =>
      cases later with
      | frame turns later =>
        have hcourse := Resumes.frame
          (.turn (h := w.delivering []) stamp change changes calls turns) later
        simpa [List.append_assoc] using hcourse
  | called event rest top =>
    rw [top]
    exact .frame (.called _ event) later
  | call event callback callbacks rest top =>
    rw [top]
    cases later with
    | frame runs later =>
      cases later with
      | frame calls later =>
        have hcourse := Resumes.frame
          (.call (h := w.delivering []) event callback callbacks runs calls) later
        simpa [List.append_assoc] using hcourse
  | reply r rest top =>
    rw [top]
    exact .frame (.reply _ r) later

/-- One more step at the beginning. -/
theorem Step.resumes {w w₁ h' : Hub κ} {m : Move κ} {moves : List (Move κ)}
    {signs more : List (Sign κ)} (tidy : w.registry.Tidy) (hs : Step w m w₁ signs)
    (later : Resumes w₁.delivery (w₁.delivering []) moves h' more) :
    Resumes w.delivery (w.delivering []) (m :: moves) h' (signs ++ more) := by
  -- a move of a call from one quiet moment to the next
  have hquiet : m.isOfCall = true → w.delivery = [] → w₁.delivery = [] →
      Resumes w.delivery (w.delivering []) (m :: moves) h' (signs ++ more) := by
    intro ofCall quiet quiet₁
    rw [quiet₁, delivering_self quiet₁] at later
    rw [quiet, delivering_self quiet]
    cases later with
    | idle history => exact .idle (.call ofCall hs quiet₁ history)
  by_cases beside : m.isAside = true
  · rw [hs.delivery_of_aside beside] at later
    exact later.aside beside (hs.delivering beside []) rfl
  · cases hs with
    | grant call attended s update holds quiet =>
      rw [quiet, delivering_self quiet, List.nil_append]
      cases later with
      | frame turns later =>
        cases later with
        | idle history => exact .idle (.commit call attended s update holds turns history)
    | fail call attended s error holds quiet => exact hquiet rfl quiet quiet
    | breakOff call attended s holds quiet => exact hquiet rfl quiet quiet
    | release call attended result holds quiet => exact hquiet rfl quiet quiet
    | ask request may => exact resumes_of_ask tidy may later
    | proceed w₁ signs proceeds =>
      exact resumes_of_proceeds tidy (proceeds_of_proceed proceeds) later
    | finish callback rest runs =>
      rw [runs]
      exact .frame (.finish _ callback) later
    | _ => exact absurd rfl beside

/-- A run to a moment when nothing is delivered does what was to be done first and
goes on with a history. -/
theorem resumes_of_run {w h' : Hub κ} {moves : List (Move κ)} {signs : List (Sign κ)}
    (tidy : w.registry.Tidy) (hr : w.run moves = some (h', signs)) (quiet : h'.delivery = []) :
    Resumes w.delivery (w.delivering []) moves h' signs := by
  induction moves generalizing w signs with
  | nil =>
    cases hr
    rw [quiet, delivering_self quiet]
    exact .idle (.nil h')
  | cons m moves ih =>
    obtain ⟨w₁, first, more, hm, hrest, rfl⟩ := run_cons_iff.mp hr
    have hs := step_of_move hm
    exact hs.resumes tidy (ih (hs.tidy tidy) hrest)

theorem history_of_run {h h' : Hub κ} {moves : List (Move κ)} {signs : List (Sign κ)}
    (tidy : h.registry.Tidy) (quiet : h.delivery = []) (hr : h.run moves = some (h', signs))
    (quiet' : h'.delivery = []) : History h moves h' signs := by
  have hresumes := resumes_of_run tidy hr quiet'
  rw [quiet, delivering_self quiet] at hresumes
  cases hresumes with
  | idle history => exact history

/-! ## Every delivery can be finished -/

section Finish

variable (h : Hub κ) (rest : List (Frame κ))

/-- The callbacks can be called one after the other and do nothing. -/
theorem exists_run_of_calls (event : Event Nat) (callbacks : List κ) :
    ∃ moves signs, (∀ m ∈ moves, m.isDelivery = true) ∧
      (h.delivering (.calls event callbacks :: rest)).run moves =
        some (h.delivering rest, signs) := by
  induction callbacks with
  | nil => exact ⟨[.proceed], [], by simp [Move.isDelivery], rfl⟩
  | cons callback callbacks ih =>
    obtain ⟨moves, signs, hmoves, hrun⟩ := ih
    refine ⟨.proceed :: .finish :: moves, _, ?_,
      run_cons_iff.mpr ⟨_, _, _, rfl, run_cons_iff.mpr ⟨_, _, _, rfl, hrun, rfl⟩, rfl⟩⟩
    simpa [Move.isDelivery] using hmoves

theorem exists_run_of_turns (changes : List (Nat × StateChange)) :
    ∃ moves signs, (∀ m ∈ moves, m.isDelivery = true) ∧
      (h.delivering (.turns changes :: rest)).run moves = some (h.delivering rest, signs) := by
  induction changes with
  | nil => exact ⟨[.proceed], [], by simp [Move.isDelivery], rfl⟩
  | cons change changes ih =>
    obtain ⟨moves, signs, hmoves, hrun⟩ := ih
    obtain ⟨first, seen, hfirst, hcalls⟩ := h.exists_run_of_calls (.turns changes :: rest)
      ⟨change.1, .stateChange change.2⟩ (h.registry.listenersFor change.2.portlet .stateChange)
    refine ⟨.proceed :: (first ++ moves), _, ?_, run_cons_iff.mpr ⟨_, _, _, rfl,
      run_append_iff.mpr ⟨_, _, _, hcalls, hrun, rfl⟩, rfl⟩⟩
    intro m hm
    rcases List.mem_cons.mp hm with rfl | hm
    · rfl
    · exact (List.mem_append.mp hm).elim (hfirst m) (hmoves m)

theorem exists_run_of_frames (frames : List (Frame κ)) :
    ∃ moves signs, (∀ m ∈ moves, m.isDelivery = true) ∧
      (h.delivering frames).run moves = some (h.delivering [], signs) := by
  induction frames with
  | nil => exact ⟨[], [], by simp, rfl⟩
  | cons f frames ih =>
    obtain ⟨moves, signs, hmoves, hrun⟩ := ih
    have htop : ∃ first seen, (∀ m ∈ first, m.isDelivery = true) ∧
        (h.delivering (f :: frames)).run first = some (h.delivering frames, seen) := by
      cases f with
      | turns changes => exact h.exists_run_of_turns frames changes
      | calls event callbacks => exact h.exists_run_of_calls frames event callbacks
      | running callback => exact ⟨[.finish], [], by simp [Move.isDelivery], rfl⟩
      | reply r => exact ⟨[.proceed], [.replied r], by simp [Move.isDelivery], rfl⟩
    obtain ⟨first, seen, hfirst, htop⟩ := htop
    refine ⟨first ++ moves, _, ?_, run_append_iff.mpr ⟨_, _, _, htop, hrun, rfl⟩⟩
    intro m hm
    exact (List.mem_append.mp hm).elim (hfirst m) (hmoves m)

end Finish

/-- On a valid page,

* the runs from the start to a moment when nothing is being delivered are exactly
  the histories, and
* every other run is the beginning of one: what is being delivered can be finished
  by moves of the delivery alone. -/
theorem delivery_is_exact {page : Page} {config : Config} {start : Hub κ}
    (valid : ofPage page config = .ok start) :
    (∀ moves h signs,
        (start.run moves = some (h, signs) ∧ h.delivery = []) ↔ History start moves h signs) ∧
      ∀ moves h signs, start.run moves = some (h, signs) →
        ∃ more h' signs', (∀ m ∈ more, m.isDelivery = true) ∧
          History start (moves ++ more) h' (signs ++ signs') := by
  have tidy := tidy_of_ofPage valid
  have quiet : start.delivery = [] := by
    obtain ⟨_, rfl⟩ := start_of_ofPage valid
    rfl
  refine ⟨?_, ?_⟩
  · intro moves h signs
    constructor
    · intro hrun
      exact history_of_run tidy quiet hrun.1 hrun.2
    · intro history
      exact history.run tidy quiet
  · intro moves h signs hrun
    obtain ⟨more, signs', hmore, hrest⟩ := h.exists_run_of_frames h.delivery
    rw [delivering_self rfl] at hrest
    have hall := run_append_iff.mpr ⟨_, _, _, hrun, hrest, rfl⟩
    exact ⟨more, h.delivering [], signs', hmore, history_of_run tidy quiet hall rfl⟩

/-- Two listeners hear of the map.  The first, when it is called, detaches itself and
adds a third one. -/
def listenersOfMap : List (Move Nat) :=
  [.ask (.listen "map" onStateChange 1), .proceed, .finish, .proceed, .proceed,
    .ask (.listen "map" onStateChange 2), .proceed, .finish, .proceed, .proceed,
    .enter weatherCall, .acquire, .send,
    .receive (.granted (SimulatedServer.grant weatherSubmission)),
    .proceed, .proceed, .proceed, .proceed,
    .ask (.unlisten "map" (some ⟨1, "map", onStateChange⟩)), .proceed,
    .ask (.listen "map" onStateChange 3), .proceed, .finish, .proceed, .proceed, .finish,
    .proceed, .finish, .proceed, .proceed, .release]

/-- The first and the second listener are called in the turn of the map.  The third
is told the state when it is added, and waits for the next turn. -/
theorem third_listener_waits :
    ∃ h signs, History (Hub.start Sample.page {}) listenersOfMap h signs ∧
      (Sign.calls signs).map (fun call => (call.1, call.2.news.change?.map (·.reason))) =
        [(1, some .initial), (2, some .initial), (1, some .publicParameter),
          (3, some .initial), (2, some .publicParameter)] := by
  have valid : ofPage Sample.page {} = .ok (Hub.start Sample.page {} : Hub Nat) := rfl
  obtain ⟨h, signs, hrun, hquiet, hcalls⟩ : ∃ h signs,
      (Hub.start Sample.page {}).run listenersOfMap = some (h, signs) ∧ h.delivery = [] ∧
        (Sign.calls signs).map (fun call => (call.1, call.2.news.change?.map (·.reason))) =
          [(1, some .initial), (2, some .initial), (1, some .publicParameter),
            (3, some .initial), (2, some .publicParameter)] := ⟨_, _, rfl, rfl, rfl⟩
  exact ⟨h, signs, ((delivery_is_exact valid).1 _ _ _).mp ⟨hrun, hquiet⟩, hcalls⟩

end Hub

end PortletPage
