import PortletPage.Proofs.Decisions
import PortletPage.Proofs.Operations

/-!
# Failed operations leave no trace

An operation that fails leaves the hub exactly as it was and calls nobody.  So a
run of operations can do without those of its operations that fail.

* `Hub.perform_of_failure`: what a failed operation comes to.
* `Hub.Unfailing`: no failure waits to be learned.  As long as this holds an
  operation reports a failure exactly when it fails (`Unfailing.perform`).
* `Hub.performAll_succeeded`: the run without the failed operations.
* `Hub.failed_operations_leave_no_trace`: all of this for the hubs that runs on
  valid pages lead to.
-/

namespace PortletPage

section Reports

variable {κ : Type}

/-- The sign by which the failure of an operation is learned. -/
def Operation.report : Operation κ → Failure → Sign κ
  | .call c _, failure => .ended c.number (.error failure)
  | _, failure => .replied (.refused failure)

/-- Whether a sign is news of a failure. -/
def Sign.isFailure : Sign κ → Bool
  | .replied (.refused _) => true
  | .ended _ (.error _) => true
  | _ => false

/-- Whether the operation did not fail. -/
def Performed.succeeded (p : Performed κ) : Bool := p.failure.isNone

end Reports

namespace Hub

variable {κ : Type}

/-! ## One operation -/

/-- A failed operation leaves the hub as it was.  The failure is reported, after
the submission if one was sent. -/
theorem Performs.of_failure {h h' : Hub κ} {operation : Operation κ} {signs : List (Sign κ)}
    (hp : Performs h operation h' signs) {failure : Failure}
    (failed : h.failure? operation = some failure) :
    h' = h ∧ ∃ sent : List Submission,
      signs = sent.map Sign.sent ++ [operation.report failure] := by
  cases hp with
  | early call answer result alone prepared =>
    cases result with
    | ok outcome => simp [failure?, prepared] at failed
    | error other =>
      simp only [failure?, prepared, Option.some.injEq] at failed
      subst failed
      exact ⟨rfl, [], rfl⟩
  | granted call update s alone quiet prepared =>
    simp [failure?, prepared, Answer.failure?] at failed
  | failed call answer s other alone quiet prepared hanswer =>
    simp only [failure?, prepared, hanswer, Option.some.injEq] at failed
    subst failed
    exact ⟨rfl, [s], rfl⟩
  | refused request other may refused =>
    have heq : some other = some failure := refused.symm.trans failed
    cases heq
    exact ⟨rfl, [], rfl⟩
  | accepted request may accepted =>
    have heq : none = some failure := accepted.symm.trans failed
    cases heq
  | _ => cases failed

/-- A failed operation calls nobody. -/
theorem calls_of_report (operation : Operation κ) (failure : Failure)
    (sent : List Submission) :
    Sign.calls (sent.map Sign.sent ++ [operation.report failure]) = [] := by
  have hsent : Sign.calls (sent.map (Sign.sent : Submission → Sign κ)) = [] := by
    simp [Sign.calls, List.filterMap_map, Sign.called?, Function.comp_def]
  rw [Sign.calls_append, hsent]
  cases operation <;> rfl

/-! ## Reports of failures -/

/-- No failure waits to be learned. -/
structure Unfailing (h : Hub κ) : Prop where
  replies : ∀ failure, .reply (.refused failure) ∉ h.delivery
  results : ∀ call attended failure, h.holder ≠ some ⟨call, attended, .over (.error failure)⟩

/-- What a delivery goes on to say is no failure. -/
theorem Unfailing.proceed {h h' : Hub κ} {signs : List (Sign κ)} (hu : h.Unfailing)
    (hp : h.proceed = some (h', signs)) :
    h'.Unfailing ∧ ∀ sign ∈ signs, sign.isFailure = false := by
  have hresults : ∀ call attended failure,
      h'.holder ≠ some ⟨call, attended, .over (.error failure)⟩ := by
    rw [(proceed_calls hp).2.2]
    exact hu.results
  have hreplies := hu.replies
  cases proceeds_of_proceed hp with
  | told rest top =>
    rw [top] at hreplies
    exact ⟨⟨fun failure hmem => hreplies failure (List.mem_cons_of_mem _ hmem), hresults⟩,
      fun _ hsign => nomatch hsign⟩
  | turn stamp change changes rest top =>
    rw [top] at hreplies
    refine ⟨⟨?_, hresults⟩, fun _ hsign => nomatch hsign⟩
    intro failure hmem
    simp only [List.mem_cons, reduceCtorEq, false_or] at hmem
    exact hreplies failure (List.mem_cons_of_mem _ hmem)
  | called event rest top =>
    rw [top] at hreplies
    exact ⟨⟨fun failure hmem => hreplies failure (List.mem_cons_of_mem _ hmem), hresults⟩,
      fun _ hsign => nomatch hsign⟩
  | call event callback callbacks rest top =>
    rw [top] at hreplies
    refine ⟨⟨?_, hresults⟩, ?_⟩
    · intro failure hmem
      simp only [List.mem_cons, reduceCtorEq, false_or] at hmem
      exact hreplies failure (List.mem_cons_of_mem _ hmem)
    · intro sign hsign
      rw [List.mem_singleton.mp hsign]
      rfl
  | reply r rest top =>
    rw [top] at hreplies
    refine ⟨⟨fun failure hmem => hreplies failure (List.mem_cons_of_mem _ hmem), hresults⟩, ?_⟩
    intro sign hsign
    rw [List.mem_singleton.mp hsign]
    cases r with
    | refused failure => exact absurd List.mem_cons_self (hreplies failure)
    | _ => rfl

/-- A request that is not refused is not answered by a refusal. -/
theorem Unfailing.ask {h : Hub κ} (hu : h.Unfailing) (tidy : h.registry.Tidy)
    {request : Request κ} (accepted : h.refusal? request = none) :
    (h.ask request).Unfailing where
  replies := by
    intro failure hmem
    rw [ask_eq tidy] at hmem
    rcases List.mem_append.mp hmem with hframe | hrest
    · rw [framesFor, List.mem_append, Option.mem_toList, List.mem_singleton] at hframe
      rcases hframe with hnews | hreply
      · obtain ⟨news, _, heq⟩ := Option.map_eq_some_iff.mp hnews
        cases heq
      · have hrefused : h.replyTo request = .refused failure :=
          (Frame.reply.inj hreply).symm
        rw [replyTo_eq_refused_iff, accepted] at hrefused
        cases hrefused
    · exact hu.replies failure hrest
  results := by
    rw [(ask_calls h request).2.2]
    exact hu.results

/-- An operation that does not fail reports no failure. -/
theorem Unfailing.perform {h h' : Hub κ} {operation : Operation κ} {signs : List (Sign κ)}
    (hu : h.Unfailing) (tidy : h.registry.Tidy) (hp : Performs h operation h' signs)
    (succeeds : h.failure? operation = none) :
    h'.Unfailing ∧ ∀ sign ∈ signs, sign.isFailure = false := by
  cases hp with
  | early call answer result alone prepared =>
    refine ⟨hu, ?_⟩
    intro sign hsign
    rw [List.mem_singleton.mp hsign]
    cases result with
    | ok outcome => rfl
    | error failure => simp [failure?, prepared] at succeeds
  | granted call update s alone quiet prepared =>
    refine ⟨⟨?_, ?_⟩, ?_⟩
    · intro failure hmem
      cases List.mem_singleton.mp hmem
    · intro call' attended failure holds
      cases holds
    · intro sign hsign
      rw [List.mem_singleton.mp hsign]
      rfl
  | failed call answer s failure alone quiet prepared failed =>
    simp [failure?, prepared, failed] at succeeds
  | refused request failure may refused =>
    have heq : some failure = none := refused.symm.trans succeeds
    cases heq
  | accepted request may accepted => exact ⟨hu.ask tidy accepted, fun _ hsign => nomatch hsign⟩
  | proceed h' signs proceeds => exact hu.proceed proceeds
  | finish callback rest runs =>
    refine ⟨⟨?_, hu.results⟩, fun _ hsign => nomatch hsign⟩
    intro failure hmem
    have hreplies := hu.replies failure
    rw [runs] at hreplies
    exact hreplies (List.mem_cons_of_mem _ hmem)
  | release call attended result holds quiet =>
    refine ⟨⟨hu.replies, fun _ _ _ hnone => nomatch hnone⟩, ?_⟩
    intro sign hsign
    cases result with
    | error failure => exact absurd holds (hu.results call attended failure)
    | ok outcome =>
      split at hsign
      · rw [List.mem_singleton.mp hsign]
        rfl
      · cases hsign

/-! ## Runs of operations -/

/-- Whatever is performed, the failed operations can be left out: the hub in the
end and the account of all others are the same. -/
theorem performAll_succeeded {h last : Hub κ} (tidy : h.registry.Tidy) (hqueue : h.queue = [])
    {operations : List (Operation κ)} {performed : List (Performed κ)}
    (hp : h.performAll operations = some (last, performed)) :
    h.performAll ((performed.filter Performed.succeeded).map Performed.operation) =
        some (last, performed.filter Performed.succeeded) ∧
      Sign.calls (performed.flatMap Performed.signs) =
        Sign.calls ((performed.filter Performed.succeeded).flatMap Performed.signs) := by
  induction operations generalizing h performed with
  | nil =>
    cases hp
    exact ⟨rfl, rfl⟩
  | cons operation operations ih =>
    obtain ⟨h', signs, rest, hfirst, hrest, rfl⟩ := performAll_cons_iff.mp hp
    have hperforms := performs_of_perform tidy hqueue hfirst
    obtain ⟨hleft, hcalls⟩ := ih (hperforms.tidy tidy) (hperforms.queue hqueue) hrest
    rw [List.flatMap_cons, Sign.calls_append, hcalls]
    cases hfailure : h.failure? operation with
    | some failure =>
      -- the operation has changed nothing, so that the rest goes on from here
      obtain ⟨rfl, sent, rfl⟩ := hperforms.of_failure hfailure
      rw [calls_of_report]
      exact ⟨hleft, rfl⟩
    | none =>
      refine ⟨?_, ?_⟩
      · refine performAll_cons_iff.mpr ⟨h', signs, _, hfirst, hleft, ?_⟩
        rw [hfailure]
        rfl
      · rw [List.filter_cons_of_pos rfl, List.flatMap_cons, Sign.calls_append]

/-- The operations that fail are those that report a failure. -/
theorem performAll_reports {h last : Hub κ} (hu : h.Unfailing) (tidy : h.registry.Tidy)
    (hqueue : h.queue = []) {operations : List (Operation κ)} {performed : List (Performed κ)}
    (hp : h.performAll operations = some (last, performed)) :
    ∀ p ∈ performed, p.succeeded = false ↔ ∃ sign ∈ p.signs, sign.isFailure = true := by
  induction operations generalizing h performed with
  | nil =>
    cases hp
    intro p hmem
    cases hmem
  | cons operation operations ih =>
    obtain ⟨h', signs, rest, hfirst, hrest, rfl⟩ := performAll_cons_iff.mp hp
    have hperforms := performs_of_perform tidy hqueue hfirst
    cases hfailure : h.failure? operation with
    | some failure =>
      obtain ⟨rfl, sent, rfl⟩ := hperforms.of_failure hfailure
      intro p hmem
      rcases List.mem_cons.mp hmem with rfl | hmem
      · have hreport : (operation.report failure).isFailure = true := by
          cases operation <;> rfl
        exact iff_of_true rfl ⟨_, List.mem_append_right _ (List.mem_singleton.mpr rfl), hreport⟩
      · exact ih hu tidy hqueue hrest p hmem
    | none =>
      obtain ⟨hu', hsigns⟩ := hu.perform tidy hperforms hfailure
      intro p hmem
      rcases List.mem_cons.mp hmem with rfl | hmem
      · refine iff_of_false Bool.noConfusion ?_
        intro hreports
        obtain ⟨sign, hsign, hfails⟩ := hreports
        rw [hsigns sign hsign] at hfails
        cases hfails
      · exact ih hu' (hperforms.tidy tidy) (hperforms.queue hqueue) hrest p hmem

/-! ## Calls that fail among others -/

/-- When it is decided that a call fails, whatever else waits, nothing changes
but that this call is over. -/
theorem Step.of_failed_decision {h h' : Hub κ} {m : Move κ} {signs : List (Sign κ)}
    (hs : Step h m h' signs) {call : Call} {failure : Failure}
    (hfailed : (call, .error failure) ∈ h.decides h' m) :
    (h'.store = h.store ∧ h'.registry = h.registry ∧ h'.delivery = h.delivery ∧
        h'.made = h.made ∧ Sign.calls signs = []) ∧
      ∀ answer, m = .receive answer → answer.failure? call.portlet = some failure := by
  cases hs with
  | acquire call' queue s free first prepared => simp [decides, first, prepared] at hfailed
  | endEarly call' queue result free first prepared =>
    refine ⟨⟨rfl, rfl, rfl, rfl, rfl⟩, ?_⟩
    intro answer heq
    cases heq
  | grant call' attended s update holds quiet =>
    simp [decides, concluded, Hub.commit] at hfailed
  | fail call' attended s error holds quiet =>
    simp only [decides, concluded, Hub.fail, List.mem_singleton, Prod.mk.injEq,
      Except.error.injEq] at hfailed
    obtain ⟨rfl, rfl⟩ := hfailed
    refine ⟨⟨rfl, rfl, rfl, rfl, rfl⟩, ?_⟩
    intro answer heq
    cases heq
    rfl
  | breakOff call' attended s holds quiet =>
    simp only [decides, concluded, Hub.fail, List.mem_singleton, Prod.mk.injEq,
      Except.error.injEq] at hfailed
    obtain ⟨rfl, rfl⟩ := hfailed
    refine ⟨⟨rfl, rfl, rfl, rfl, rfl⟩, ?_⟩
    intro answer heq
    cases heq
    rfl
  | _ => cases hfailed

/-- While nothing else is under way, a call that fails can be made, and it leaves
the hub as it was. -/
theorem perform_call_of_failure {h : Hub κ} (alone : h.AtRest) (quiet : h.delivery = [])
    {call : Call} {answer : Answer} {failure : Failure}
    (failed : h.failure? (.call call answer) = some failure) :
    ∃ sent : List Submission, h.perform (.call call answer) =
      some (h, sent.map Sign.sent ++ [.ended call.number (.error failure)]) := by
  cases hprepared : prepare h.store call with
  | error result =>
    cases result with
    | ok outcome => simp [failure?, hprepared] at failed
    | error other =>
      simp only [failure?, hprepared, Option.some.injEq] at failed
      subst failed
      exact ⟨[], perform_call_of_early alone hprepared answer⟩
  | ok s =>
    have hanswer : answer.failure? call.portlet = some failure := by
      simpa [failure?, hprepared] using failed
    exact ⟨[s], perform_call_of_failed alone quiet hprepared hanswer⟩

/-- In every hub that a run on a valid page leads to:

* a request that is refused gets the refusal for an answer, and the hub is as it
  was before;
* a call that fails sends at most its submission, its caller learns the failure,
  and the hub is as it was before;
* the same goes for a call among others: when it is decided that it fails,
  records, listeners and deliveries stay as they are and nobody is called.  A
  failed round trip is reported with the portlet that submitted and the error of
  the server.

If moreover nothing is under way, then of the operations of every run those that
fail are those that report a failure, and they can all be left out: the hub in
the end is the same, what is seen of the other operations is the same, and the
same callbacks are called with the same events. -/
theorem failed_operations_leave_no_trace {h : Hub κ} (reach : h.Reachable) :
    (∀ request failure, h.mayAsk = true → h.refusal? request = some failure →
        h.perform (.request request) = some (h, [.replied (.refused failure)])) ∧
      (∀ call answer failure, h.AtRest → h.delivery = [] →
        h.failure? (.call call answer) = some failure →
        ∃ sent : List Submission, h.perform (.call call answer) =
          some (h, sent.map Sign.sent ++ [.ended call.number (.error failure)])) ∧
      (∀ m h' signs call failure, h.move m = some (h', signs) →
        (call, .error failure) ∈ h.decides h' m →
        (h'.store = h.store ∧ h'.registry = h.registry ∧ h'.delivery = h.delivery ∧
            h'.made = h.made ∧ Sign.calls signs = []) ∧
          ∀ error, m = .receive (.failed error) →
            failure = .communication call.portlet error) ∧
      (h.AtRest → h.delivery = [] → ∀ operations last performed,
        h.performAll operations = some (last, performed) →
        (∀ p ∈ performed, p.succeeded = false ↔ ∃ sign ∈ p.signs, sign.isFailure = true) ∧
          h.performAll ((performed.filter Performed.succeeded).map Performed.operation) =
            some (last, performed.filter Performed.succeeded) ∧
          Sign.calls (performed.flatMap Performed.signs) =
            Sign.calls ((performed.filter Performed.succeeded).flatMap Performed.signs)) := by
  have tidy := reach.tidy
  refine ⟨?_, ?_, ?_, ?_⟩
  · intro request failure may refused
    exact perform_request_of_refusal tidy may refused
  · intro call answer failure alone quiet failed
    exact perform_call_of_failure alone quiet failed
  · intro m h' signs call failure hm hfailed
    obtain ⟨hsame, hanswer⟩ := (step_of_move hm).of_failed_decision hfailed
    refine ⟨hsame, ?_⟩
    intro error heq
    exact (Option.some.inj (hanswer _ heq)).symm
  · intro alone quiet operations last performed hp
    have hu : h.Unfailing := by
      refine ⟨?_, ?_⟩
      · rw [quiet]
        exact fun _ hmem => nomatch hmem
      · rw [alone.2]
        exact fun _ _ _ hnone => nomatch hnone
    exact ⟨performAll_reports hu tidy alone.1 hp, performAll_succeeded tidy alone.1 hp⟩

/-- The weather report listens, fails in several ways, and changes the city. -/
def weatherOperations : List (Operation Unit) :=
  [.request (.listen "weather" onStateChange ()), .proceed, .finish, .proceed, .proceed,
    .call weatherCall (.failed (.rejected "closed")), .request (.register "chat"),
    .request (.unlisten "map" (some ⟨1, "weather", onStateChange⟩)),
    .request (.dispatch "map" "portlet.city" (.str "Oslo")),
    .call weatherCall (.granted (SimulatedServer.grant weatherSubmission)),
    .proceed, .proceed, .finish, .proceed, .proceed, .proceed, .proceed, .release]

/-- Four of the operations of the weather report fail, and the hub comes to the
same without them. -/
theorem failures_of_weather_leave_no_trace :
    Sample.hub.Reachable ∧ ∃ last performed,
      Sample.hub.performAll weatherOperations = some (last, performed) ∧
      (performed.filter fun p => !p.succeeded).length = 4 ∧
      Sample.hub.performAll ((performed.filter Performed.succeeded).map Performed.operation) =
        some (last, performed.filter Performed.succeeded) := by
  have reach : Sample.hub.Reachable :=
    ⟨Sample.page, {}, Sample.hub, [], [], rfl, rfl⟩
  have hperformed : ∃ last performed,
      Sample.hub.performAll weatherOperations = some (last, performed) ∧
      (performed.filter fun p => !p.succeeded).length = 4 := ⟨_, _, rfl, rfl⟩
  obtain ⟨last, performed, hp, hfour⟩ := hperformed
  obtain ⟨_, _, _, hruns⟩ := failed_operations_leave_no_trace reach
  obtain ⟨_, hleft, _⟩ := hruns ⟨rfl, rfl⟩ rfl weatherOperations last performed hp
  exact ⟨reach, last, performed, hp, hfour, hleft⟩

end Hub

end PortletPage
