import PortletPage.Proofs.Agreement
import PortletPage.Proofs.Leaving

/-!
# Submissions are serialized

Callers may come, wait and go away in any order, and requests and deliveries
take place at any time between.  `Hub.submissions_are_serialized` says what holds
of every such run all the same:

* there is never more than one round trip under way;
* from the moment when a call takes the lock until its answer comes no render
  state changes, so that its submission is relative to the states that the
  answer is applied to;
* a call that is taken back while it waits leaves no trace;
* a call that holds the lock goes on the same way without its caller;
* the run does what a serial run of the calls that were not taken back does, in
  the order in which they came.
-/

namespace PortletPage

namespace Hub

variable {κ : Type}

/-! ## Round trips -/

/-- Every submission that is sent is answered before the next one. -/
theorem Step.sent_answered {h h' : Hub κ} {m : Move κ} {signs : List (Sign κ)}
    (hs : Step h m h' signs) :
    h.withServer.length + (Sign.submissions signs).length =
      (Move.answers [m]).length + h'.withServer.length := by
  cases hs with
  | desert call attended stage holds waitsNot =>
    rw [withServer, withServer, holds]
    cases stage <;> simp [Sign.submissions, Move.answer?]
  | release call attended result holds quiet =>
    rw [withServer, withServer, holds]
    cases attended <;> simp [Sign.submissions, Sign.submission?, Move.answer?]
  | ask request may =>
    rw [withServer, withServer, (ask_calls h request).2.2]
    simp [Sign.submissions, Move.answer?]
  | proceed h' signs proceeds =>
    rw [withServer, withServer, (proceed_calls proceeds).2.2, (proceed_signs proceeds).1]
    simp [Move.answer?]
  | enter call => simp [withServer, Sign.submissions, Move.answer?]
  | takeBack number waits => simp [withServer, Sign.submissions, Move.answer?]
  | acquire call queue s free first prepared =>
    simp [withServer, free, Sign.submissions, Move.answer?]
  | endEarly call queue result free first prepared =>
    simp [withServer, Sign.submissions, Sign.submission?, Move.answer?]
  | send call attended s holds =>
    simp [withServer, holds, Sign.submissions, Sign.submission?, Move.answer?]
  | grant call attended s update holds quiet =>
    simp [withServer, holds, Hub.commit, Sign.submissions, Move.answer?]
  | fail call attended s error holds quiet =>
    simp [withServer, holds, Hub.fail, Sign.submissions, Move.answer?]
  | breakOff call attended s holds quiet =>
    simp [withServer, holds, Hub.fail, Sign.submissions, Move.answer?]
  | finish callback rest runs => simp [withServer, Sign.submissions, Move.answer?]

theorem run_sent_answered {h h' : Hub κ} {moves : List (Move κ)} {signs : List (Sign κ)}
    (hr : h.run moves = some (h', signs)) :
    h.withServer.length + (Sign.submissions signs).length =
      (Move.answers moves).length + h'.withServer.length := by
  induction moves generalizing h signs with
  | nil =>
    cases hr
    rw [Move.answers_nil]
    show _ + 0 = 0 + _
    omega
  | cons m moves ih =>
    obtain ⟨h₁, first, more, hm, hrest, rfl⟩ := run_cons_iff.mp hr
    have hfirst := (step_of_move hm).sent_answered
    have hmore := ih hrest
    rw [Sign.submissions_append, List.length_append, Move.answers_cons, List.length_append]
    rw [Move.answers_cons, Move.answers_nil, List.append_nil] at hfirst
    omega

/-- There is at most one submission with the server. -/
theorem length_withServer_le (h : Hub κ) : h.withServer.length ≤ 1 := by
  unfold withServer
  split
  · exact Nat.le_refl 1
  · exact Nat.zero_le 1

/-! ## From the lock to the answer -/

/-- The call holds the lock with a submission that is not answered. -/
def Undecided (h : Hub κ) (call : Call) (s : Submission) : Prop :=
  ∃ attended stage, h.holder = some ⟨call, attended, stage⟩ ∧ stage.submission? = some s

/-- A step that brings no answer leaves the submission and all states as they
are. -/
theorem Step.undecided {h h' : Hub κ} {m : Move κ} {signs : List (Sign κ)}
    (hs : Step h m h' signs) (hm : m.answer? = none) {call : Call} {s : Submission}
    (hu : h.Undecided call s) :
    h'.Undecided call s ∧ h'.store.picture = h.store.picture := by
  have hpicture : h'.store.picture = h.store.picture := by
    apply hs.picture_eq
    intro update heq
    subst heq
    cases hm
  refine ⟨?_, hpicture⟩
  obtain ⟨attended, stage, holds, hsub⟩ := hu
  cases hs with
  | desert call' attended' stage' holds' waitsNot =>
    rw [holds] at holds'
    cases holds'
    exact ⟨false, stage, rfl, hsub⟩
  | acquire call' queue s' free first prepared =>
    rw [holds] at free
    cases free
  | send call' attended' s' holds' =>
    rw [holds] at holds'
    cases holds'
    exact ⟨attended, .sent s', rfl, hsub⟩
  | grant call' attended' s' update holds' quiet => cases hm
  | fail call' attended' s' error holds' quiet => cases hm
  | breakOff call' attended' s' holds' quiet => cases hm
  | release call' attended' result holds' quiet =>
    rw [holds] at holds'
    cases holds'
    cases hsub
  | ask request may => exact ⟨attended, stage, (ask_calls h request).2.2.trans holds, hsub⟩
  | proceed h' signs proceeds =>
    exact ⟨attended, stage, (proceed_calls proceeds).2.2.trans holds, hsub⟩
  | _ => exact ⟨attended, stage, holds, hsub⟩

theorem run_undecided {h h' : Hub κ} {moves : List (Move κ)} {signs : List (Sign κ)}
    (hr : h.run moves = some (h', signs)) (hm : Move.answers moves = []) {call : Call}
    {s : Submission} (hu : h.Undecided call s) :
    h'.Undecided call s ∧ h'.store.picture = h.store.picture := by
  induction moves generalizing h signs with
  | nil =>
    cases hr
    exact ⟨hu, rfl⟩
  | cons m moves ih =>
    obtain ⟨h₁, first, more, hmove, hrest, _⟩ := run_cons_iff.mp hr
    rw [Move.answers_cons, List.append_eq_nil_iff, Option.toList_eq_nil_iff] at hm
    obtain ⟨hu₁, hpicture₁⟩ := (step_of_move hmove).undecided hm.1 hu
    obtain ⟨hu', hpicture'⟩ := ih hrest hm.2 hu₁
    exact ⟨hu', hpicture'.trans hpicture₁⟩

/-- A submission that is not answered is what its call would submit now. -/
theorem Sound.prepare_of_undecided {h : Hub κ} (hi : h.Sound) {call : Call}
    {s : Submission} (hu : h.Undecided call s) : prepare h.store call = .ok s := by
  obtain ⟨attended, stage, holds, hsub⟩ := hu
  exact hi.prepared holds hsub

/-! ## Hubs at rest -/

/-- No call waits or is under way. -/
def AtRest (h : Hub κ) : Prop := h.queue = [] ∧ h.holder = none

/-- At rest no call has to be taken away for a serial run. -/
theorem Sound.serially_of_atRest {h : Hub κ} (hi : h.Sound) (hrest : h.AtRest) :
    h.serially = h := by
  obtain ⟨hqueue, hholder⟩ := hrest
  have hflight := hi.counted
  rw [hqueue, hholder] at hflight
  have hzero : h.inFlight = 0 := hflight
  rw [serially, hholder]
  show h.withCalls 0 [] none = h
  rw [← hzero, ← hqueue, ← hholder]
  exact withCalls_self h

theorem atRest_of_ofPage {page : Page} {config : Config} {h : Hub κ}
    (hp : ofPage page config = .ok h) : h.AtRest := by
  obtain ⟨_, rfl⟩ := start_of_ofPage hp
  exact ⟨rfl, rfl⟩

/-- For every run on a valid page:

* each submission but the last has been answered when the next one is sent;
* what a call has submitted is what it would submit now, and until the answer
  comes neither that nor any render state changes;
* a call that is taken back while it waits leaves no trace, as calls are told
  apart by their numbers;
* when the caller of a call that holds the lock goes away, everything happens
  as if the caller had stayed, except that nobody learns the result;
* there is a serial run that does as much, and it leads to the same hub if no
  call waits or is under way in the end. -/
theorem submissions_are_serialized {page : Page} {config : Config} {start h : Hub κ}
    (valid : ofPage page config = .ok start) {moves : List (Move κ)} {signs : List (Sign κ)}
    (runs : start.run moves = some (h, signs)) :
    ((Sign.submissions signs).length = (Move.answers moves).length + h.withServer.length ∧
        h.withServer.length ≤ 1) ∧
      (∀ call s, h.Undecided call s → prepare h.store call = .ok s ∧
        ∀ more h' signs', h.run more = some (h', signs') → Move.answers more = [] →
          h'.Undecided call s ∧ h'.store.picture = h.store.picture) ∧
      (((Move.entered moves).map Call.number).Nodup →
        ∀ before call between after g seen,
          moves = before ++ .enter call :: (between ++ .leave call.number :: after) →
          start.run (before ++ .enter call :: between) = some (g, seen) → call ∈ g.queue →
          start.run (before ++ between ++ after) = some (h, signs)) ∧
      (∀ before call after g seen attended stage,
        moves = before ++ .leave call.number :: after →
        start.run before = some (g, seen) → g.holder = some ⟨call, attended, stage⟩ →
        call.number ∉ g.queue.map Call.number →
        ∃ attended' signs', start.run (before ++ after) = some (h.heed attended', signs') ∧
          exceptResults signs' = exceptResults signs) ∧
      (∃ deeds seen, SerialFor start moves h signs deeds seen ∧
        start.run (deeds.flatMap Deed.moves) = some (h.serially, seen) ∧
        (h.AtRest → h.serially = h)) := by
  have hstart := sound_of_ofPage valid
  have hrest := atRest_of_ofPage valid
  have hsound := hstart.run runs
  refine ⟨⟨?_, length_withServer_le h⟩, ?_, ?_, ?_, ?_⟩
  · have hcount := run_sent_answered runs
    rw [withServer, hrest.2] at hcount
    have hnone : (Sign.submissions signs).length =
        0 + (Sign.submissions signs).length := by omega
    rw [hnone]
    exact hcount
  · intro call s hu
    refine ⟨hsound.prepare_of_undecided hu, ?_⟩
    intro more h' signs' hr hm
    exact run_undecided hr hm hu
  · intro distinct before call between after g seen heq hwaiting waits
    subst heq
    have hsplit : before ++ .enter call :: (between ++ .leave call.number :: after) =
        (before ++ .enter call :: between) ++ .leave call.number :: after := by simp
    rw [hsplit] at runs distinct
    obtain ⟨g', first, later, hfirst, hlater, rfl⟩ := run_append_iff.mp runs
    rw [hwaiting] at hfirst
    cases hfirst
    rw [Move.entered_append, List.map_append] at distinct
    refine run_of_takenBack hstart ?_ hwaiting waits hlater
    rw [hrest.1, List.nil_append]
    exact distinct.of_append_left
  · intro before call after g seen attended stage heq hbefore holds waitsNot
    subst heq
    obtain ⟨g', first, later, hfirst, hlater, rfl⟩ := run_append_iff.mp runs
    rw [hbefore] at hfirst
    cases hfirst
    obtain ⟨attended', signs', hafter, hsame⟩ := run_of_deserted holds waitsNot hlater
    refine ⟨attended', seen ++ signs',
      run_append_iff.mpr ⟨g, seen, signs', hbefore, hafter, rfl⟩, ?_⟩
    rw [exceptResults_append, exceptResults_append, hsame]
  · obtain ⟨deeds, seen, hserial⟩ := run_serialFor hstart runs
    refine ⟨deeds, seen, hserial, ?_, hsound.serially_of_atRest⟩
    have hrun := hserial.run
    rw [hstart.serially_of_atRest hrest] at hrun
    exact hrun

/-- A call of the map that is taken back while it waits. -/
def secondCall : Call := ⟨1, "map", .action .empty⟩

/-- A call of the map that has its turn after that of the weather report. -/
def thirdCall : Call :=
  ⟨2, "map", .state ⟨"EDIT", "NORMAL", .ofEntries [("city", [some "Rome"])]⟩⟩

/-- What happens while the second call waits. -/
def meanwhile : List (Move Unit) := [.acquire, .send, .enter thirdCall]

/-- What happens afterwards.  The caller of the first call goes away while the
server considers it. -/
def afterwards : List (Move Unit) :=
  [.leave 0, .receive (.granted (SimulatedServer.grant weatherSubmission)),
    .proceed, .proceed, .proceed, .proceed, .proceed, .release, .acquire, .send]

/-- Three calls overlap on the small page.  Two of them have their submissions
sent, and the other one might as well not have come. -/
theorem overlapping_calls_are_serialized :
    ∃ h signs, Sample.hub.run ([.enter weatherCall] ++ .enter secondCall ::
        (meanwhile ++ .leave 1 :: afterwards)) = some (h, signs) ∧
      (Sign.submissions signs).length = 2 ∧
      Sample.hub.run ([.enter weatherCall] ++ meanwhile ++ afterwards) = some (h, signs) ∧
      ∃ (deeds : List (Deed Unit)) (seen : _),
        Sample.hub.run (deeds.flatMap Deed.moves) = some (h.serially, seen) := by
  have hrun : ∃ h signs, Sample.hub.run ([.enter weatherCall] ++ .enter secondCall ::
      (meanwhile ++ .leave 1 :: afterwards)) = some (h, signs) ∧
      (Sign.submissions signs).length = 2 := ⟨_, _, rfl, rfl⟩
  obtain ⟨h, signs, hrun, hlength⟩ := hrun
  obtain ⟨_, _, htaken, _, deeds, seen, _, hserial, _⟩ :=
    submissions_are_serialized Sample.hub_of_page hrun
  refine ⟨h, signs, hrun, hlength, ?_, deeds, seen, hserial⟩
  have hwaiting : ∃ g seen, Sample.hub.run ([.enter weatherCall] ++ .enter secondCall ::
      meanwhile) = some (g, seen) ∧ secondCall ∈ g.queue :=
    ⟨_, _, rfl, List.mem_cons_self⟩
  obtain ⟨g, seen', hwaiting, waits⟩ := hwaiting
  exact htaken (by decide) [.enter weatherCall] secondCall meanwhile afterwards g seen' rfl
    hwaiting waits

end Hub

end PortletPage
