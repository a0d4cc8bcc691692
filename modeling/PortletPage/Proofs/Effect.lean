import PortletPage.Proofs.News
import PortletPage.Proofs.Serializability

/-!
# The effect of a submitted state

What a submission does, from the call to the news of it, when the simulated
server is at work.  Everything is said in terms of the state that the portlet
has when its call takes the lock and of the state that it submits.

* `Store.Effect`: what becomes of each portlet, and the news.
* `Store.effect_commit`: the granted submission has that effect on a store.
* `Hub.effect_of_submission`: so it has on a hub, whatever happens between the
  moment when the call takes the lock and the answer.
-/

namespace PortletPage

variable (own : Record) (submitted : RenderState)

/-- News of the portlet that has submitted the state. -/
structure StateChange.OfSubmitter (news : StateChange) : Prop where
  portlet : news.portlet = own.portlet.id
  reason : news.reason = .submitted
  state : news.state = submitted
  changed_nodup : news.changed.Nodup
  changed : ∀ name, name ∈ news.changed ↔
    own.state.parameters.get? name ≠ submitted.parameters.get? name
  mode : news.modeChanged = true ↔ own.state.mode ≠ submitted.mode
  window : news.windowChanged = true ↔ own.state.window ≠ submitted.window

/-- News of another portlet, which has got that state by the submission. -/
structure StateChange.OfOther (other : Record) (state : RenderState) (news : StateChange) :
    Prop where
  portlet : news.portlet = other.portlet.id
  reason : news.reason = .publicParameter
  state : news.state = state
  changed_nodup : news.changed.Nodup
  changed : ∀ name, name ∈ news.changed ↔
    own.Publishes submitted name ∧ other.isPublic name = true ∧
      other.state.parameters.get? name ≠ submitted.parameters.get? name
  mode : news.modeChanged = false
  window : news.windowChanged = false

namespace Store

/-- What a submission makes of a store, and the news of it. -/
structure Effect (before after : Store) (news : List StateChange) : Prop where
  portlets : after.portlets = before.portlets
  /-- The submitter has the submitted state. -/
  submitter : after.state? own.portlet.id = some submitted
  /-- Every other portlet takes over the published names that it declares public,
  and keeps the rest of its state. -/
  others : ∀ r ∈ before.records, r.portlet.id ≠ own.portlet.id →
    ∃ state, after.state? r.portlet.id = some state ∧
      state.mode = r.state.mode ∧ state.window = r.state.window ∧
      ∀ name, state.parameters.get? name =
        if own.Publishes submitted name ∧ r.isPublic name = true then
          submitted.parameters.get? name
        else r.state.parameters.get? name
  /-- The submitter's news comes first and that of others in the order of the
  page.  There is news of those that have bound a name otherwise that they take
  over. -/
  news : ∃ first rest, news = first :: rest ∧ first.OfSubmitter own submitted ∧
    (rest.map StateChange.portlet).Sublist before.ids ∧
    (∀ r ∈ before.records, r.portlet.id ∈ rest.map StateChange.portlet ↔
      r.portlet.id ≠ own.portlet.id ∧ ∃ name, own.Publishes submitted name ∧
        r.isPublic name = true ∧
        r.state.parameters.get? name ≠ submitted.parameters.get? name) ∧
    ∀ change ∈ rest, ∃ r ∈ before.records, ∃ state,
      after.state? r.portlet.id = some state ∧ change.OfOther own submitted r state

variable {own submitted}

/-- The news of the submitter's own record. -/
theorem ofSubmitter_replace : (own.replace submitted .submitted).1.OfSubmitter own submitted where
  portlet := rfl
  reason := rfl
  state := rfl
  changed_nodup := Parameters.nodup_changedNames _ _
  changed := Parameters.mem_changedNames _ _
  mode := bne_iff_ne
  window := bne_iff_ne

variable {s : Store}

/-- After a commit every other portlet is found with what it has received. -/
theorem state?_commit_other (hids : s.ids.Nodup) {r : Record} (hr : r ∈ s.records)
    {submitter : String} (hid : r.portlet.id ≠ submitter) (update : Update)
    (reason : Reason) :
    (s.commit submitter update reason).2.state? r.portlet.id =
      some (r.receive update.publicChanges).2.state := by
  have hget : s.get? r.portlet.id = some r := (get?_eq_some_iff hids _ _).mpr ⟨hr, rfl⟩
  rw [state?, get?_commit, hget, Option.map_some, Option.map_some, Record.follow_other hid]

theorem state?_commit_submitter {submitter : String} (hown : s.get? submitter = some own)
    (update : Update) (reason : Reason) :
    (s.commit submitter update reason).2.state? submitter = some update.state := by
  rw [state?, get?_commit, hown, Option.map_some, Option.map_some,
    Record.follow_submitter (mem_of_get? hown).2]

/-- There is news of the portlets that have something to take over. -/
theorem mem_portlets_newsOfOthers (hids : s.ids.Nodup) {r : Record} (hr : r ∈ s.records)
    (submitter : String) (changes : List Change) :
    r.portlet.id ∈ (s.newsOfOthers submitter changes).map StateChange.portlet ↔
      r.portlet.id ≠ submitter ∧ r.renewed changes ≠ [] := by
  rw [List.mem_map]
  constructor
  · intro htold
    obtain ⟨news, hnews, hportlet⟩ := htold
    obtain ⟨r', hr', hid, hrenewed, rfl⟩ := (mem_newsOfOthers changes news).mp hnews
    have heq : r' = r := List.inj_on_of_nodup_map hids hr' hr hportlet
    subst heq
    exact ⟨hid, hrenewed⟩
  · intro hchanged
    obtain ⟨hid, hrenewed⟩ := hchanged
    exact ⟨_, (mem_newsOfOthers changes _).mpr ⟨r, hr, hid, hrenewed, rfl⟩, rfl⟩

/-- A granted submission has its effect on the store. -/
theorem effect_commit (hids : s.ids.Nodup) {submitter : String}
    (hown : s.get? submitter = some own) (submitted : RenderState) :
    Effect own submitted s
      (s.commit submitter ⟨submitted, own.publicChanges submitted⟩ .submitted).2
      (s.commit submitter ⟨submitted, own.publicChanges submitted⟩ .submitted).1 := by
  obtain ⟨_, rfl⟩ := mem_of_get? hown
  have hothers : ∀ r ∈ s.records, r.portlet.id ≠ own.portlet.id →
      (s.commit own.portlet.id ⟨submitted, own.publicChanges submitted⟩ .submitted).2.state?
        r.portlet.id = some (r.receive (own.publicChanges submitted)).2.state :=
    fun r hr hid => state?_commit_other hids hr hid _ _
  refine ⟨portlets_commit _ _ _ _, state?_commit_submitter hown _ _, ?_, ?_⟩
  · intro r hr hid
    exact ⟨_, hothers r hr hid, rfl, rfl, own.get?_receive_publicChanges submitted r⟩
  · refine ⟨_, _, commit_fst hids hown _ _, ofSubmitter_replace,
      portlets_newsOfOthers_sublist _ _ _, ?_, ?_⟩
    · intro r hr
      rw [mem_portlets_newsOfOthers hids hr, ne_eq (r.renewed _),
        List.eq_nil_iff_forall_not_mem, not_forall]
      simp only [not_not, own.mem_renewed_publicChanges submitted]
    · intro change hchange
      obtain ⟨r, hr, hid, _, rfl⟩ := (mem_newsOfOthers _ _).mp hchange
      refine ⟨r, hr, _, hothers r hr hid, ?_⟩
      exact {
        portlet := rfl
        reason := rfl
        state := rfl
        changed_nodup := own.nodup_renewed_publicChanges submitted r
        changed := own.mem_renewed_publicChanges submitted r
        mode := rfl
        window := rfl }

/-- The effect shows in the picture of the store. -/
theorem Effect.of_picture_eq {before after after' : Store} {news : List StateChange}
    (he : Effect own submitted before after news) (h : after'.picture = after.picture) :
    Effect own submitted before after' news := by
  have hstate : after'.state? = after.state? := funext (state?_of_picture_eq h)
  have hportlets : after'.portlets = after.portlets := by
    rw [portlets_eq, portlets_eq, h]
  refine ⟨hportlets.trans he.portlets, ?_, ?_, ?_⟩
  · rw [hstate]
    exact he.submitter
  · rw [hstate]
    exact he.others
  · rw [hstate]
    exact he.news

end Store

namespace Hub

variable {κ : Type} {own submitted}

/-- A state that differs from that of the portlet is submitted as it is. -/
theorem prepare_state {store : Store} {call : Call} (hown : store.get? call.portlet = some own)
    (hwish : call.wish = .state submitted) (hdiffers : own.state.agrees submitted = false) :
    prepare store call =
      .ok (.state ⟨call.portlet, Delta.between own.state submitted own.isPublic, submitted⟩) := by
  have hempty : (Delta.between own.state submitted own.isPublic).isEmpty = false := by
    rw [Bool.eq_false_iff, ne_eq, Delta.isEmpty_between_iff, hdiffers]
    exact Bool.false_ne_true
  simp [prepare, hown, hwish, hempty]

/-- A state that the portlet has already is not submitted. -/
theorem prepare_present {store : Store} {call : Call} (hown : store.get? call.portlet = some own)
    (hwish : call.wish = .state submitted) (present : own.state.agrees submitted = true) :
    prepare store call = .error (.ok ⟨own.state, []⟩) := by
  simp [prepare, hown, hwish, Delta.isEmpty_between_iff, present]

/-- A call that has something to submit takes the lock and submits it. -/
theorem run_send {h : Hub κ} (free : h.holder = none) {call : Call} {queue : List Call}
    (first : h.queue = call :: queue) {s : Submission} (prepared : prepare h.store call = .ok s) :
    h.run [.acquire, .send] =
      some ({ h with queue := queue, holder := some ⟨call, true, .sent s⟩ }, [.sent s]) := by
  refine run_cons_iff.mpr ⟨_, [], [.sent s],
    move_of_step (.acquire h call queue s free first prepared), ?_, rfl⟩
  rw [run_singleton]
  exact move_of_step (.send _ call true s rfl)

/-- When a submission has been sent and not answered, it is with the server. -/
theorem sent_of_undecided {h h' : Hub κ} {moves : List (Move κ)} {signs : List (Sign κ)}
    {call : Call} {attended : Bool} {s : Submission}
    (holds : h.holder = some ⟨call, attended, .sent s⟩)
    (hr : h.run moves = some (h', signs)) (hm : Move.answers moves = []) :
    ∃ attended', h'.holder = some ⟨call, attended', .sent s⟩ := by
  have hu : h.Undecided call s := ⟨attended, _, holds, rfl⟩
  obtain ⟨⟨attended', stage, holds', hsub⟩, _⟩ := run_undecided hr hm hu
  have hcount := run_sent_answered hr
  have hone : h.withServer.length = 1 := by rw [withServer, holds]; rfl
  rw [hone, hm, List.length_nil] at hcount
  cases stage with
  | ready s' =>
    have hzero : h'.withServer.length = 0 := by rw [withServer, holds']; rfl
    omega
  | sent s' =>
    cases hsub
    exact ⟨attended', holds'⟩
  | _ => cases hsub

theorem outcomeOf_cons {submitter : String} {change : StateChange}
    (h : change.portlet = submitter) (rest : List StateChange) :
    outcomeOf submitter (change :: rest) =
      ⟨change.state, (change :: rest).map StateChange.portlet⟩ := by
  simp only [outcomeOf, if_pos h]

theorem outcomeOf_commit {store : Store} (hids : store.ids.Nodup) {submitter : String}
    {own : Record} (found : store.get? submitter = some own) (update : Update)
    (reason : Reason) :
    outcomeOf submitter (store.commit submitter update reason).1 =
      ⟨update.state, (store.commit submitter update reason).1.map StateChange.portlet⟩ := by
  rw [Store.commit_fst hids found, outcomeOf_cons (Store.mem_of_get? found).2]
  rfl

/-- Whenever a call takes the lock with a state that differs from that of its
portlet, and the simulated server is at work:

* the submission can be sent at once;
* whatever happens until the answer, if no delivery is under way the answer can
  be applied.  Then the submission has its effect on the states that the
  portlets had when the call took the lock, the news is put up for delivery, and
  the result of the call is the submitted state and the portlets of the news. -/
theorem effect_of_submission {h : Hub κ} (reach : h.Reachable) {call : Call}
    {queue : List Call} (free : h.holder = none) (first : h.queue = call :: queue)
    (found : h.store.get? call.portlet = some own) (wish : call.wish = .state submitted)
    (differs : own.state.agrees submitted = false) {server : SimulatedServer}
    (works : server.failing = false) :
    ∃ s h₁, h.run [.acquire, .send] = some (h₁, [.sent s]) ∧
      ∀ between h₂ signs, h₁.run between = some (h₂, signs) → Move.answers between = [] →
        h₂.delivery = [] →
        ∃ h₃ news attended, h₂.move (.receive (server.answer s).1) = some (h₃, []) ∧
          Store.Effect own submitted h.store h₃.store news ∧
          h₃.delivery = [.turns (stampFrom h₂.made news)] ∧
          h₃.holder =
            some ⟨call, attended, .over (.ok ⟨submitted, news.map StateChange.portlet⟩)⟩ := by
  have hsound := reach.sound
  have hprepared := prepare_state found wish differs
  let s : Submission :=
    .state ⟨call.portlet, Delta.between own.state submitted own.isPublic, submitted⟩
  let h₁ : Hub κ := { h with queue := queue, holder := some ⟨call, true, .sent s⟩ }
  have hsend : h.run [.acquire, .send] = some (h₁, [.sent s]) := by
    refine run_cons_iff.mpr ⟨_, [], [.sent s],
      move_of_step (.acquire h call queue s free first hprepared), ?_, rfl⟩
    rw [run_singleton]
    exact move_of_step (.send _ call true s rfl)
  refine ⟨s, h₁, hsend, ?_⟩
  intro between h₂ signs hbetween hanswers quiet
  obtain ⟨attended, holds⟩ := sent_of_undecided (h := h₁) rfl hbetween hanswers
  -- nothing has changed since the call took the lock
  have hu : h₁.Undecided call s := ⟨true, _, rfl, rfl⟩
  have hpicture : h₂.store.picture = h.store.picture :=
    (run_undecided hbetween hanswers hu).2
  have hanswer : (server.answer s).1 = .granted ⟨submitted, own.publicChanges submitted⟩ := by
    rw [SimulatedServer.answer, works]
    rfl
  obtain ⟨hnews, hstore⟩ := Store.commit_of_picture_eq hpicture call.portlet
    ⟨submitted, own.publicChanges submitted⟩ .submitted
  have heffect := (Store.effect_commit hsound.ids found submitted).of_picture_eq hstore
  rw [← hnews] at heffect
  let update : Update := ⟨submitted, own.publicChanges submitted⟩
  let news := (h₂.store.commit call.portlet update .submitted).1
  have houtcome : outcomeOf call.portlet news =
      ⟨submitted, news.map StateChange.portlet⟩ := by
    obtain ⟨change, rest, heq, hchange, _⟩ := heffect.news
    have hnews : news = change :: rest := heq
    rw [hnews, outcomeOf_cons (hchange.portlet.trans (Store.mem_of_get? found).2),
      hchange.state]
  refine ⟨h₂.commit ⟨call, attended, .sent s⟩ s update, news, attended, ?_, heffect, rfl, ?_⟩
  · rw [hanswer]
    exact move_of_step (.grant h₂ call attended s update holds quiet)
  · rw [← houtcome]
    rfl

/-- The record of the weather report before anything has happened. -/
def weatherRecord : Record :=
  ⟨⟨"weather", ["unit"], ["city", "zoom"], ⟨"VIEW", "NORMAL", .empty⟩⟩,
    ⟨"VIEW", "NORMAL", .empty⟩, false⟩

/-- The weather report submits another city.  The map has news of it and the
notes, whose city is their own, have none. -/
theorem effect_of_weather :
    ∃ h news, Sample.hub.run [.enter weatherCall, .acquire, .send,
        .receive (({} : SimulatedServer).answer weatherSubmission).1] =
          some (h, [.sent weatherSubmission]) ∧
      Store.Effect weatherRecord ⟨"VIEW", "NORMAL", .ofEntries [("city", [some "Oslo"])]⟩
        Sample.hub.store h.store news ∧
      news.map StateChange.portlet = ["weather", "map"] := by
  let waiting : Hub Unit := { Sample.hub with inFlight := 1, queue := [weatherCall] }
  have reach : waiting.Reachable :=
    ⟨Sample.page, {}, Sample.hub, [.enter weatherCall], [], rfl, rfl⟩
  have found : waiting.store.get? weatherCall.portlet = some weatherRecord := rfl
  have wish : weatherCall.wish =
      .state ⟨"VIEW", "NORMAL", .ofEntries [("city", [some "Oslo"])]⟩ := rfl
  have works : ({} : SimulatedServer).failing = false := rfl
  obtain ⟨s, h₁, hsend, hanswer⟩ :=
    effect_of_submission reach rfl rfl found wish (by decide) works
  have hwaits : waiting.run [.acquire, .send] =
      some (weatherWaits, [.sent weatherSubmission]) := rfl
  rw [hwaits] at hsend
  cases hsend
  obtain ⟨h₃, news, attended, hmove, heffect, hdelivery, hholder⟩ :=
    hanswer [] weatherWaits [] rfl rfl rfl
  have hrun : Sample.hub.run [.enter weatherCall, .acquire, .send] =
      some (weatherWaits, [.sent weatherSubmission]) := rfl
  refine ⟨h₃, news, ?_, heffect, ?_⟩
  · exact run_append_iff.mpr ⟨weatherWaits, _, [], hrun, (run_singleton _ _).trans hmove, rfl⟩
  · have hcommit : weatherWaits.move (.receive (.granted (SimulatedServer.grant
        weatherSubmission))) = some (weatherWaits.commit
          ⟨weatherCall, true, .sent weatherSubmission⟩ weatherSubmission
          (SimulatedServer.grant weatherSubmission), []) := rfl
    cases hmove.symm.trans hcommit
    have heq : some (⟨weatherCall, true, .over (.ok ⟨_, ["weather", "map"]⟩)⟩ : Holder) =
        some ⟨weatherCall, attended, .over (.ok ⟨_, news.map StateChange.portlet⟩)⟩ := hholder
    simp only [Option.some.injEq, Holder.mk.injEq, Stage.over.injEq, Except.ok.injEq,
      Outcome.mk.injEq] at heq
    exact heq.2.2.2.symm

end Hub

end PortletPage
