import PortletPage.Proofs.Effect
import PortletPage.Proofs.Responses
import PortletPage.RenderState

/-!
# Actions as submissions

To execute an action is to submit the state that its parameters lead to.  The two
ways of asking for the same are worked out at different places: the server merges
the parameters of an action into the state that comes with it, whereas the hub
compares a submitted state with the authoritative one.

* `SimulatedServer.merge_eq_applyAll`: the merge leads to the state with all
  parameters of the action bound one after the other.
* `Store.rearranged_commit`: two commits of one state whose public changes are the
  same in whatever order have the same effect on a store.
* `Hub.instead`: whatever happens while the one submission is with the server can
  happen in the same way while the other one is (`Step.instead`).

`Hub.action_agrees_with_submission` says so of hubs.
-/

namespace PortletPage

/-! ## The state that an action leads to -/

/-- The edits that bind all parameters of a container, in its order. -/
def Parameters.binds (p : Parameters) : List Edit :=
  p.entries.map fun entry => .bind entry.1 entry.2

namespace SimulatedServer

/-- A merge binds the parameters one after the other.  Those that it passes over
would change nothing. -/
theorem merge_eq_applyAll (isPublic : String → Bool) (entries : List Entry)
    (s : RenderState) :
    (merge isPublic entries s).2 =
      Edit.applyAll (entries.map fun entry => .bind entry.1 entry.2) s := by
  induction entries generalizing s with
  | nil => rfl
  | cons entry rest ih =>
    obtain ⟨n, values⟩ := entry
    by_cases hs : s.parameters.get? n = some values
    · have hbind : s.bind n values = s := by
        rw [RenderState.bind, Parameters.insert_of_get? hs]
      have happly : Edit.applyAll ((n, values) :: rest |>.map fun entry =>
          .bind entry.1 entry.2) s =
            Edit.applyAll (rest.map fun entry => .bind entry.1 entry.2) (s.bind n values) := rfl
      rw [merge_cons_skip hs, happly, hbind]
      exact ih s
    · rw [merge_cons_state hs]
      exact ih (s.bind n values)

end SimulatedServer

/-- Parameters that lead to a state that agrees with the present one are bound in it
already. -/
theorem Edit.applyAll_binds_of_agrees {p : Parameters} {s : RenderState}
    (h : s.agrees (applyAll p.binds s) = true) : applyAll p.binds s = s := by
  have hmerge := SimulatedServer.merge_eq_applyAll (fun _ => false) p.entries s
  have hget := ((RenderState.agrees_iff _ _).mp h).2.2
  have hbound : ∀ entry ∈ p.entries, s.parameters.get? entry.1 = some entry.2 := by
    intro entry hentry
    have hentry : p.get? entry.1 = some entry.2 := (p.mem_entries_iff _ _).mp hentry
    rw [hget, Parameters.binds, ← hmerge, SimulatedServer.get?_merge _ p.nodup]
    show (p.get? entry.1).or _ = _
    rw [hentry, Option.some_or]
  rw [Parameters.binds, ← hmerge, SimulatedServer.merge_of_bound hbound]

/-! ## Commits of one state -/

/-- Two records are equal up to the order of parameters. -/
structure Record.Agrees (r r' : Record) : Prop where
  portlet : r.portlet = r'.portlet
  registered : r.registered = r'.registered
  state : r.state.agrees r'.state = true

/-- Two news are equal up to the order of parameters and of changed names. -/
structure StateChange.Rearranged (c c' : StateChange) : Prop where
  portlet : c.portlet = c'.portlet
  reason : c.reason = c'.reason
  state : c.state.agrees c'.state = true
  changed : c.changed.Perm c'.changed
  modeChanged : c.modeChanged = c'.modeChanged
  windowChanged : c.windowChanged = c'.windowChanged

/-- The news of an action, and the news of a submission that has come to the same:
the submitter is told another reason, and what the others are told may be
rearranged. -/
def StateChange.Match (submitter : String) (news news' : List StateChange) : Prop :=
  ∃ first rest rest', news = first :: rest ∧
    news' = { first with reason := .submitted } :: rest' ∧
    first.portlet = submitter ∧ first.reason = .action ∧
    List.Forall₂ Rearranged rest rest'

theorem StateChange.Match.portlets_eq {submitter : String} {news news' : List StateChange}
    (h : Match submitter news news') :
    news.map StateChange.portlet = news'.map StateChange.portlet := by
  obtain ⟨first, rest, rest', rfl, rfl, _, _, hrest⟩ := h
  have hportlets : rest.map StateChange.portlet = rest'.map StateChange.portlet := by
    rw [← List.forall₂_eq_eq_eq, List.forall₂_map_left_iff, List.forall₂_map_right_iff]
    exact hrest.imp fun c c' hc => hc.portlet
  rw [List.map_cons, List.map_cons, hportlets]

namespace Record

/-- The news of a record whose state is replaced by itself names nothing. -/
theorem replace_present (r : Record) (reason : Reason) :
    (r.replace r.state reason).1 = ⟨r.portlet.id, reason, r.state, [], false, false⟩ := by
  have hnames : r.state.parameters.changedNames r.state.parameters = [] :=
    (Parameters.changedNames_eq_nil_iff _ _).mpr fun _ => rfl
  simp [replace, hnames]

/-- The same changes in another order lead to records that agree and to news that are
rearranged. -/
theorem rearranged_receive (r : Record) {changes changes' : List Change}
    (hsame : Change.Same changes changes') :
    (r.receive changes).2.Agrees (r.receive changes').2 ∧
      Option.Rel StateChange.Rearranged (r.receive changes).1 (r.receive changes').1 := by
  have hstate : (r.receive changes).2.state.agrees (r.receive changes').2.state = true := by
    refine (RenderState.agrees_iff _ _).mpr ⟨rfl, rfl, ?_⟩
    intro name
    rw [get?_receive, get?_receive, hsame.last?_eq]
  have hmem : ∀ name, name ∈ r.renewed changes ↔ name ∈ r.renewed changes' := by
    intro name
    rw [mem_renewed r hsame.nodup, mem_renewed r hsame.nodup_right]
    simp only [hsame.mem_iff]
  have hperm : (r.renewed changes).Perm (r.renewed changes') :=
    (List.perm_ext_iff_of_nodup (r.nodup_renewed hsame.nodup)
      (r.nodup_renewed hsame.nodup_right)).mpr hmem
  refine ⟨⟨rfl, rfl, hstate⟩, ?_⟩
  rw [receive_fst, receive_fst]
  by_cases hsilent : r.renewed changes = []
  · have hsilent' : r.renewed changes' = [] := by
      rw [hsilent] at hperm
      exact hperm.symm.eq_nil
    rw [if_pos hsilent, if_pos hsilent']
    exact .none
  · have hsilent' : r.renewed changes' ≠ [] := by
      intro hnil
      rw [hnil] at hperm
      exact hsilent hperm.eq_nil
    rw [if_neg hsilent, if_neg hsilent']
    exact .some ⟨rfl, rfl, hstate, hperm, rfl, rfl⟩

end Record

namespace Store

variable {s : Store}

/-- Two commits of one state with the same public changes, in whatever order, come to
the same. -/
theorem rearranged_commit (hids : s.ids.Nodup) {submitter : String} {own : Record}
    (hown : s.get? submitter = some own) (state : RenderState)
    {changes changes' : List Change} (hsame : Change.Same changes changes') :
    List.Forall₂ Record.Agrees
        (s.commit submitter ⟨state, changes⟩ .action).2.records
        (s.commit submitter ⟨state, changes'⟩ .submitted).2.records ∧
      StateChange.Match submitter (s.commit submitter ⟨state, changes⟩ .action).1
        (s.commit submitter ⟨state, changes'⟩ .submitted).1 := by
  refine ⟨?_, ?_⟩
  · rw [records_commit, records_commit, List.forall₂_map_left_iff, List.forall₂_map_right_iff,
      List.forall₂_same]
    intro r _
    by_cases hid : r.portlet.id = submitter
    · rw [Record.follow, Record.follow, if_pos hid, if_pos hid]
      exact ⟨rfl, rfl, state.agrees_refl⟩
    · rw [Record.follow_other hid, Record.follow_other hid]
      exact (r.rearranged_receive hsame).1
  · have hothers : List.Forall₂ StateChange.Rearranged
        (s.newsOfOthers submitter changes) (s.newsOfOthers submitter changes') := by
      refine List.rel_filterMap ?_ (List.forall₂_same.mpr fun r _ => rfl)
      intro r r' heq
      subst heq
      exact (r.rearranged_receive hsame).2
    rw [commit_fst hids hown, commit_fst hids hown]
    exact ⟨_, _, _, rfl, rfl, (mem_of_get? hown).2, rfl, hothers⟩

end Store

/-- What grants an action and what grants the state that it leads to pass on the same
changes. -/
theorem Update.Grants.same {own : Record} {p : Parameters} {update update' : Update}
    (h : update.Grants own (.action p)) (h' : update'.Grants own (.state update.state)) :
    Change.Same update.publicChanges update'.publicChanges := by
  refine ⟨h.nodup, h'.nodup, ?_⟩
  intro c
  rw [h.mem_iff, h'.mem_iff, ← h.binding]
  rfl

/-- What grants a state that the portlet has already passes on nothing. -/
theorem Update.Grants.publicChanges_eq_nil {own : Record} {w : Wish} {update : Update}
    (h : update.Grants own w) (present : own.state.agrees update.state = true) :
    update.publicChanges = [] := by
  rw [List.eq_nil_iff_forall_not_mem]
  intro c hc
  obtain ⟨_, hne, hvalues⟩ := (h.mem_iff c).mp hc
  rw [← h.binding] at hvalues
  rw [hvalues] at hne
  exact hne (((RenderState.agrees_iff _ _).mp present).2.2 c.name)

namespace Hub

variable {κ : Type}

/-! ## Submissions in each other's place -/

/-- The hub with another call that holds the lock, whose submission is with the
server. -/
def instead (h : Hub κ) (call : Call) (s : Submission) : Hub κ :=
  h.withCalls h.inFlight h.queue (h.holder.map fun x => ⟨call, x.attended, .sent s⟩)

theorem holder_instead {h : Hub κ} {call : Call} {attended : Bool} {stage : Stage}
    (holds : h.holder = some ⟨call, attended, stage⟩) (call' : Call) (s' : Submission) :
    (h.instead call' s').holder = some ⟨call', attended, .sent s'⟩ := by
  rw [instead, holder_withCalls, holds]
  rfl

/-- Until the answer comes it makes no difference which submission of a call is with
the server. -/
theorem Step.instead {h h' : Hub κ} {m : Move κ} {signs : List (Sign κ)}
    (hs : Step h m h' signs) (hm : m.answer? = none) {call : Call} {attended : Bool}
    {s : Submission} (holds : h.holder = some ⟨call, attended, .sent s⟩) {call' : Call}
    (same : call'.number = call.number) (s' : Submission) :
    (h.instead call' s').move m = some (h'.instead call' s', signs) ∧
      ∃ attended', h'.holder = some ⟨call, attended', .sent s⟩ := by
  have hholds := holder_instead holds call' s'
  cases hs with
  | enter call₀ => exact ⟨rfl, attended, holds⟩
  | takeBack number waits =>
    exact ⟨move_of_step (.takeBack (h.instead call' s') number waits), attended, holds⟩
  | desert call₀ attended₀ stage holds₀ waitsNot =>
    rw [holds] at holds₀
    cases holds₀
    refine ⟨?_, false, rfl⟩
    rw [← same] at waitsNot ⊢
    exact move_of_step (.desert _ call' attended _ hholds waitsNot)
  | acquire call₀ queue s₀ free first prepared =>
    rw [holds] at free
    cases free
  | endEarly call₀ queue result free first prepared =>
    rw [holds] at free
    cases free
  | send call₀ attended₀ s₀ holds₀ =>
    rw [holds] at holds₀
    cases holds₀
  | grant call₀ attended₀ s₀ update holds₀ quiet => cases hm
  | fail call₀ attended₀ s₀ error holds₀ quiet => cases hm
  | breakOff call₀ attended₀ s₀ holds₀ quiet => cases hm
  | release call₀ attended₀ result holds₀ quiet =>
    rw [holds] at holds₀
    cases holds₀
  | ask request may =>
    obtain ⟨hflight, hqueue, hholder⟩ := ask_calls h request
    refine ⟨?_, attended, hholder.trans holds⟩
    rw [move_of_step (.ask (h.instead call' s') request may), Hub.instead, Hub.instead,
      ask_withCalls, hflight, hqueue, hholder]
  | proceed h' signs proceeds =>
    obtain ⟨hflight, hqueue, hholder⟩ := proceed_calls proceeds
    refine ⟨?_, attended, hholder.trans holds⟩
    have hproceed : (h.instead call' s').proceed = some (h'.instead call' s', signs) := by
      rw [Hub.instead, Hub.instead, proceed_withCalls, proceeds, hflight, hqueue, hholder]
      rfl
    exact move_of_step (.proceed _ _ signs hproceed)
  | finish callback rest runs =>
    exact ⟨move_of_step (.finish (h.instead call' s') callback rest runs), attended, holds⟩

theorem run_instead {h h' : Hub κ} {moves : List (Move κ)} {signs : List (Sign κ)}
    (hr : h.run moves = some (h', signs)) (hm : Move.answers moves = []) {call : Call}
    {attended : Bool} {s : Submission} (holds : h.holder = some ⟨call, attended, .sent s⟩)
    {call' : Call} (same : call'.number = call.number) (s' : Submission) :
    (h.instead call' s').run moves = some (h'.instead call' s', signs) ∧
      ∃ attended', h'.holder = some ⟨call, attended', .sent s⟩ := by
  induction moves generalizing h signs attended with
  | nil =>
    cases hr
    exact ⟨rfl, attended, holds⟩
  | cons m moves ih =>
    obtain ⟨h₁, first, more, hmove, hrest, rfl⟩ := run_cons_iff.mp hr
    rw [Move.answers_cons, List.append_eq_nil_iff, Option.toList_eq_nil_iff] at hm
    obtain ⟨hfirst, attended₁, holds₁⟩ := (step_of_move hmove).instead hm.1 holds same s'
    obtain ⟨hmore, hend⟩ := ih hrest hm.2 holds₁
    exact ⟨run_cons_iff.mpr ⟨_, first, more, hfirst, hmore, rfl⟩, hend⟩

/-! ## What the two ways come to -/

/-- The hubs `h` and `g` that an action and a submission have led to, which have been
answered in the hub `before`, show the same result. -/
structure Concur (server : SimulatedServer) (submitter : String) (state : RenderState)
    (before h g : Hub κ) (result : CallResult) : Prop where
  /-- A server that fails leaves both as they were. -/
  failed : server.failing = true →
    result = .error (.communication submitter (.communication SimulatedServer.failureText)) ∧
      h.store = before.store ∧ g.store = before.store ∧ h.delivery = [] ∧ g.delivery = []
  /-- A server at work leads both to the same records. -/
  records : server.failing = false → List.Forall₂ Record.Agrees h.store.records g.store.records
  /-- Both put up the same news, and the result has the state and who is told. -/
  news : server.failing = false → ∃ news news',
    StateChange.Match submitter news news' ∧
      h.delivery = [.turns (stampFrom before.made news)] ∧
      g.delivery = [.turns (stampFrom before.made news')] ∧
      result = .ok ⟨state, news.map StateChange.portlet⟩

/-- An action is submitted and, if it is granted, leads to the state with its
parameters bound. -/
theorem exists_action {store : Store} (number : Nat) {portlet : String} (p : Parameters)
    {own : Record} (found : store.get? portlet = some own) :
    ∃ s, prepare store ⟨number, portlet, .action p⟩ = .ok s ∧ reasonFor s = .action ∧
      (SimulatedServer.grant s).state = Edit.applyAll p.binds own.state ∧
      (SimulatedServer.grant s).Grants own (.action p) := by
  have hprepared : prepare store ⟨number, portlet, .action p⟩ =
      .ok (.action ⟨portlet, p, own.state, own.portlet.publicNames⟩) := by
    simp only [prepare, found]
  exact ⟨_, hprepared, rfl, SimulatedServer.merge_eq_applyAll _ p.entries own.state,
    (Update.grants_grant found hprepared).1⟩

theorem answer_of_works {server : SimulatedServer} (works : server.failing = false)
    (s : Submission) : (server.answer s).1 = .granted (SimulatedServer.grant s) := by
  rw [SimulatedServer.answer, works]
  rfl

theorem answer_of_fails {server : SimulatedServer} (fails : server.failing = true)
    (s : Submission) :
    (server.answer s).1 = .failed (.communication SimulatedServer.failureText) := by
  rw [SimulatedServer.answer, fails]
  rfl

/-- An action and a submission concur when they are answered, if what they are granted
is the same. -/
theorem concur_of_same {h : Hub κ} (hids : h.store.ids.Nodup) {call call' : Call}
    {attended : Bool} {s s' : Submission} (holds : h.holder = some ⟨call, attended, .sent s⟩)
    (quiet : h.delivery = []) {own : Record} (found : h.store.get? call.portlet = some own)
    (portlet : call'.portlet = call.portlet) (action : reasonFor s = .action)
    (submitted : reasonFor s' = .submitted) {state : RenderState} {changes changes' : List Change}
    (grants : SimulatedServer.grant s = ⟨state, changes⟩)
    (grants' : SimulatedServer.grant s' = ⟨state, changes'⟩)
    (same : Change.Same changes changes') (server : SimulatedServer) :
    ∃ h₁ g₁ result, h.move (.receive (server.answer s).1) = some (h₁, []) ∧
      (h.instead call' s').move (.receive (server.answer s').1) = some (g₁, []) ∧
      h₁.holder = some ⟨call, attended, .over result⟩ ∧
      g₁.holder = some ⟨call', attended, .over result⟩ ∧
      Concur server call.portlet state h h₁ g₁ result := by
  have holds' := holder_instead holds call' s'
  cases hworks : server.failing with
  | true =>
    rw [answer_of_fails hworks, answer_of_fails hworks]
    refine ⟨_, _, _, move_of_step (.fail h call attended s _ holds quiet),
      move_of_step (.fail _ call' attended s' _ holds' quiet), rfl, ?_, ?_⟩
    · rw [portlet]
      rfl
    · have hnot : server.failing ≠ false := by
        rw [hworks]
        exact Bool.noConfusion
      exact ⟨fun _ => ⟨rfl, rfl, rfl, quiet, quiet⟩, fun h => absurd h hnot,
        fun h => absurd h hnot⟩
  | false =>
    obtain ⟨hrecords, hmatch⟩ := Store.rearranged_commit hids found state same
    have houtcome := outcomeOf_commit hids found ⟨state, changes⟩ .action
    have houtcome' := outcomeOf_commit hids found ⟨state, changes'⟩ .submitted
    rw [← hmatch.portlets_eq] at houtcome'
    rw [answer_of_works hworks, answer_of_works hworks, grants, grants']
    let news := (h.store.commit call.portlet ⟨state, changes⟩ .action).1
    refine ⟨_, _, .ok ⟨state, news.map StateChange.portlet⟩,
      move_of_step (.grant h call attended s _ holds quiet),
      move_of_step (.grant _ call' attended s' _ holds' quiet), ?_, ?_, ?_⟩
    · rw [← houtcome, ← action]
      rfl
    · rw [← houtcome', ← submitted, ← portlet]
      rfl
    · refine ⟨fun h => absurd (hworks.symm.trans h) Bool.noConfusion, fun _ => ?_,
        fun _ => ⟨_, _, hmatch, ?_, ?_, rfl⟩⟩
      · rw [← action, ← submitted] at hrecords
        simp only [Hub.commit, portlet]
        exact hrecords
      · rw [← action]
        rfl
      · rw [← submitted, ← portlet]
        rfl

/-- An action whose parameters are bound already is granted without a change. -/
theorem grant_of_present {h : Hub κ} (hids : h.store.ids.Nodup) {call : Call}
    {attended : Bool} {s : Submission} (holds : h.holder = some ⟨call, attended, .sent s⟩)
    (quiet : h.delivery = []) {own : Record} (found : h.store.get? call.portlet = some own)
    (action : reasonFor s = .action)
    (grants : SimulatedServer.grant s = ⟨own.state, []⟩) {server : SimulatedServer}
    (works : server.failing = false) :
    ∃ h₁, h.move (.receive (server.answer s).1) = some (h₁, []) ∧ h₁.store = h.store ∧
      h₁.holder = some ⟨call, attended, .over (.ok ⟨own.state, [call.portlet]⟩)⟩ ∧
      h₁.delivery = [.turns [(h.made,
        ⟨call.portlet, .action, own.state, [], false, false⟩)]] := by
  obtain ⟨hstore, hnobody⟩ := Store.commit_present hids found .action
  have hnews : (h.store.commit call.portlet ⟨own.state, []⟩ .action).1 =
      [⟨call.portlet, .action, own.state, [], false, false⟩] := by
    rw [Store.commit_fst hids found, hnobody, Record.replace_present,
      (Store.mem_of_get? found).2]
  have houtcome := outcomeOf_commit hids found ⟨own.state, []⟩ .action
  rw [hnews] at houtcome
  rw [answer_of_works works, grants]
  refine ⟨_, move_of_step (.grant h call attended s _ holds quiet), ?_, ?_, ?_⟩
  · simp only [Hub.commit, action]
    exact hstore
  · simp only [Hub.commit, action, hnews]
    rw [houtcome]
    rfl
  · simp only [Hub.commit, action, hnews]
    rfl

/-- Whenever it is the turn of a call for an action, take the state that the action's
parameters lead to when they are bound one after the other, and suppose that the call
had been for that state instead.  (A call that is put to a hub at rest has its turn at
once.)

* If that state differs from the authoritative one, both calls make a round trip.
  Whatever happens while the server considers the one can happen while it considers
  the other, and when they are answered at the same moment both concur: they fail in
  the same way, or lead to the same records, the same news and the same result.
* If it does not differ, the call for the state ends without a round trip.  The call
  for the action makes one, and when the server is at work that leaves the records as
  they are.  The only news is that of the portlet, with no name in it. -/
theorem action_agrees_with_submission {h g : Hub κ} (reach : h.Reachable)
    (free : h.holder = none) {number : Nat} {portlet : String} {p : Parameters}
    {queue : List Call} (first : h.queue = ⟨number, portlet, .action p⟩ :: queue)
    {own : Record} (found : h.store.get? portlet = some own) {state : RenderState}
    (leads : state = Edit.applyAll p.binds own.state)
    (instead : g = { h with queue := ⟨number, portlet, .state state⟩ :: queue })
    (server : SimulatedServer) :
    ∃ s h₁, h.run [.acquire, .send] = some (h₁, [.sent s]) ∧
      (own.state.agrees state = false →
        ∃ s' g₁, g.run [.acquire, .send] = some (g₁, [.sent s']) ∧
          ∀ between h₂ signs, h₁.run between = some (h₂, signs) →
            Move.answers between = [] → h₂.delivery = [] →
            ∃ g₂ h₃ g₃ attended result, g₁.run between = some (g₂, signs) ∧
              h₂.move (.receive (server.answer s).1) = some (h₃, []) ∧
              g₂.move (.receive (server.answer s').1) = some (g₃, []) ∧
              h₃.holder = some ⟨⟨number, portlet, .action p⟩, attended, .over result⟩ ∧
              g₃.holder = some ⟨⟨number, portlet, .state state⟩, attended, .over result⟩ ∧
              Concur server portlet state h₂ h₃ g₃ result) ∧
      (own.state.agrees state = true →
        (∃ g₁, g.run [.acquire] = some (g₁, [.ended number (.ok ⟨own.state, []⟩)]) ∧
          g₁.holder = none ∧ g₁.store = h.store) ∧
        (server.failing = false →
          ∀ between h₂ signs, h₁.run between = some (h₂, signs) →
            Move.answers between = [] → h₂.delivery = [] →
            ∃ h₃ attended, h₂.move (.receive (server.answer s).1) = some (h₃, []) ∧
              h₃.store = h₂.store ∧
              h₃.holder = some ⟨⟨number, portlet, .action p⟩, attended,
                .over (.ok ⟨own.state, [portlet]⟩)⟩ ∧
              h₃.delivery = [.turns [(h₂.made,
                ⟨portlet, .action, own.state, [], false, false⟩)]])) := by
  subst instead
  let call' : Call := ⟨number, portlet, .state state⟩
  let g : Hub κ := { h with queue := call' :: queue }
  obtain ⟨s, hprepared, haction, hstate, hgrants⟩ := exists_action number p found
  rw [← leads] at hstate
  let h₁ : Hub κ :=
    { h with queue := queue, holder := some ⟨⟨number, portlet, .action p⟩, true, .sent s⟩ }
  have hsend : h.run [.acquire, .send] = some (h₁, [.sent s]) := run_send free first hprepared
  have reach₁ : h₁.Reachable := reach.run hsend
  -- the portlet is found with the same state when the answer comes
  have hbetween : ∀ {between h₂ signs}, h₁.run between = some (h₂, signs) →
      Move.answers between = [] → h₂.store.ids.Nodup ∧
        ∃ own₂, h₂.store.get? portlet = some own₂ ∧ own₂.state = own.state := by
    intro between h₂ signs hr hm
    refine ⟨(reach₁.run hr).sound.ids, ?_⟩
    have hpicture := (run_undecided hr hm ⟨true, _, rfl, rfl⟩).2
    have hget := Store.state?_of_picture_eq hpicture portlet
    rw [Store.state?, Store.state?, found, Option.map_some, Option.map_eq_some_iff] at hget
    exact hget
  refine ⟨s, h₁, hsend, ?_, ?_⟩
  · intro differs
    have hprepared' : prepare h.store call' =
        .ok (.state ⟨portlet, Delta.between own.state state own.isPublic, state⟩) :=
      prepare_state found rfl differs
    obtain ⟨hgrants', hsubmitted⟩ := Update.grants_grant found hprepared'
    refine ⟨_, _, run_send (h := g) free rfl hprepared', ?_⟩
    intro between h₂ signs hr hm quiet
    have hnumber : call'.number = number := rfl
    obtain ⟨hrun, attended, holds⟩ := run_instead hr hm rfl hnumber _
    obtain ⟨hids, own₂, found₂, _⟩ := hbetween hr hm
    have hsame := hgrants.same (by rw [hstate]; exact hgrants')
    have hportlet : call'.portlet = portlet := rfl
    obtain ⟨h₃, g₃, result, hmoves⟩ := concur_of_same hids holds quiet found₂ hportlet haction
      hsubmitted (by rw [← hstate]) rfl hsame server
    exact ⟨_, h₃, g₃, attended, result, hrun, hmoves⟩
  · intro present
    have hpresent : state = own.state := by
      rw [leads] at present ⊢
      exact Edit.applyAll_binds_of_agrees present
    have hprepared' : prepare h.store call' = .error (.ok ⟨own.state, []⟩) :=
      prepare_present found rfl present
    have hend := move_of_step (.endEarly g _ queue _ free rfl hprepared')
    rw [← run_singleton] at hend
    refine ⟨⟨_, hend, free, rfl⟩, ?_⟩
    intro works between h₂ signs hr hm quiet
    obtain ⟨attended, holds⟩ := sent_of_undecided rfl hr hm
    obtain ⟨hids, own₂, found₂, hown₂⟩ := hbetween hr hm
    have hnothing : SimulatedServer.grant s = ⟨own₂.state, []⟩ := by
      rw [hown₂, ← hpresent, ← hstate, ← hgrants.publicChanges_eq_nil]
      rw [hstate]
      exact present
    obtain ⟨h₃, hmove, hstore, hholder, hdelivery⟩ :=
      grant_of_present hids holds quiet found₂ haction hnothing works
    rw [hown₂] at hholder hdelivery
    exact ⟨h₃, attended, hmove, hstore, hholder, hdelivery⟩

/-- The weather report asks by an action for the city that `weatherCall` submits. -/
def weatherAction : Call := ⟨0, "weather", .action (.ofEntries [("city", [some "Oslo"])])⟩

/-- What is sent for it. -/
def actionSubmission : Submission :=
  .action ⟨"weather", .ofEntries [("city", [some "Oslo"])], ⟨"VIEW", "NORMAL", .empty⟩,
    ["city", "zoom"]⟩

/-- By an action or by a submission the weather report comes to the same records, and
in both cases it learns that the map has been told. -/
theorem weather_by_action :
    ∃ h g result,
      Sample.hub.run [.enter weatherAction, .acquire, .send,
        .receive (({} : SimulatedServer).answer actionSubmission).1] =
          some (h, [.sent actionSubmission]) ∧
      Sample.hub.run [.enter weatherCall, .acquire, .send,
        .receive (({} : SimulatedServer).answer weatherSubmission).1] =
          some (g, [.sent weatherSubmission]) ∧
      List.Forall₂ Record.Agrees h.store.records g.store.records ∧
      h.holder = some ⟨weatherAction, true, .over (.ok result)⟩ ∧
      g.holder = some ⟨weatherCall, true, .over (.ok result)⟩ ∧
      result.notified = ["weather", "map"] := by
  let waiting : Hub Unit := { Sample.hub with inFlight := 1, queue := [weatherAction] }
  have reach : waiting.Reachable :=
    ⟨Sample.page, {}, Sample.hub, [.enter weatherAction], [], rfl, rfl⟩
  have found : waiting.store.get? "weather" = some weatherRecord := rfl
  have leads : ⟨"VIEW", "NORMAL", .ofEntries [("city", [some "Oslo"])]⟩ =
      Edit.applyAll (Parameters.ofEntries [("city", [some "Oslo"])]).binds
        weatherRecord.state := rfl
  obtain ⟨s, h₁, hsend, hdiffers, _⟩ :=
    action_agrees_with_submission reach rfl rfl found leads rfl {}
  obtain ⟨s', g₁, hsend', hanswers⟩ := hdiffers (by decide)
  have hwaits : waiting.run [.acquire, .send] =
      some ({ Sample.hub with
        inFlight := 1, holder := some ⟨weatherAction, true, .sent actionSubmission⟩ },
        [.sent actionSubmission]) := rfl
  have hwaits' : ({ waiting with queue := [weatherCall] } : Hub Unit).run [.acquire, .send] =
      some (weatherWaits, [.sent weatherSubmission]) := rfl
  cases hwaits.symm.trans hsend
  cases hwaits'.symm.trans hsend'
  obtain ⟨g₂, h₃, g₃, attended, result, hbetween, hmove, hmove', hholder, hholder', hconcur⟩ :=
    hanswers [] _ [] rfl rfl rfl
  cases hbetween
  have hcommit : ({ Sample.hub with
      inFlight := 1, holder := some ⟨weatherAction, true, .sent actionSubmission⟩ } :
        Hub Unit).move (.receive (.granted (SimulatedServer.grant actionSubmission))) =
      some (_, []) := rfl
  cases hmove.symm.trans hcommit
  have houtcome : some (⟨weatherAction, true, .over (.ok ⟨_, ["weather", "map"]⟩)⟩ : Holder) =
      some ⟨weatherAction, attended, .over result⟩ := hholder
  cases houtcome
  have hrun : Sample.hub.run [.enter weatherAction, .acquire, .send] =
      some (_, [.sent actionSubmission]) := rfl
  have hrun' : Sample.hub.run [.enter weatherCall, .acquire, .send] =
      some (weatherWaits, [.sent weatherSubmission]) := rfl
  exact ⟨_, g₃, _,
    run_append_iff.mpr ⟨_, _, [], hrun, (run_singleton _ _).trans hmove, rfl⟩,
    run_append_iff.mpr ⟨_, _, [], hrun', (run_singleton _ _).trans hmove', rfl⟩,
    hconcur.records rfl, hholder, hholder', rfl⟩

end Hub

end PortletPage
