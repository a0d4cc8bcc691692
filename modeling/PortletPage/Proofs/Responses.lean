import PortletPage.Hub.Move
import PortletPage.Proofs.Likeness

/-!
# What calls come to in stores that are alike

Take two stores that are alike but for the private matters of a portlet `X`, and
put calls to them that differ in such matters only.  The calls need not take the
same course.  A submission of `X` may change nothing in one store, so that nothing
is sent, and make a round trip in the other, which may even fail.

* `Wish.Alike` and `Call.Alike`: what may differ between the calls.
* `Update.Grants` says of an update that it does what a wish asks for, and a wish
  that is granted without a round trip has such an update as well.  So all courses
  that a call of `X` can take are instances of one commit
  (`Store.exists_commit_of_respond`).
* `Store.Alike.respond`: whatever course the calls take, the stores stay alike, and
  the other portlets are told the same.
-/

namespace PortletPage

/-! ## What may differ -/

/-- Two wishes differ in private matters only: in mode and window state, and in
bindings that are not shared. -/
inductive Wish.Alike (isPublic : String → Bool) : Wish → Wish → Prop
  | state (s s' : RenderState)
      (shared : ∀ name, isPublic name = true →
        s.parameters.get? name = s'.parameters.get? name) :
      Alike isPublic (.state s) (.state s')
  | action (p p' : Parameters)
      (shared : ∀ name, isPublic name = true → p.get? name = p'.get? name) :
      Alike isPublic (.action p) (.action p')

/-- Two calls are the same, or they are calls of `X` whose wishes differ in private
matters only. -/
structure Call.Alike (X : Portlet) (c c' : Call) : Prop where
  portlet : c'.portlet = c.portlet
  own : c.portlet = X.id → c.wish.Alike X.isPublic c'.wish
  other : c.portlet ≠ X.id → c'.wish = c.wish

/-! ## What wishes come to -/

/-- The binding of a name when the wish has been granted. -/
def Wish.binding (before : Parameters) (name : String) : Wish → Option Values
  | .state s => s.parameters.get? name
  | .action p => (p.get? name).or (before.get? name)

/-- Mode and window state when the wish has been granted. -/
def Wish.outfit (before : RenderState) : Wish → String × String
  | .state s => (s.mode, s.window)
  | .action _ => (before.mode, before.window)

/-- The update does what the wish of the submitter asks for and passes on what it
changes for others. -/
structure Update.Grants (update : Update) (own : Record) (w : Wish) : Prop where
  outfit : (update.state.mode, update.state.window) = w.outfit own.state
  binding : ∀ name, update.state.parameters.get? name = w.binding own.state.parameters name
  nodup : (update.publicChanges.map Change.name).Nodup
  mem_iff : ∀ c, c ∈ update.publicChanges ↔ own.isPublic c.name = true ∧
    own.state.parameters.get? c.name ≠ c.values ∧
      c.values = w.binding own.state.parameters c.name

/-- The reason that is given for a granted wish. -/
def Wish.reason : Wish → Reason
  | .state _ => .submitted
  | .action _ => .action

theorem Wish.Alike.reason_eq {isPublic : String → Bool} {w w' : Wish}
    (h : w.Alike isPublic w') : w'.reason = w.reason := by
  cases h <;> rfl

namespace Update

variable {own : Record} {call : Call}

/-- What the simulated server grants does what the call asks for. -/
theorem grants_grant {store : Store} {s : Submission}
    (hown : store.get? call.portlet = some own) (prepared : Hub.prepare store call = .ok s) :
    (SimulatedServer.grant s).Grants own call.wish ∧ Hub.reasonFor s = call.wish.reason := by
  simp only [Hub.prepare, hown] at prepared
  cases hwish : call.wish with
  | state state =>
    simp only [hwish] at prepared
    split at prepared
    · cases prepared
    · cases prepared
      refine ⟨⟨rfl, fun _ => rfl, Delta.nodup_names_publicChanges _ _ _, ?_⟩, rfl⟩
      intro c
      refine (Delta.mem_publicChanges own.state state own.isPublic c).trans ?_
      apply and_congr_right
      intro _
      apply and_congr_left
      intro hvalues
      rw [hvalues]
  | action parameters =>
    simp only [hwish] at prepared
    cases prepared
    obtain ⟨hmode, hwindow⟩ :=
      SimulatedServer.merge_state own.isPublic parameters.entries own.state
    refine ⟨⟨congrArg₂ Prod.mk hmode hwindow, ?_, ?_, ?_⟩, rfl⟩
    · exact SimulatedServer.get?_merge own.isPublic parameters.nodup own.state
    · exact parameters.nodup.sublist
        (SimulatedServer.names_merge_sublist own.isPublic parameters.entries own.state)
    · intro c
      refine (SimulatedServer.mem_merge own.isPublic parameters.nodup own.state c).trans ?_
      apply and_congr_right
      intro _
      apply and_congr_right
      intro hne
      show c.values ≠ none ∧ c.values = parameters.get? c.name ↔
        c.values = (parameters.get? c.name).or (own.state.parameters.get? c.name)
      cases hget : parameters.get? c.name with
      | none =>
        -- a name that the action does not bind keeps its binding
        refine iff_of_false (fun hc => hc.1 hc.2) ?_
        rw [Option.none_or]
        exact fun hc => hne hc.symm
      | some values =>
        rw [Option.some_or, and_iff_right_iff_imp]
        intro hc
        rw [hc]
        exact Option.some_ne_none values

/-- A state that agrees with the present one is granted by doing nothing. -/
theorem grants_of_agrees {state : RenderState} (h : own.state.agrees state = true) :
    (⟨own.state, []⟩ : Update).Grants own (.state state) := by
  obtain ⟨hmode, hwindow, hget⟩ := (RenderState.agrees_iff _ _).mp h
  refine ⟨by rw [Wish.outfit, hmode, hwindow], hget, List.nodup_nil, ?_⟩
  intro c
  refine iff_of_false List.not_mem_nil ?_
  intro hc
  exact hc.2.1 ((hget c.name).trans hc.2.2.symm)

variable {X : Portlet} {r r' : Record} {w w' : Wish} {update update' : Update}

/-- Wishes that are granted to records that are alike lead to updates that are
alike, if they are the same or differ in private matters of `X` only. -/
theorem Grants.alike (h : update.Grants r w) (h' : update'.Grants r' w') (hr : r.Alike X r')
    (own : r.portlet.id = X.id → w.Alike X.isPublic w')
    (other : r.portlet.id ≠ X.id → w' = w) : update.Alike X r.portlet.id update' := by
  have hbinding : ∀ name, r.isPublic name = true →
      w.binding r.state.parameters name = w'.binding r'.state.parameters name := by
    intro name hpublic
    have hget := hr.get?_eq hpublic
    by_cases hid : r.portlet.id = X.id
    · rw [Record.isPublic, hr.known hid] at hpublic
      cases own hid with
      | state s s' shared => exact shared name hpublic
      | action p p' shared => rw [Wish.binding, Wish.binding, shared name hpublic, hget]
    · rw [other hid]
      cases w with
      | state s => rfl
      | action p => rw [Wish.binding, Wish.binding, hget]
  refine ⟨⟨h.nodup, h'.nodup, ?_⟩, ?_, ?_⟩
  · intro c
    rw [h.mem_iff, h'.mem_iff, hr.isPublic_eq]
    apply and_congr_right
    intro hpublic
    rw [hr.get?_eq hpublic, hbinding _ hpublic]
  · intro hid name hpublic
    rw [h.binding, h'.binding]
    exact hbinding name (by rw [Record.isPublic, hr.known hid]; exact hpublic)
  · intro hid
    obtain ⟨hmode, hwindow, hget⟩ := (RenderState.agrees_iff _ _).mp (hr.whole hid)
    have houtfit : w.outfit r.state = w'.outfit r'.state := by
      rw [other hid]
      cases w with
      | state s => rfl
      | action p => rw [Wish.outfit, Wish.outfit, hmode, hwindow]
    have hboth := h.outfit.trans (houtfit.trans h'.outfit.symm)
    refine (RenderState.agrees_iff _ _).mpr
      ⟨congrArg Prod.fst hboth, congrArg Prod.snd hboth, ?_⟩
    intro name
    rw [h.binding, h'.binding, other hid]
    cases w with
    | state s => rfl
    | action p => rw [Wish.binding, Wish.binding, hget]

end Update

/-! ## What calls come to -/

namespace Store

/-- What a call comes to when the server fails every round trip or grants it: the
news, and the records afterwards. -/
def respond (s : Store) (failing : Bool) (call : Call) : List StateChange × Store :=
  match Hub.prepare s call with
  | .error _ => ([], s)
  | .ok submission =>
    if failing then ([], s)
    else s.commit call.portlet (SimulatedServer.grant submission) (Hub.reasonFor submission)

theorem respond_of_early {s : Store} {call : Call} {result : CallResult}
    (h : Hub.prepare s call = .error result) (failing : Bool) :
    s.respond failing call = ([], s) := by
  rw [respond, h]

theorem respond_of_sent {s : Store} {call : Call} {submission : Submission}
    (h : Hub.prepare s call = .ok submission) :
    s.respond false call =
      s.commit call.portlet (SimulatedServer.grant submission) (Hub.reasonFor submission) := by
  rw [Store.respond, h]
  rfl

theorem respond_failing (s : Store) (call : Call) : s.respond true call = ([], s) := by
  rw [respond]
  split <;> rfl

theorem ids_respond (s : Store) (failing : Bool) (call : Call) :
    (s.respond failing call).2.ids = s.ids := by
  rw [respond]
  split
  · rfl
  · split
    · rfl
    · rw [ids_eq, portlets_commit, ← ids_eq]

variable {X : Portlet} {s s' : Store}

/-- Stores that are alike find records that are alike. -/
theorem Alike.get? (h : s.Alike X s') (id : String) :
    (s.get? id = none ∧ s'.get? id = none) ∨
      ∃ r r', s.get? id = some r ∧ s'.get? id = some r' ∧ r.Alike X r' := by
  rw [Store.Alike] at h
  rw [Store.get?, Store.get?]
  generalize s.records = records at h
  generalize s'.records = records' at h
  induction h with
  | nil => exact .inl ⟨rfl, rfl⟩
  | @cons r r' records records' hr _ ih =>
    rw [List.find?_cons, List.find?_cons, hr.portlet]
    split
    · exact .inr ⟨r, r', rfl, rfl, hr⟩
    · exact ih

/-- A call of a portlet of the page ends before anything is sent if it submits a
state that agrees with the present one. -/
theorem early_iff {call : Call} {own : Record} (hown : s.get? call.portlet = some own) :
    (∃ result, Hub.prepare s call = .error result) ↔
      ∃ state, call.wish = .state state ∧ own.state.agrees state = true := by
  simp only [Hub.prepare, hown]
  cases hwish : call.wish with
  | state state =>
    simp only [Delta.isEmpty_between_iff, Wish.state.injEq, exists_eq_left']
    cases own.state.agrees state <;> simp
  | action parameters => simp

/-- To commit the present state of a portlet and no changes leaves the records as
they are, and nobody else is told anything. -/
theorem commit_present {own : Record} (hids : s.ids.Nodup) {submitter : String}
    (hown : s.get? submitter = some own) (reason : Reason) :
    (s.commit submitter ⟨own.state, []⟩ reason).2 = s ∧
      s.newsOfOthers submitter [] = [] := by
  refine ⟨?_, ?_⟩
  · have hsame : ∀ r ∈ s.records, r.follow submitter ⟨own.state, []⟩ = r := by
      intro r hr
      by_cases hid : r.portlet.id = submitter
      · have hget := (get?_eq_some_iff hids submitter r).mpr ⟨hr, hid⟩
        rw [hown] at hget
        cases hget
        rw [Record.follow, if_pos hid]
      · rw [Record.follow_other hid]
        rfl
    have hrecords := (List.map_congr_left hsame).trans (List.map_id' s.records)
    rw [← records_commit s submitter ⟨own.state, []⟩ reason] at hrecords
    exact congrArg Store.mk hrecords
  · rw [List.eq_nil_iff_forall_not_mem]
    intro news hnews
    obtain ⟨r, _, _, hrenewed, _⟩ := (mem_newsOfOthers _ _).mp hnews
    exact hrenewed rfl

/-- In effect a call of `X` that is not failed is a commit, be it that nothing is
sent: others are told nothing, and `X` has what it wants already. -/
theorem exists_commit_of_respond {call : Call} {own : Record} (hids : s.ids.Nodup)
    (hown : s.get? call.portlet = some own) (hid : call.portlet = X.id) :
    ∃ update : Update, update.Grants own call.wish ∧
      (s.respond false call).2 = (s.commit call.portlet update call.wish.reason).2 ∧
      StateChange.ofOthers X (s.respond false call).1 =
        StateChange.ofOthers X (s.commit call.portlet update call.wish.reason).1 := by
  cases hprepared : Hub.prepare s call with
  | ok submission =>
    obtain ⟨hgrants, hreason⟩ := Update.grants_grant hown hprepared
    refine ⟨SimulatedServer.grant submission, hgrants, ?_, ?_⟩ <;>
      rw [respond_of_sent hprepared, hreason]
  | error result =>
    obtain ⟨state, hwish, hagrees⟩ := (early_iff hown).mp ⟨result, hprepared⟩
    obtain ⟨hsame, hnobody⟩ := commit_present hids hown call.wish.reason
    refine ⟨⟨own.state, []⟩, hwish ▸ Update.grants_of_agrees hagrees, ?_, ?_⟩
    · rw [respond_of_early hprepared, hsame]
    · have hown' : own.portlet.id = X.id := (mem_of_get? hown).2.trans hid
      rw [respond_of_early hprepared, commit_fst hids hown, hnobody]
      simp [StateChange.ofOthers, Record.replace, hown']

/-- A call of `X` may take different courses in stores that are alike. -/
theorem Alike.respond_own (h : s.Alike X s') (hids : s.ids.Nodup) (hids' : s'.ids.Nodup)
    {call call' : Call} (hcall : call.Alike X call') (hX : call.portlet = X.id)
    {r r' : Record} (hfound : s.get? call.portlet = some r)
    (hfound' : s'.get? call'.portlet = some r') (hr : r.Alike X r') :
    (s.respond false call).2.Alike X (s'.respond false call').2 ∧
      List.Forall₂ StateChange.Alike
        (StateChange.ofOthers X (s.respond false call).1)
        (StateChange.ofOthers X (s'.respond false call').1) := by
  obtain ⟨u, hu, hstore, hnews⟩ := exists_commit_of_respond hids hfound hX
  obtain ⟨u', hu', hstore', hnews'⟩ :=
    exists_commit_of_respond hids' hfound' (hcall.portlet.trans hX)
  have hid : r.portlet.id = call.portlet := (mem_of_get? hfound).2
  have hwish := hcall.own hX
  have halike : u.Alike X call.portlet u' :=
    hid ▸ hu.alike hu' hr (fun _ => hwish) (fun hne => absurd (hid.trans hX) hne)
  rw [hstore, hnews, hstore', hnews', hwish.reason_eq, hcall.portlet]
  exact h.commit halike _

/-- A call of another portlet takes the same course in stores that are alike. -/
theorem Alike.respond_other (h : s.Alike X s') {call call' : Call} (hcall : call.Alike X call')
    (hX : call.portlet ≠ X.id) {r r' : Record} (hfound : s.get? call.portlet = some r)
    (hfound' : s'.get? call'.portlet = some r') (hr : r.Alike X r') :
    (s.respond false call).2.Alike X (s'.respond false call').2 ∧
      List.Forall₂ StateChange.Alike
        (StateChange.ofOthers X (s.respond false call).1)
        (StateChange.ofOthers X (s'.respond false call').1) := by
  have hid : r.portlet.id = call.portlet := (mem_of_get? hfound).2
  have hwish := hcall.other hX
  have hearly : (∃ result, Hub.prepare s call = .error result) ↔
      ∃ result, Hub.prepare s' call' = .error result := by
    obtain ⟨hmode, hwindow, hget⟩ :=
      (RenderState.agrees_iff _ _).mp (hr.whole (by rw [hid]; exact hX))
    simp only [early_iff hfound, early_iff hfound', hwish, RenderState.agrees_iff, hmode,
      hwindow, hget]
  cases hprepared : Hub.prepare s call with
  | error result =>
    obtain ⟨result', hprepared'⟩ := hearly.mp ⟨result, hprepared⟩
    rw [respond_of_early hprepared, respond_of_early hprepared']
    exact ⟨h, .nil⟩
  | ok submission =>
    cases hprepared' : Hub.prepare s' call' with
    | error result' =>
      obtain ⟨result, hnot⟩ := hearly.mpr ⟨result', hprepared'⟩
      rw [hprepared] at hnot
      cases hnot
    | ok submission' =>
      obtain ⟨hu, hreason⟩ := Update.grants_grant hfound hprepared
      obtain ⟨hu', hreason'⟩ := Update.grants_grant hfound' hprepared'
      have halike : (SimulatedServer.grant submission).Alike X call.portlet
          (SimulatedServer.grant submission') :=
        hid ▸ hu.alike hu' hr (fun heq => absurd (hid.symm.trans heq) hX) (fun _ => hwish)
      rw [respond_of_sent hprepared, respond_of_sent hprepared', hreason, hreason', hwish,
        hcall.portlet]
      exact h.commit halike _

/-- Whatever course a call takes in stores that are alike, they stay alike, and so
does what the portlets other than `X` are told. -/
theorem Alike.respond (h : s.Alike X s') (hids : s.ids.Nodup) (hids' : s'.ids.Nodup)
    {call call' : Call} (hcall : call.Alike X call') (failing : Bool) :
    (s.respond failing call).2.Alike X (s'.respond failing call').2 ∧
      List.Forall₂ StateChange.Alike
        (StateChange.ofOthers X (s.respond failing call).1)
        (StateChange.ofOthers X (s'.respond failing call').1) := by
  cases failing with
  | true =>
    rw [respond_failing, respond_failing]
    exact ⟨h, .nil⟩
  | false =>
    rcases h.get? call.portlet with ⟨hfound, hfound'⟩ | ⟨r, r', hfound, hfound', hr⟩
    · rw [← hcall.portlet] at hfound'
      have hprepared : ∀ {t : Store} {c : Call}, t.get? c.portlet = none →
          Hub.prepare t c = .error (.error (.unknownPortlet c.portlet)) := by
        intro t c hnone
        rw [Hub.prepare, hnone]
      rw [respond_of_early (hprepared hfound), respond_of_early (hprepared hfound')]
      exact ⟨h, .nil⟩
    · rw [← hcall.portlet] at hfound'
      by_cases hX : call.portlet = X.id
      · exact h.respond_own hids hids' hcall hX hfound hfound' hr
      · exact h.respond_other hcall hX hfound hfound' hr

end Store

end PortletPage
