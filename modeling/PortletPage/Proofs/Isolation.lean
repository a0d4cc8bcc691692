import PortletPage.Proofs.Effect
import PortletPage.Proofs.Lock

/-!
# Isolation of portlets

What holds of the records of a page whatever the server answers.

* The page itself does not change.  A valid page is `Page.Orderly`, and every hub that
  a run leads to has its portlets in its order.
* Marks.  A record becomes marked as registered by a request to register its portlet,
  and stays marked (`Record.MarkedBy`, `Step.marked`).
* States.  `Record.Reached` says how far changes that another portlet caused may reach
  into a record: to the names that its portlet declares public and that the changes
  mention.  `Record.reached_receive` proves it of any list of changes.
* Outcomes.  A call that is granted finds the record of its portlet, so what its caller
  learns is the state of the record (`Hub.Settled`, `Step.settled`).

`Hub.portlets_are_isolated` puts this together for runs.
-/

namespace PortletPage

/-! ## How far changes reach -/

namespace Change

/-- Changes of names that are dropped do not change the order of those that are kept. -/
theorem filter_names_applyAllNaming {keep : String → Bool} {changes : List Change}
    (h : ∀ c ∈ changes, keep c.name = false) (p : Parameters) :
    (applyAllNaming changes p).2.names.filter keep = p.names.filter keep := by
  induction changes generalizing p with
  | nil => rfl
  | cons c rest ih =>
    obtain ⟨hc, hrest⟩ := List.forall_mem_cons.mp h
    rw [applyAllNaming_cons_parameters, ih hrest, filter_names_apply hc]

end Change

namespace Record

/-- Whether changes that another portlet caused may reach a name: the portlet
declares it public, and some change mentions it. -/
def isReachable (r : Record) (changes : List Change) (name : String) : Bool :=
  r.isPublic name && (changes.map Change.name).contains name

/-- The second record is the first one, but for bindings that the changes may reach. -/
structure Reached (changes : List Change) (r r' : Record) : Prop where
  portlet : r'.portlet = r.portlet
  registered : r'.registered = r.registered
  mode : r'.state.mode = r.state.mode
  window : r'.state.window = r.state.window
  binding : ∀ name, r.isReachable changes name = false →
    r'.state.parameters.get? name = r.state.parameters.get? name
  order : (r'.state.parameters.names.filter fun name => !r.isReachable changes name) =
    r.state.parameters.names.filter fun name => !r.isReachable changes name

/-- Whatever the changes are, they reach no further. -/
theorem reached_receive (r : Record) (changes : List Change) :
    Reached changes r (r.receive changes).2 where
  portlet := rfl
  registered := rfl
  mode := rfl
  window := rfl
  binding := by
    intro name h
    rw [get?_receive]
    by_cases hpublic : r.isPublic name = true
    · have hnot : name ∉ changes.map Change.name := by simpa [isReachable, hpublic] using h
      rw [Change.last?_eq_none hnot]
      simp
    · rw [if_neg hpublic]
  order := by
    refine Change.filter_names_applyAllNaming ?_ r.state.parameters
    intro c hc
    obtain ⟨hc, hpublic⟩ := List.mem_filter.mp hc
    simp only [isReachable, hpublic, Bool.true_and, Bool.not_eq_false', List.contains_iff_mem]
    exact List.mem_map.mpr ⟨c, hc, rfl⟩

/-- What a commit may make of a record: the submitter gets the state that was granted,
and the changes reach the others. -/
def CommittedBy (submitter : String) (update : Update) (r r' : Record) : Prop :=
  if r.portlet.id = submitter then r' = { r with state := update.state }
  else Reached update.publicChanges r r'

theorem committedBy_follow (r : Record) (submitter : String) (update : Update) :
    CommittedBy submitter update r (r.follow submitter update) := by
  unfold CommittedBy follow
  split
  · rfl
  · exact reached_receive r update.publicChanges

/-- What a move may do to the mark of a record. -/
structure MarkedBy {κ : Type} (m : Move κ) (r r' : Record) : Prop where
  portlet : r'.portlet = r.portlet
  kept : r.registered = true → r'.registered = true
  asked : r'.registered ≠ r.registered → m = .ask (.register r.portlet.id)

theorem MarkedBy.of_same {κ : Type} {m : Move κ} {r r' : Record} (hp : r'.portlet = r.portlet)
    (hr : r'.registered = r.registered) : MarkedBy m r r' :=
  ⟨hp, fun h => hr.trans h, fun h => absurd hr h⟩

end Record

namespace Store

theorem marked_refl {κ : Type} (m : Move κ) (records : List Record) :
    List.Forall₂ (Record.MarkedBy m) records records :=
  List.forall₂_same.mpr fun _ _ => .of_same rfl rfl

/-- Only the record of the portlet that is registered is marked. -/
theorem marked_heed {κ : Type} (s : Store) (request : Request κ) :
    List.Forall₂ (Record.MarkedBy (.ask request)) s.records (s.heed request).records := by
  cases request with
  | register portlet =>
    show List.Forall₂ _ s.records (s.records.map fun r =>
      if r.portlet.id = portlet then { r with registered := true } else r)
    rw [List.forall₂_map_right_iff, List.forall₂_same]
    intro r _
    split
    · rename_i hid
      exact ⟨rfl, fun _ => rfl, fun _ => by rw [hid]⟩
    · exact .of_same rfl rfl
  | _ => exact marked_refl _ _

/-- A commit marks no record. -/
theorem marked_commit {κ : Type} (m : Move κ) (s : Store) (submitter : String)
    (update : Update) (reason : Reason) :
    List.Forall₂ (Record.MarkedBy m) s.records
      (s.commit submitter update reason).2.records := by
  rw [records_commit, List.forall₂_map_right_iff, List.forall₂_same]
  intro r _
  refine .of_same (r.follow_portlet submitter update) ?_
  unfold Record.follow
  split <;> rfl

/-- A record that has been marked is found marked. -/
theorem exists_marked {s : Store} {id : String} {r : Record} (hget : s.get? id = some r) :
    (s.register id).get? id = some { r with registered := true } := by
  obtain ⟨_, hid⟩ := mem_of_get? hget
  have hfind : (fun q : Record => (if q.portlet.id = id then
      { q with registered := true } else q).portlet.id == id) = fun q => q.portlet.id == id := by
    funext q
    split <;> rfl
  rw [get?, register, List.find?_map]
  simp only [Function.comp_def, hfind]
  rw [show s.records.find? (fun q => q.portlet.id == id) = some r from hget, Option.map_some,
    if_pos hid]

end Store

namespace Hub

variable {κ : Type}

/-! ## Marks -/

/-- Every step leaves the marks alone but for a request to register. -/
theorem Step.marked {h h' : Hub κ} {m : Move κ} {signs : List (Sign κ)}
    (hs : Step h m h' signs) (tidy : h.registry.Tidy) :
    List.Forall₂ (Record.MarkedBy m) h.store.records h'.store.records := by
  cases hs with
  | grant call attended s update holds quiet => exact Store.marked_commit _ _ _ _ _
  | ask request may =>
    rw [ask_eq tidy]
    exact Store.marked_heed h.store request
  | proceed h' signs proceeds =>
    rw [store_proceed proceeds]
    exact Store.marked_refl _ _
  | _ => exact Store.marked_refl _ _

/-- The portlet is on the page and has been registered. -/
def HasRegistered (h : Hub κ) (id : String) : Prop :=
  ∃ r, h.store.get? id = some r ∧ r.registered = true

/-- Once registered, a portlet stays registered. -/
theorem Step.hasRegistered {h h' : Hub κ} {m : Move κ} {signs : List (Sign κ)}
    (hs : Step h m h' signs) (tidy : h.registry.Tidy) {id : String}
    (hr : h.HasRegistered id) : h'.HasRegistered id := by
  obtain ⟨r, hget, hmark⟩ := hr
  have hmarked := hs.marked tidy
  rw [Store.get?] at hget
  rw [HasRegistered, Store.get?]
  generalize h.store.records = records at hmarked hget
  generalize h'.store.records = records' at hmarked
  induction hmarked with
  | nil => cases hget
  | @cons q q' records records' hq _ ih =>
    rw [List.find?_cons] at hget ⊢
    rw [hq.portlet]
    split at hget
    · cases hget
      exact ⟨q', rfl, hq.kept hmark⟩
    · exact ih hget

/-- A request to register that is answered so has marked the portlet. -/
theorem hasRegistered_ask {h : Hub κ} {id : String}
    (answered : (h.ask (.register id)).delivery = .reply .registered :: h.delivery) :
    (h.ask (.register id)).HasRegistered id := by
  rw [ask, register] at answered ⊢
  split at answered
  · rename_i r hget
    exact ⟨_, Store.exists_marked hget, rfl⟩
  · simp [deliver] at answered

/-! ## Outcomes -/

/-- The outcome of the call that holds the lock shows the state of its portlet. -/
def Settled (h : Hub κ) : Prop :=
  ∀ call attended outcome, h.holder = some ⟨call, attended, .over (.ok outcome)⟩ →
    h.store.state? call.portlet = some outcome.state

/-- The news of a granted update begin with those of the submitter. -/
theorem Sound.exists_commit {h : Hub κ} (hi : h.Sound) {call : Call} {attended : Bool}
    {s : Submission} (holds : h.holder = some ⟨call, attended, .sent s⟩) (update : Update) :
    ∃ first rest, (h.store.commit call.portlet update (reasonFor s)).1 = first :: rest ∧
      first.portlet = call.portlet ∧ first.state = update.state ∧
      (h.store.commit call.portlet update (reasonFor s)).2.state? call.portlet =
        some update.state := by
  obtain ⟨own, hown⟩ := hi.found holds rfl
  exact ⟨_, _, Store.commit_fst hi.ids hown update _, (Store.mem_of_get? hown).2, rfl,
    Store.state?_commit_submitter hown update _⟩

/-- Every step keeps it so. -/
theorem Step.settled {h h' : Hub κ} {m : Move κ} {signs : List (Sign κ)}
    (hs : Step h m h' signs) (hi : h.Sound) (settled : h.Settled) : h'.Settled := by
  have hkept : (∀ update, m ≠ .receive (.granted update)) →
      ∀ id, h'.store.state? id = h.store.state? id := fun hm =>
    Store.state?_of_picture_eq (hs.picture_eq hm)
  intro call attended outcome holds
  cases hs with
  | desert call' attended' stage holds' waitsNot =>
    cases holds
    exact settled call attended' outcome holds'
  | acquire call' queue s free first prepared => cases holds
  | endEarly call' queue result free first prepared =>
    rw [show _ = none from free] at holds
    cases holds
  | send call' attended' s holds' => cases holds
  | grant call' attended' s update holds' quiet =>
    obtain ⟨first, rest, hnews, hportlet, hstate, hfound⟩ := hi.exists_commit holds' update
    have houtcome : outcomeOf call'.portlet
        (h.store.commit call'.portlet update (reasonFor s)).1 =
          ⟨update.state, (first :: rest).map StateChange.portlet⟩ := by
      rw [hnews, outcomeOf_cons hportlet, hstate]
    have heq : some (⟨call', attended', .over (.ok (outcomeOf call'.portlet
        (h.store.commit call'.portlet update (reasonFor s)).1))⟩ : Holder) =
          some ⟨call, attended, .over (.ok outcome)⟩ := holds
    rw [houtcome] at heq
    cases heq
    exact hfound
  | fail call' attended' s error holds' quiet => cases holds
  | breakOff call' attended' s holds' quiet => cases holds
  | release call' attended' result holds' quiet => cases holds
  | ask request may =>
    rw [(ask_calls h request).2.2] at holds
    rw [hkept (fun _ heq => nomatch heq)]
    exact settled call attended outcome holds
  | proceed h' signs proceeds =>
    rw [(proceed_calls proceeds).2.2] at holds
    rw [hkept (fun _ heq => nomatch heq)]
    exact settled call attended outcome holds
  | _ => exact settled call attended outcome holds

/-- What a caller learns of a call without failure is the state of its portlet. -/
theorem Settled.of_ended {h h' : Hub κ} {m : Move κ} {signs : List (Sign κ)}
    (settled : h.Settled) (hm : h.move m = some (h', signs)) {number : Nat}
    {outcome : Outcome} (ended : .ended number (.ok outcome) ∈ signs) :
    ∃ call ∈ h.present, call.number = number ∧
      h'.store.state? call.portlet = some outcome.state := by
  cases step_of_move hm with
  | endEarly call queue result free first prepared =>
    rw [List.mem_singleton] at ended
    cases ended
    refine ⟨call, by simp [present, first], rfl, ?_⟩
    simp only [prepare] at prepared
    split at prepared
    · cases prepared
    · rename_i r hget
      split at prepared
      · split at prepared
        · cases prepared
          show (h.store.get? call.portlet).map Record.state = _
          rw [hget]
          rfl
        · cases prepared
      · cases prepared
  | release call attended result holds quiet =>
    split at ended
    · rw [List.mem_singleton] at ended
      cases ended
      exact ⟨call, by simp [present, locked, holds], rfl, settled call attended outcome holds⟩
    · cases ended
  | send call attended s holds =>
    rw [List.mem_singleton] at ended
    cases ended
  | proceed h' signs proceeds =>
    have hnone : (number, .ok outcome) ∈ Sign.results signs :=
      List.mem_filterMap.mpr ⟨_, ended, rfl⟩
    rw [(proceed_signs proceeds).2] at hnone
    cases hnone
  | _ => cases ended

theorem Reachable.settled {h : Hub κ} (reach : h.Reachable) : h.Settled := by
  obtain ⟨page, config, start, moves, signs, hp, hrun⟩ := reach
  have hstart : start.Settled := by
    intro call attended outcome holds
    rw [(atRest_of_ofPage hp).2] at holds
    cases holds
  have hboth := run_invariant (I := fun g => g.Sound ∧ g.Settled)
    (fun hs hi => ⟨hi.1.step hs, hs.settled hi.1 hi.2⟩) hrun ⟨sound_of_ofPage hp, hstart⟩
  exact hboth.2

/-- For every run on a valid page, whatever the server answers:

* the page is in order, and the hub has its portlets in its order;
* a record is marked by a request to register its portlet only, and stays marked, and
  no move but a granted answer changes a render state;
* a granted answer replaces the state of the submitter, which is found, and reaches into
  the records of others only where they share a name that it changes.  The outcome has
  the state that was granted, which is the submitter's state from then on;
* whoever has been registered is found in every later hub, and is shown the state of
  its record;
* a caller who learns of no failure learns the state that its portlet has. -/
theorem portlets_are_isolated {page : Page} {config : Config} {start h : Hub κ}
    (valid : ofPage page config = .ok start) {moves : List (Move κ)} {signs : List (Sign κ)}
    (runs : start.run moves = some (h, signs)) :
    (page.Orderly ∧ h.store.portlets = page.portlets) ∧
      (∀ m h₁ signs₁, h.move m = some (h₁, signs₁) →
        List.Forall₂ (Record.MarkedBy m) h.store.records h₁.store.records ∧
          ((∀ update, m ≠ .receive (.granted update)) →
            h₁.store.picture = h.store.picture)) ∧
      (∀ update h₁ signs₁, h.move (.receive (.granted update)) = some (h₁, signs₁) →
        ∃ call attended s first rest, h.holder = some ⟨call, attended, .sent s⟩ ∧
          List.Forall₂ (Record.CommittedBy call.portlet update) h.store.records
            h₁.store.records ∧
          h.store.commit call.portlet update (reasonFor s) = (first :: rest, h₁.store) ∧
          first.portlet = call.portlet ∧ first.state = update.state ∧
          h₁.holder = some ⟨call, attended,
            .over (.ok ⟨update.state, (first :: rest).map StateChange.portlet⟩)⟩ ∧
          h₁.store.state? call.portlet = some update.state) ∧
      (∀ before id after g seen, moves = before ++ .ask (.register id) :: after →
        start.run before = some (g, seen) →
        (g.ask (.register id)).delivery = .reply .registered :: g.delivery →
        ∃ r, h.store.get? id = some r ∧ r.registered = true ∧ h.renderState id = r.state) ∧
      (∀ m h₁ signs₁ number outcome, h.move m = some (h₁, signs₁) →
        .ended number (.ok outcome) ∈ signs₁ →
        ∃ call ∈ h.present, call.number = number ∧
          h₁.store.state? call.portlet = some outcome.state) := by
  have reach : h.Reachable := ⟨page, config, start, moves, signs, valid, runs⟩
  refine ⟨⟨?_, ?_⟩, ?_, ?_, ?_, ?_⟩
  · unfold ofPage at valid
    split at valid
    · rename_i page' hvalid
      exact Page.orderly_of_validate hvalid
    · cases valid
  · have hkept := run_invariant (I := fun g => g.store.portlets = page.portlets)
      (fun hs hi => hs.portlets_eq.trans hi) runs
    apply hkept
    obtain ⟨_, rfl⟩ := start_of_ofPage valid
    exact Store.portlets_ofPage page
  · intro m h₁ signs₁ hm
    have hs := step_of_move hm
    exact ⟨hs.marked reach.tidy, hs.picture_eq⟩
  · intro update h₁ signs₁ hm
    cases step_of_move hm with
    | grant call attended s update holds quiet =>
      obtain ⟨first, rest, hnews, hportlet, hstate, hfound⟩ :=
        reach.sound.exists_commit holds update
      refine ⟨call, attended, s, first, rest, holds, ?_, ?_, hportlet, hstate, ?_, hfound⟩
      · show List.Forall₂ _ _ (h.store.records.map fun r => r.follow call.portlet update)
        rw [List.forall₂_map_right_iff, List.forall₂_same]
        exact fun r _ => r.committedBy_follow call.portlet update
      · exact Prod.ext hnews rfl
      · show some (⟨call, attended, .over (.ok (outcomeOf call.portlet
          (h.store.commit call.portlet update (reasonFor s)).1))⟩ : Holder) = _
        rw [hnews, outcomeOf_cons hportlet, hstate]
  · intro before id after g seen heq hbefore answered
    subst heq
    obtain ⟨g', first, later, hfirst, hlater, rfl⟩ := run_append_iff.mp runs
    rw [hbefore] at hfirst
    cases hfirst
    obtain ⟨g₁, second, more, hask, hafter, rfl⟩ := run_cons_iff.mp hlater
    have tidy := Reachable.tidy ⟨page, config, start, before, seen, valid, hbefore⟩
    have hregistered : g₁.HasRegistered id := by
      cases step_of_move hask with
      | ask request may => exact hasRegistered_ask answered
    have hboth := run_invariant (I := fun g => g.registry.Tidy ∧ g.HasRegistered id)
      (fun hs hi => ⟨hs.tidy hi.1, hs.hasRegistered hi.1 hi.2⟩) hafter
      ⟨(step_of_move hask).tidy tidy, hregistered⟩
    obtain ⟨r, hget, hmark⟩ := hboth.2
    refine ⟨r, hget, hmark, ?_⟩
    rw [renderState, Store.state?, hget]
    rfl
  · intro m h₁ signs₁ number outcome hm ended
    exact reach.settled.of_ended hm ended

/-- An answer that amends the state of the weather report, and mentions names that
other portlets share, keep for themselves, or do not know. -/
def amendment : Update :=
  ⟨⟨"HELP", "NORMAL", .ofEntries [("unit", [none])]⟩,
    [⟨"city", none⟩, ⟨"unit", some []⟩, ⟨"zoom", some [some "3"]⟩]⟩

/-- The map has been registered before the answer comes, and is found after it. -/
theorem map_is_found_after_amendment :
    ∃ h signs r, Sample.hub.run [.ask (.register "map"), .proceed, .enter weatherCall, .acquire,
        .send, .receive (.granted amendment)] = some (h, signs) ∧
      h.store.portlets = Sample.page.portlets ∧ h.store.get? "map" = some r ∧
      r.registered = true ∧ h.renderState "map" = r.state := by
  obtain ⟨h, signs, hrun⟩ : ∃ h signs, Sample.hub.run [.ask (.register "map"), .proceed,
      .enter weatherCall, .acquire, .send, .receive (.granted amendment)] = some (h, signs) :=
    ⟨_, _, rfl⟩
  obtain ⟨⟨_, hportlets⟩, _, _, hfound, _⟩ := portlets_are_isolated Sample.hub_of_page hrun
  obtain ⟨r, hget, hmark, hstate⟩ := hfound [] "map" _ Sample.hub [] rfl rfl rfl
  exact ⟨h, signs, r, hrun, hportlets, hget, hmark, hstate⟩

end Hub

end PortletPage
