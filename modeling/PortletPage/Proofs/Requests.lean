import PortletPage.Proofs.Listeners

/-!
# What requests come to

Everything that a request does to a hub, said in terms of the names and handles
that it mentions, and how the delivery goes on to which it may give rise.

* `Hub.refusal?`: the conditions under which a request is refused, and why.
* `Hub.announcement`: the news that a request gives rise to, and who is told.
* `Hub.replyTo`: the answer that it gets in the end.
* `Hub.ask_eq`: the hub after the request, field by field.  In later proofs
  nothing else about requests has to be unfolded.
* `Hub.ask_of_refusal`: a refused request does nothing but get its answer.
* `Hub.Proceeds`: how a delivery goes on, case by case.
* `Reachable.tidy`: registries stay tidy, so that all of this holds of every hub
  that a run leads to.
-/

namespace PortletPage

/-! ## Look-ups that fail -/

namespace Store

/-- A portlet that is not on the page is not found, and to register it changes
nothing. -/
theorem register_of_unknown {s : Store} {id : String} (h : id ∉ s.ids) :
    s.get? id = none ∧ s.register id = s := by
  have hne : ∀ r ∈ s.records, r.portlet.id ≠ id := fun r hr hid =>
    h (List.mem_map.mpr ⟨r, hr, hid⟩)
  refine ⟨(get?_eq_none_iff s id).mpr hne, ?_⟩
  have hmap : (s.records.map fun r =>
      if r.portlet.id = id then { r with registered := true } else r) = s.records := by
    refine (List.map_congr_left fun r hr => ?_).trans (List.map_id s.records)
    rw [if_neg (hne r hr)]
    rfl
  rw [register, hmap]

theorem exists_of_mem_ids {s : Store} {id : String} (h : id ∈ s.ids) :
    ∃ r, s.get? id = some r := by
  obtain ⟨r, hr, hid⟩ := List.mem_map.mp h
  cases hget : s.get? id with
  | some r' => exact ⟨r', rfl⟩
  | none => exact absurd hid ((get?_eq_none_iff s id).mp hget r hr)

end Store

namespace Registry

variable {κ : Type}

theorem isAttached_iff (r : Registry κ) (handle : Handle) :
    r.isAttached handle = true ↔ handle ∈ r.listeners.map Listener.handle := by
  simp [isAttached, List.any_eq_true]

/-- To detach what is not attached changes nothing. -/
theorem remove_of_not_mem {r : Registry κ} {handle : Handle}
    (h : handle ∉ r.listeners.map Listener.handle) : (r.remove handle).2 = r := by
  have herase : (r.listeners.eraseP fun l => l.handle == handle) = r.listeners := by
    apply List.eraseP_of_forall_not
    intro l hl heq
    exact h (List.mem_map.mpr ⟨l, hl, by simpa using heq⟩)
  rw [remove, herase]

end Registry

/-! ## What a request does -/

/-- The records after a request: to register a portlet marks it. -/
def Store.heed {κ : Type} (s : Store) : Request κ → Store
  | .register portlet => s.register portlet
  | _ => s

theorem Store.ids_heed {κ : Type} (s : Store) (request : Request κ) :
    (s.heed request).ids = s.ids := by
  cases request with
  | register portlet =>
    rw [ids_eq, portlets_eq, heed, picture_register, ← portlets_eq, ← ids_eq]
  | _ => rfl

/-- The listeners after a request. -/
def Registry.heed {κ : Type} (r : Registry κ) : Request κ → Registry κ
  | .listen portlet eventName callback =>
    match EventType.parse eventName with
    | some type => (r.add portlet type callback).2
    | none => r
  | .unlisten portlet (some handle) =>
    if handle.portlet = portlet then (r.remove handle).2 else r
  | _ => r

theorem Registry.Tidy.heed {κ : Type} {r : Registry κ} (tidy : r.Tidy) (request : Request κ) :
    (r.heed request).Tidy := by
  cases request with
  | listen portlet eventName callback =>
    cases htype : EventType.parse eventName with
    | none => simpa [Registry.heed, htype] using tidy
    | some type => simpa [Registry.heed, htype] using tidy.add htype portlet callback
  | unlisten portlet handle =>
    cases handle with
    | none => exact tidy
    | some handle =>
      rw [Registry.heed]
      split
      · exact tidy.remove handle
      · exact tidy
  | _ => exact tidy

namespace Hub

variable {κ : Type}

/-- Why a request is refused, if it is: the portlet is not on the page, the name
of the event type is not acceptable, or the handle is that of another portlet or
not attached. -/
def refusal? (h : Hub κ) : Request κ → Option Failure
  | .register portlet =>
    if portlet ∈ h.store.ids then none else some (.unknownPortlet portlet)
  | .listen _ eventName _ =>
    if eventName ≠ onStateChange ∧ (eventName = "" ∨ EventType.isReserved eventName = true) then
      some (.invalidEventType eventName)
    else none
  | .unlisten _ none => none
  | .unlisten portlet (some handle) =>
    if handle.portlet = portlet ∧ handle ∈ h.registry.listeners.map Listener.handle then none
    else some (.unknownListener handle)
  | .dispatch _ eventName _ =>
    if eventName = "" ∨ EventType.isReserved eventName = true then
      some (.invalidEventType eventName)
    else none

/-- The news that a request gives rise to, and the callbacks that are called with
it: a new listener is told the state of its portlet, if the configuration says
so, and a message goes to everyone who was added under its name. -/
def announcement (h : Hub κ) : Request κ → Option (News × List κ)
  | .listen portlet eventName callback =>
    if eventName = onStateChange ∧ h.config.announceInitial = true then
      (h.store.state? portlet).map fun state =>
        (.stateChange ⟨portlet, .initial, state, state.parameters.names, false, false⟩,
          [callback])
    else none
  | .dispatch source eventName payload =>
    if eventName = "" ∨ EventType.isReserved eventName = true then none
    else some (.message ⟨eventName, source, payload⟩, h.registry.addedUnder eventName)
  | _ => none

/-- The answer to a request. -/
def replyTo (h : Hub κ) (request : Request κ) : Reply :=
  match h.refusal? request with
  | some failure => .refused failure
  | none =>
    match request with
    | .register _ => .registered
    | .listen portlet eventName _ => .added ⟨h.registry.lastNumber + 1, portlet, eventName⟩
    | .unlisten _ _ => .removed
    | .dispatch _ eventName _ => .delivered (h.registry.addedUnder eventName).length

/-- What a request puts up for delivery: its news, and then its answer. -/
def framesFor (h : Hub κ) (request : Request κ) : List (Frame κ) :=
  ((h.announcement request).map fun (news, callbacks) =>
    .calls ⟨h.made, news⟩ callbacks).toList ++ [.reply (h.replyTo request)]

/-- The frames of a request are calls with its news and its answer. -/
theorem mem_framesFor {h : Hub κ} {request : Request κ} {frame : Frame κ}
    (hframe : frame ∈ h.framesFor request) :
    (∃ news callbacks, h.announcement request = some (news, callbacks) ∧
        frame = .calls ⟨h.made, news⟩ callbacks) ∨
      frame = .reply (h.replyTo request) := by
  rcases List.mem_append.mp hframe with hframe | hframe
  · rw [Option.mem_toList, Option.map_eq_some_iff] at hframe
    obtain ⟨⟨news, callbacks⟩, hnews, rfl⟩ := hframe
    exact .inl ⟨news, callbacks, hnews, rfl⟩
  · exact .inr (List.mem_singleton.mp hframe)

/-! ## The hub after a request -/

/-- The hub after a request, field by field. -/
theorem ask_eq {h : Hub κ} (tidy : h.registry.Tidy) (request : Request κ) :
    h.ask request =
      { h with
        store := h.store.heed request
        registry := h.registry.heed request
        made := h.made + (h.announcement request).toList.length
        delivery := h.framesFor request ++ h.delivery } := by
  cases request with
  | register portlet =>
    by_cases hid : portlet ∈ h.store.ids
    · obtain ⟨r, hget⟩ := Store.exists_of_mem_ids hid
      simp [ask, register, hget, Store.heed, Registry.heed, framesFor, announcement, replyTo,
        refusal?, hid, deliver]
    · obtain ⟨hget, hsame⟩ := Store.register_of_unknown hid
      simp [ask, register, hget, hsame, Store.heed, Registry.heed, framesFor, announcement,
        replyTo, refusal?, hid, deliver]
  | listen portlet eventName callback =>
    cases htype : EventType.parse eventName with
    | none =>
      have hbad := (EventType.parse_eq_none_iff eventName).mp htype
      simp [ask, listen, htype, Store.heed, Registry.heed, framesFor, announcement, replyTo,
        refusal?, hbad, deliver]
    | some type =>
      cases type with
      | stateChange =>
        have hevent := (EventType.parse_eq_stateChange_iff eventName).mp htype
        cases hannounce : h.config.announceInitial <;>
          cases hstate : h.store.state? portlet <;>
            simp [ask, listen, Store.heed, Registry.heed, framesFor, announcement, replyTo,
              refusal?, hevent, hannounce, hstate, deliver, Registry.add, EventType.name]
      | client name =>
        have hevent : eventName ≠ onStateChange := by
          intro hevent
          rw [hevent, EventType.parse_onStateChange] at htype
          cases htype
        obtain ⟨rfl, hempty, hreserved⟩ := (EventType.parse_eq_client_iff _ _).mp htype
        simp [ask, listen, htype, Store.heed, Registry.heed, framesFor, announcement, replyTo,
          refusal?, hempty, hreserved, hevent, deliver, Registry.add, EventType.name]
  | unlisten portlet handle =>
    cases handle with
    | none =>
      simp [ask, unlisten, Store.heed, Registry.heed, framesFor, announcement, replyTo,
        refusal?, deliver]
    | some handle =>
      have hfound : (h.registry.remove handle).1 = true ↔
          handle ∈ h.registry.listeners.map Listener.handle :=
        Registry.isAttached_iff h.registry handle
      rw [ask, unlisten_some]
      simp only [hfound]
      by_cases hportlet : handle.portlet = portlet
      · by_cases hmem : handle ∈ h.registry.listeners.map Listener.handle
        · simp [hportlet, hmem, Store.heed, Registry.heed, framesFor, announcement, replyTo,
            refusal?, deliver]
        · simp [hportlet, hmem, Store.heed, Registry.heed, framesFor, announcement, replyTo,
            refusal?, deliver, Registry.remove_of_not_mem hmem]
      · simp [hportlet, Store.heed, Registry.heed, framesFor, announcement, replyTo, refusal?,
          deliver]
  | dispatch source eventName payload =>
    by_cases hbad : eventName = "" ∨ EventType.isReserved eventName = true
    · have htype : ∀ name, EventType.parse eventName ≠ some (.client name) := by
        intro name htype
        obtain ⟨_, hempty, hreserved⟩ := (EventType.parse_eq_client_iff _ _).mp htype
        rw [hreserved] at hbad
        exact hbad.elim hempty Bool.false_ne_true
      have hdispatch : h.dispatch source eventName payload =
          h.deliver [.reply (.refused (.invalidEventType eventName))] := by
        unfold dispatch
        split
        · rename_i name htype'
          exact absurd htype' (htype name)
        · rfl
      simp [ask, hdispatch, Store.heed, Registry.heed, framesFor, announcement, replyTo,
        refusal?, hbad, deliver]
    · have hgood : eventName ≠ "" ∧ EventType.isReserved eventName = false := by
        rwa [not_or, Bool.not_eq_true] at hbad
      have htype : EventType.parse eventName = some (.client eventName) :=
        (EventType.parse_eq_client_iff _ _).mpr ⟨rfl, hgood⟩
      simp [ask, dispatch, htype, Store.heed, Registry.heed, framesFor, announcement, replyTo,
        refusal?, hbad, deliver, tidy.listenersOfType_eq htype]

theorem registry_ask {h : Hub κ} (tidy : h.registry.Tidy) (request : Request κ) :
    (h.ask request).registry = h.registry.heed request := by
  rw [ask_eq tidy]

/-! ## Refused requests -/

/-- A refused request has nothing to do and no news. -/
theorem idle_of_refusal {h : Hub κ} {request : Request κ} {failure : Failure}
    (refused : h.refusal? request = some failure) :
    h.store.heed request = h.store ∧ h.registry.heed request = h.registry ∧
      h.announcement request = none := by
  cases request with
  | register portlet =>
    have hid : portlet ∉ h.store.ids := by
      intro hid
      rw [refusal?, if_pos hid] at refused
      cases refused
    exact ⟨(Store.register_of_unknown hid).2, rfl, rfl⟩
  | listen portlet eventName callback =>
    have hbad : eventName ≠ onStateChange ∧
        (eventName = "" ∨ EventType.isReserved eventName = true) := by
      by_contra hbad
      rw [refusal?, if_neg hbad] at refused
      cases refused
    refine ⟨rfl, ?_, ?_⟩
    · rw [Registry.heed, (EventType.parse_eq_none_iff eventName).mpr hbad]
    · rw [announcement, if_neg fun hevent => hbad.1 hevent.1]
  | unlisten portlet handle =>
    cases handle with
    | none => cases refused
    | some handle =>
      refine ⟨rfl, ?_, rfl⟩
      rw [Registry.heed]
      split
      · rename_i hportlet
        apply Registry.remove_of_not_mem
        intro hmem
        rw [refusal?, if_pos ⟨hportlet, hmem⟩] at refused
        cases refused
      · rfl
  | dispatch source eventName payload =>
    have hbad : eventName = "" ∨ EventType.isReserved eventName = true := by
      by_contra hbad
      rw [refusal?, if_neg hbad] at refused
      cases refused
    exact ⟨rfl, rfl, by rw [announcement, if_pos hbad]⟩

/-- The answer is a refusal exactly if there is a reason to refuse. -/
theorem replyTo_eq_refused_iff (h : Hub κ) (request : Request κ) (failure : Failure) :
    h.replyTo request = .refused failure ↔ h.refusal? request = some failure := by
  unfold replyTo
  cases hrefused : h.refusal? request with
  | some other => simp
  | none => cases request <;> simp

/-- A refused request does nothing but get its answer. -/
theorem ask_of_refusal {h : Hub κ} (tidy : h.registry.Tidy) {request : Request κ}
    {failure : Failure} (refused : h.refusal? request = some failure) :
    h.ask request = h.deliver [.reply (.refused failure)] := by
  obtain ⟨hstore, hregistry, hnews⟩ := idle_of_refusal refused
  rw [ask_eq tidy, hstore, hregistry, framesFor, hnews,
    (replyTo_eq_refused_iff h request failure).mpr refused]
  rfl

/-! ## Deliveries -/

/-- Stamps do not hide changes. -/
theorem map_snd_stampFrom (first : Nat) (changes : List StateChange) :
    (stampFrom first changes).map Prod.snd = changes := by
  apply List.ext_getElem <;> simp [stampFrom]

/-- How a delivery goes on, case by case. -/
inductive Proceeds : Hub κ → Hub κ → List (Sign κ) → Prop
  /-- All state changes have been told. -/
  | told (h : Hub κ) (rest : List (Frame κ)) (top : h.delivery = .turns [] :: rest) :
      Proceeds h { h with delivery := rest } []
  /-- The turn of a state change comes. -/
  | turn (h : Hub κ) (stamp : Nat) (change : StateChange) (changes : List (Nat × StateChange))
      (rest : List (Frame κ)) (top : h.delivery = .turns ((stamp, change) :: changes) :: rest) :
      Proceeds h { h with
        delivery := .calls ⟨stamp, .stateChange change⟩
          (h.registry.listenersFor change.portlet .stateChange) :: .turns changes :: rest } []
  /-- All callbacks have been called. -/
  | called (h : Hub κ) (event : Event Nat) (rest : List (Frame κ))
      (top : h.delivery = .calls event [] :: rest) :
      Proceeds h { h with delivery := rest } []
  | call (h : Hub κ) (event : Event Nat) (callback : κ) (callbacks : List κ)
      (rest : List (Frame κ)) (top : h.delivery = .calls event (callback :: callbacks) :: rest) :
      Proceeds h { h with delivery := .running callback :: .calls event callbacks :: rest }
        [.called callback event]
  | reply (h : Hub κ) (r : Reply) (rest : List (Frame κ)) (top : h.delivery = .reply r :: rest) :
      Proceeds h { h with delivery := rest } [.replied r]

theorem proceeds_of_proceed {h h' : Hub κ} {signs : List (Sign κ)}
    (hp : h.proceed = some (h', signs)) : Proceeds h h' signs := by
  simp only [proceed] at hp
  split at hp
  · rename_i rest top
    cases hp
    exact .told h rest top
  · rename_i stamp change changes rest top
    cases hp
    exact .turn h stamp change changes rest top
  · rename_i event rest top
    cases hp
    exact .called h event rest top
  · rename_i event callback callbacks rest top
    cases hp
    exact .call h event callback callbacks rest top
  · rename_i r rest top
    cases hp
    exact .reply h r rest top
  · cases hp
  · cases hp

/-! ## Registries in the course of a run -/

theorem registry_proceed {h h' : Hub κ} {signs : List (Sign κ)}
    (hp : h.proceed = some (h', signs)) : h'.registry = h.registry := by
  cases proceeds_of_proceed hp <;> rfl

/-- Only requests change the registry. -/
theorem Step.registry_eq {h h' : Hub κ} {m : Move κ} {signs : List (Sign κ)}
    (hs : Step h m h' signs) (hm : ∀ request, m ≠ .ask request) :
    h'.registry = h.registry := by
  cases hs with
  | ask request may => exact absurd rfl (hm request)
  | proceed h' signs proceeds => exact registry_proceed proceeds
  | _ => rfl

/-- Every step keeps the registry tidy. -/
theorem Step.tidy {h h' : Hub κ} {m : Move κ} {signs : List (Sign κ)}
    (hs : Step h m h' signs) (tidy : h.registry.Tidy) : h'.registry.Tidy := by
  by_cases hm : ∃ request, m = .ask request
  · obtain ⟨request, rfl⟩ := hm
    cases hs with
    | ask request may =>
      rw [registry_ask tidy]
      exact tidy.heed request
  · rw [hs.registry_eq fun request heq => hm ⟨request, heq⟩]
    exact tidy

/-- No step changes the configuration. -/
theorem Step.config_eq {h h' : Hub κ} {m : Move κ} {signs : List (Sign κ)}
    (hs : Step h m h' signs) (tidy : h.registry.Tidy) : h'.config = h.config := by
  cases hs with
  | ask request may => rw [ask_eq tidy]
  | proceed h' signs proceeds => cases proceeds_of_proceed proceeds <;> rfl
  | _ => rfl

theorem tidy_of_ofPage {page : Page} {config : Config} {h : Hub κ}
    (hp : ofPage page config = .ok h) : h.registry.Tidy := by
  obtain ⟨_, rfl⟩ := start_of_ofPage hp
  exact Registry.tidy_empty

theorem Reachable.tidy {h : Hub κ} (reach : h.Reachable) : h.registry.Tidy := by
  obtain ⟨page, config, start, moves, signs, hp, hrun⟩ := reach
  exact run_invariant (I := fun h => h.registry.Tidy) Step.tidy hrun (tidy_of_ofPage hp)

end Hub

end PortletPage
