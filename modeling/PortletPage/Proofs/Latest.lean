import PortletPage.Proofs.Agreement
import PortletPage.Proofs.Marks
import PortletPage.Proofs.News
import PortletPage.Proofs.Operations

/-!
# What a listener has heard last

Whenever nothing is being delivered, the last news that a listener for state
changes has heard carries the state that its portlet has now.

Between a commit and the end of its delivery this need not be so: the store has
the new states already, and some listeners have yet to be told.  So the invariant
counts what is coming to what has been heard (`Hub.newsFor`).  That list changes in
two ways only.  A commit appends news of the new states, and where it has none for
a portlet, the portlet's state stays as it is, to the order of its parameters
(`Store.state?_commit_of_silent`).  A listener that is added starts with the
present state and whatever news is still coming.

* `Hub.Attentive` is the invariant, and `Attentive.step` says that every step of a
  watched run keeps it.
* `Hub.last_heard_is_current` is the result.
-/

namespace PortletPage

/-! ## Commits and their news -/

namespace Store

/-- The news tell every change of a state, and tell it as it is now. -/
structure Tells (before after : Store) (news : List StateChange) : Prop where
  ids : after.ids = before.ids
  told : ∀ change ∈ news, after.state? change.portlet = some change.state
  silent : ∀ id, (∀ change ∈ news, change.portlet ≠ id) → after.state? id = before.state? id

variable {s : Store} {submitter : String} {update : Update} {reason : Reason}

/-- The news of a commit are of records of the store. -/
theorem mem_commit {news : StateChange} (h : news ∈ (s.commit submitter update reason).1) :
    ∃ r ∈ s.records, news.portlet = r.portlet.id ∧
      news.state = (r.follow submitter update).state := by
  rcases List.mem_append.mp h with hown | hother
  · obtain ⟨r, hr, rfl⟩ := List.mem_map.mp hown
    obtain ⟨hr, hid⟩ := List.mem_filter.mp hr
    exact ⟨r, hr, rfl, (Record.follow_submitter (by simpa using hid) update).symm⟩
  · have hother : news ∈ s.newsOfOthers submitter update.publicChanges := hother
    obtain ⟨r, hr, hid, _, rfl⟩ := (mem_newsOfOthers _ _).mp hother
    exact ⟨r, hr, rfl, by rw [Record.follow_other hid]⟩

/-- A portlet of which a commit has no news keeps its state. -/
theorem state?_commit_of_silent {id : String}
    (silent : ∀ news ∈ (s.commit submitter update reason).1, news.portlet ≠ id) :
    (s.commit submitter update reason).2.state? id = s.state? id := by
  rw [state?, state?, get?_commit]
  cases hget : s.get? id with
  | none => rfl
  | some r =>
    obtain ⟨hr, rfl⟩ := mem_of_get? hget
    have hid : r.portlet.id ≠ submitter := by
      intro hid
      refine silent (r.replace update.state reason).1 (List.mem_append_left _ ?_) rfl
      exact List.mem_map.mpr ⟨r, List.mem_filter.mpr ⟨hr, by simpa using hid⟩, rfl⟩
    have hrenewed : r.renewed update.publicChanges = [] := by
      by_contra hrenewed
      have hnews : (⟨r.portlet.id, .publicParameter, (r.receive update.publicChanges).2.state,
          r.renewed update.publicChanges, false, false⟩ : StateChange) ∈
            s.newsOfOthers submitter update.publicChanges :=
        (mem_newsOfOthers _ _).mpr ⟨r, hr, hid, hrenewed, rfl⟩
      exact silent _ (List.mem_append_right _ hnews) rfl
    rw [Option.map_some, Option.map_some, Option.map_some, Record.follow_other hid,
      Record.receive_of_silent hrenewed]

theorem tells_commit (hids : s.ids.Nodup) (submitter : String) (update : Update)
    (reason : Reason) :
    s.Tells (s.commit submitter update reason).2 (s.commit submitter update reason).1 where
  ids := by rw [ids_eq, portlets_commit, ← ids_eq]
  told := by
    intro news h
    obtain ⟨r, hr, hportlet, hstate⟩ := mem_commit h
    have hget : s.get? news.portlet = some r :=
      (get?_eq_some_iff hids _ _).mpr ⟨hr, hportlet.symm⟩
    rw [state?, get?_commit, hget, hstate]
    rfl
  silent := fun _ => state?_commit_of_silent

theorem isSome_state?_iff (s : Store) (id : String) : (s.state? id).isSome = true ↔ id ∈ s.ids := by
  rw [state?, Option.isSome_map, get?, List.find?_isSome, ids, List.mem_map]
  simp

end Store

/-! ## Listeners that are added -/

namespace Registry

variable {κ : Type}

/-- A listener that is attached after a request was so before, or the request has
added it. -/
theorem mem_heed {r : Registry κ} {request : Request κ} {l : Listener κ}
    (h : l ∈ (r.heed request).listeners) :
    l ∈ r.listeners ∨
      ∃ portlet name callback, request = .listen portlet name callback ∧
        EventType.parse name = some l.type ∧ l.handle = ⟨r.lastNumber + 1, portlet, name⟩ ∧
        l.callback = callback := by
  cases request with
  | listen portlet name callback =>
    cases htype : EventType.parse name with
    | none => exact .inl (by simpa [heed, htype] using h)
    | some type =>
      simp only [heed, htype, listeners_add, List.mem_append, List.mem_singleton] at h
      rcases h with h | rfl
      · exact .inl h
      · refine .inr ⟨portlet, name, callback, rfl, htype, ?_, rfl⟩
        rw [EventType.name_of_parse htype]
  | unlisten portlet handle =>
    cases handle with
    | none => exact .inl h
    | some handle =>
      refine .inl ?_
      rw [heed] at h
      split at h
      · exact (listeners_remove_sublist r handle).subset h
      · exact h
  | _ => exact .inl h

/-- A listener for state changes is added by a request for just that. -/
theorem mem_heed_stateChange {r : Registry κ} {request : Request κ} {l : Listener κ}
    (h : l ∈ (r.heed request).listeners) (htype : l.type = .stateChange) :
    l ∈ r.listeners ∨
      ∃ portlet callback, request = .listen portlet onStateChange callback ∧
        l.handle = ⟨r.lastNumber + 1, portlet, onStateChange⟩ := by
  refine (mem_heed h).imp_right ?_
  rintro ⟨portlet, name, callback, heq, hname, hhandle, _⟩
  rw [htype, EventType.parse_eq_stateChange_iff] at hname
  subst hname
  exact ⟨portlet, callback, heq, hhandle⟩

/-- Numbers are not given twice. -/
theorem lastNumber_le_heed (r : Registry κ) (request : Request κ) :
    r.lastNumber ≤ (r.heed request).lastNumber := by
  cases request with
  | listen portlet name callback => cases htype : EventType.parse name <;> simp [heed, htype, add]
  | unlisten portlet handle =>
    cases handle with
    | none => exact Nat.le_refl _
    | some handle =>
      rw [heed]
      split <;> exact Nat.le_refl _
  | _ => exact Nat.le_refl _

end Registry

/-! ## What is heard and what is coming -/

section Heard

variable {κ : Type}

/-- The news with which the listener of that number has been called, in order. -/
def Sign.heardBy (number : Nat) (signs : List (Sign (Nat × κ))) : List News :=
  ((Sign.calls signs).filter fun call => call.1.1 = number).map fun call => call.2.news

/-- The news that a frame still has for a listener for state changes. -/
def Frame.coming (l : Listener (Nat × κ)) : Frame (Nat × κ) → List News
  | .turns changes =>
    (changes.filter fun turn => turn.2.portlet = l.handle.portlet).map fun turn =>
      .stateChange turn.2
  | .calls event callbacks =>
    (callbacks.filter fun callback => callback.1 = l.handle.number).map fun _ => event.news
  | .running _ => []
  | .reply _ => []

@[simp] theorem Sign.heardBy_append (number : Nat) (signs signs' : List (Sign (Nat × κ))) :
    Sign.heardBy number (signs ++ signs') =
      Sign.heardBy number signs ++ Sign.heardBy number signs' := by
  simp [heardBy]

/-- Without a call nothing is heard. -/
theorem Sign.heardBy_of_calls_eq_nil {signs : List (Sign (Nat × κ))}
    (h : Sign.calls signs = []) (number : Nat) : Sign.heardBy number signs = [] := by
  simp [heardBy, h]

theorem Sign.heardBy_called (number : Nat) (callback : Nat × κ) (event : Event Nat) :
    Sign.heardBy number [Sign.called callback event] =
      if callback.1 = number then [event.news] else [] := by
  by_cases h : callback.1 = number <;> simp [heardBy, calls, called?, h]

end Heard

namespace Hub

variable {κ : Type}

/-- What the listener has heard and what is coming to it, in order. -/
def newsFor (w : Hub (Nat × κ)) (seen : List (Sign (Nat × κ))) (l : Listener (Nat × κ)) :
    List News :=
  Sign.heardBy l.handle.number seen ++ w.delivery.flatMap (Frame.coming l)

/-- The news is of the listener's portlet and carries the state that the portlet
has now. -/
def Current (w : Hub (Nat × κ)) (l : Listener (Nat × κ)) (news : News) : Prop :=
  ∃ change, news = .stateChange change ∧ change.portlet = l.handle.portlet ∧
    w.store.state? l.handle.portlet = some change.state

/-- What holds of every frame of a delivery: state changes that are to be told are
up to date, and those that are to be called have been given their numbers. -/
def FitFrame (store : Store) (lastNumber : Nat) : Frame (Nat × κ) → Prop
  | .turns changes => ∀ turn ∈ changes, store.state? turn.2.portlet = some turn.2.state
  | .calls _ callbacks => ∀ callback ∈ callbacks, callback.1 ≤ lastNumber
  | .running _ => True
  | .reply _ => True

/-- Numbers that have been given stay given. -/
theorem FitFrame.mono {store : Store} {m n : Nat} {f : Frame (Nat × κ)}
    (h : FitFrame store m f) (hle : m ≤ n) : FitFrame store n f := by
  cases f with
  | calls event callbacks => exact fun callback hcallback => Nat.le_trans (h callback hcallback) hle
  | turns changes => exact h
  | _ => trivial

theorem FitFrame.of_state?_eq {store store' : Store} {n : Nat} {f : Frame (Nat × κ)}
    (h : FitFrame store n f) (hstate : ∀ id, store'.state? id = store.state? id) :
    FitFrame store' n f := by
  cases f with
  | turns changes => exact fun turn hturn => (hstate _).trans (h turn hturn)
  | calls event callbacks => exact h
  | _ => trivial

/-- What holds of every hub in a watched run, of which this has been seen. -/
structure Attentive (w : Hub (Nat × κ)) (seen : List (Sign (Nat × κ))) : Prop where
  ids : w.store.ids.Nodup
  tidy : w.registry.Tidy
  /-- Each callback is marked with the number of its handle. -/
  marked : ∀ l ∈ w.registry.listeners, l.callback.1 = l.handle.number
  /-- Nobody has been called under a number that is yet to be given. -/
  heard : ∀ number, w.registry.lastNumber < number → Sign.heardBy number seen = []
  frames : ∀ f ∈ w.delivery, FitFrame w.store w.registry.lastNumber f
  /-- The last news of every listener for state changes is up to date. -/
  latest : ∀ l ∈ w.registry.listeners, l.type = .stateChange →
    ∀ news, (w.newsFor seen l).getLast? = some news → w.Current l news
  /-- Every such listener has news, if that is so configured. -/
  announced : w.config.announceInitial = true →
    ∀ l ∈ w.registry.listeners, l.type = .stateChange →
      (w.store.state? l.handle.portlet).isSome = true → w.newsFor seen l ≠ []

namespace Attentive

variable {w w' : Hub (Nat × κ)} {seen signs : List (Sign (Nat × κ))}

/-- Of the callbacks of listeners, one is marked with the number of a handle. -/
theorem filter_callbacks (hi : w.Attentive seen) {l : Listener (Nat × κ)}
    (hl : l ∈ w.registry.listeners) (p : Listener (Nat × κ) → Bool) :
    ((w.registry.listeners.filter p).map Listener.callback).filter
        (fun callback => callback.1 = l.handle.number) =
      if p l = true then [l.callback] else [] := by
  have hone : (w.registry.listeners.filter fun other =>
      other.handle.number = l.handle.number) = [l] :=
    filter_of_nodup_map hi.tidy.numbers hl
  have hmark : (w.registry.listeners.filter fun other =>
      other.callback.1 = l.handle.number) = [l] := by
    rw [← hone]
    apply List.filter_congr
    intro other hother
    rw [hi.marked other hother]
  rw [List.filter_map, List.filter_filter]
  simp only [Function.comp_def, Bool.and_comm]
  rw [← List.filter_filter, hmark]
  cases hp : p l <;> simp [hp]

/-- The turn of a state change brings the listeners the news that was coming. -/
theorem coming_turn (hi : w.Attentive seen) {l : Listener (Nat × κ)}
    (hl : l ∈ w.registry.listeners) (htype : l.type = .stateChange) (stamp : Nat)
    (change : StateChange) (changes : List (Nat × StateChange)) :
    Frame.coming l (.calls ⟨stamp, .stateChange change⟩
        (w.registry.listenersFor change.portlet .stateChange)) ++
      Frame.coming l (.turns changes) = Frame.coming l (.turns ((stamp, change) :: changes)) := by
  simp only [Frame.coming, Registry.listenersFor]
  rw [hi.filter_callbacks hl]
  by_cases hportlet : change.portlet = l.handle.portlet
  · simp [Listener.isFor, htype, hportlet]
  · have hne : ¬ l.handle.portlet = change.portlet := fun h => hportlet h.symm
    simp [Listener.isFor, hportlet, hne]

/-- A request brings no news to a listener for state changes that is there
already. -/
theorem coming_framesFor (hi : w.Attentive seen) {l : Listener (Nat × κ)}
    (hl : l ∈ w.registry.listeners) (htype : l.type = .stateChange) (request : Request κ) :
    (w.framesFor (request.marked (w.registry.lastNumber + 1))).flatMap (Frame.coming l) =
      [] := by
  have hnumber : w.registry.lastNumber + 1 ≠ l.handle.number := by
    have hbound := hi.tidy.bounded l hl
    omega
  cases request with
  | listen portlet eventName callback =>
    simp only [framesFor, Request.marked, Request.map, announcement]
    split
    · cases w.store.state? portlet <;> simp [Frame.coming, hnumber]
    · simp [Frame.coming]
  | dispatch source eventName payload =>
    simp only [framesFor, Request.marked, Request.map, announcement]
    split
    · simp [Frame.coming]
    · rename_i hgood
      have hevent : l.handle.eventType ≠ eventName := by
        intro hevent
        have hparse := hi.tidy.types l hl
        rw [htype, EventType.parse_eq_stateChange_iff, hevent] at hparse
        rw [hparse] at hgood
        exact hgood (.inr EventType.isReserved_onStateChange)
      simp [Frame.coming, Registry.addedUnder, hi.filter_callbacks hl, hevent]
  | _ => simp [framesFor, Request.marked, Request.map, announcement, Frame.coming]

/-- What is coming to a listener under a number that is yet to be given is up to
date. -/
theorem current_of_coming (hi : w.Attentive seen) {l : Listener (Nat × κ)}
    (hnew : w.registry.lastNumber < l.handle.number) {news : News}
    (hnews : news ∈ w.delivery.flatMap (Frame.coming l)) : w.Current l news := by
  obtain ⟨frame, hframe, hcoming⟩ := List.mem_flatMap.mp hnews
  have hfit := hi.frames frame hframe
  cases frame with
  | turns changes =>
    obtain ⟨turn, hturn, rfl⟩ := List.mem_map.mp hcoming
    obtain ⟨hmem, hportlet⟩ := List.mem_filter.mp hturn
    have hportlet : turn.2.portlet = l.handle.portlet := by simpa using hportlet
    exact ⟨turn.2, rfl, hportlet, hportlet ▸ hfit turn hmem⟩
  | calls event callbacks =>
    obtain ⟨callback, hcallback, _⟩ := List.mem_map.mp hcoming
    obtain ⟨hmem, hnumber⟩ := List.mem_filter.mp hcallback
    have hbound := hfit callback hmem
    have hnumber : callback.1 = l.handle.number := by simpa using hnumber
    omega
  | running callback => cases hcoming
  | reply r => cases hcoming

/-- The listeners that are called have been given their numbers. -/
theorem bounded_callbacks (hi : w.Attentive seen) (p : Listener (Nat × κ) → Bool) :
    ∀ callback ∈ (w.registry.listeners.filter p).map Listener.callback,
      callback.1 ≤ w.registry.lastNumber := by
  intro callback hcallback
  obtain ⟨l, hl, rfl⟩ := List.mem_map.mp hcallback
  have hl := (List.mem_filter.mp hl).1
  rw [hi.marked l hl]
  exact hi.tidy.bounded l hl

/-! ### Steps -/

variable {seen' : List (Sign (Nat × κ))}

/-- Where records and listeners stay, nothing but the news matters. -/
theorem of_newsFor (hi : w.Attentive seen) (hconfig : w'.config = w.config)
    (hstore : w'.store = w.store) (hregistry : w'.registry = w.registry)
    (heard : ∀ number, w.registry.lastNumber < number → Sign.heardBy number seen' = [])
    (frames : ∀ f ∈ w'.delivery, FitFrame w.store w.registry.lastNumber f)
    (hnews : ∀ l ∈ w.registry.listeners, l.type = .stateChange →
      w'.newsFor seen' l = w.newsFor seen l) : w'.Attentive seen' where
  ids := hstore ▸ hi.ids
  tidy := hregistry ▸ hi.tidy
  marked := hregistry ▸ hi.marked
  heard := hregistry ▸ heard
  frames := hstore ▸ hregistry ▸ frames
  latest := by
    intro l hl htype news hlast
    rw [hregistry] at hl
    rw [hnews l hl htype] at hlast
    rw [Current, hstore]
    exact hi.latest l hl htype news hlast
  announced := by
    intro hannounce l hl htype hfound
    rw [hconfig] at hannounce
    rw [hregistry] at hl
    rw [hstore] at hfound
    rw [hnews l hl htype]
    exact hi.announced hannounce l hl htype hfound

/-- Signs without a call are not heard. -/
theorem heard_append (hi : w.Attentive seen) (hcalls : Sign.calls signs = []) :
    ∀ number, w.registry.lastNumber < number → Sign.heardBy number (seen ++ signs) = [] := by
  intro number hnumber
  rw [Sign.heardBy_append, Sign.heardBy_of_calls_eq_nil hcalls, List.append_nil]
  exact hi.heard number hnumber

/-- A step that neither delivers nor changes anything but the calls. -/
theorem aside (hi : w.Attentive seen) (hconfig : w'.config = w.config)
    (hstore : w'.store = w.store) (hregistry : w'.registry = w.registry)
    (hdelivery : w'.delivery = w.delivery) (hcalls : Sign.calls signs = []) :
    w'.Attentive (seen ++ signs) := by
  refine hi.of_newsFor hconfig hstore hregistry (hi.heard_append hcalls)
    (hdelivery ▸ hi.frames) ?_
  intro l _ _
  rw [newsFor, newsFor, Sign.heardBy_append, Sign.heardBy_of_calls_eq_nil hcalls,
    List.append_nil, hdelivery]

/-- A frame goes that has no news for anybody. -/
theorem pop (hi : w.Attentive seen) {frame : Frame (Nat × κ)} {rest : List (Frame (Nat × κ))}
    (top : w.delivery = frame :: rest) (hempty : ∀ l, Frame.coming l frame = [])
    (hcalls : Sign.calls signs = []) :
    ({ w with delivery := rest } : Hub (Nat × κ)).Attentive (seen ++ signs) := by
  have hframes := List.forall_mem_cons.mp (top ▸ hi.frames)
  refine hi.of_newsFor rfl rfl rfl (hi.heard_append hcalls) hframes.2 ?_
  intro l _ _
  rw [newsFor, newsFor, Sign.heardBy_append, Sign.heardBy_of_calls_eq_nil hcalls,
    List.append_nil, top, List.flatMap_cons, hempty, List.nil_append]

/-- However the delivery goes on, listeners hear what was coming to them. -/
theorem proceed (hi : w.Attentive seen) (hp : Proceeds w w' signs) :
    w'.Attentive (seen ++ signs) := by
  cases hp with
  | told rest top => exact hi.pop top (fun _ => rfl) rfl
  | called event rest top => exact hi.pop top (fun _ => rfl) rfl
  | reply r rest top => exact hi.pop top (fun _ => rfl) rfl
  | turn stamp change changes rest top =>
    obtain ⟨hchanges, hrest⟩ := List.forall_mem_cons.mp (top ▸ hi.frames)
    refine hi.of_newsFor rfl rfl rfl (hi.heard_append rfl) ?_ ?_
    · exact List.forall_mem_cons.mpr ⟨hi.bounded_callbacks _,
        List.forall_mem_cons.mpr ⟨(List.forall_mem_cons.mp hchanges).2, hrest⟩⟩
    · intro l hl htype
      simp only [newsFor, top, List.append_nil, List.flatMap_cons]
      rw [← hi.coming_turn hl htype stamp change changes, List.append_assoc]
  | call event callback callbacks rest top =>
    obtain ⟨hcallbacks, hrest⟩ := List.forall_mem_cons.mp (top ▸ hi.frames)
    obtain ⟨hbound, hlater⟩ := List.forall_mem_cons.mp hcallbacks
    refine hi.of_newsFor rfl rfl rfl ?_ ?_ ?_
    · intro number hnumber
      rw [Sign.heardBy_append, hi.heard number hnumber, Sign.heardBy_called, if_neg (by omega),
        List.append_nil]
    · exact List.forall_mem_cons.mpr ⟨trivial, List.forall_mem_cons.mpr ⟨hlater, hrest⟩⟩
    · -- the call has moved from what was coming to what has been heard
      intro l _ _
      by_cases hnumber : callback.1 = l.handle.number <;>
        simp [newsFor, top, Frame.coming, Sign.heardBy_called, hnumber]

/-- A commit brings news of all states that it changes. -/
theorem commit (hi : w.Attentive seen) (quiet : w.delivery = []) (holder : Holder)
    (s : Submission) (update : Update) : (w.commit holder s update).Attentive seen := by
  have htells := Store.tells_commit hi.ids holder.call.portlet update (reasonFor s)
  obtain ⟨changes, store, hcommit⟩ : ∃ changes store,
      w.store.commit holder.call.portlet update (reasonFor s) = (changes, store) := ⟨_, _, rfl⟩
  rw [hcommit] at htells
  have hafter : w.commit holder s update =
      { w with
        store := store
        made := w.made + changes.length
        holder := some { holder with
          stage := .over (.ok (outcomeOf holder.call.portlet changes)) }
        delivery := [.turns (stampFrom w.made changes)] } := by
    rw [Hub.commit, hcommit]
  have hnews : ∀ l : Listener (Nat × κ), (w.commit holder s update).newsFor seen l =
      w.newsFor seen l ++
        (changes.filter fun change => change.portlet = l.handle.portlet).map .stateChange := by
    intro l
    conv => rhs; rw [← map_snd_stampFrom w.made changes, List.filter_map, List.map_map]
    simp [hafter, newsFor, quiet, Frame.coming, Function.comp_def]
  rw [hafter] at hnews ⊢
  refine ⟨htells.ids ▸ hi.ids, hi.tidy, hi.marked, hi.heard, ?_, ?_, ?_⟩
  · refine List.forall_mem_singleton.mpr ?_
    intro turn hturn
    apply htells.told
    rw [← map_snd_stampFrom w.made changes]
    exact List.mem_map_of_mem hturn
  · intro l hl htype news hlast
    rw [hnews] at hlast
    cases hown : changes.filter fun change => change.portlet = l.handle.portlet with
    | nil =>
      rw [hown, List.map_nil, List.append_nil] at hlast
      obtain ⟨change, heq, hportlet, hcurrent⟩ := hi.latest l hl htype news hlast
      refine ⟨change, heq, hportlet, ?_⟩
      rw [← hcurrent]
      apply htells.silent
      intro other hother hportlet'
      have hmem : other ∈ changes.filter fun change => change.portlet = l.handle.portlet :=
        List.mem_filter.mpr ⟨hother, by simpa using hportlet'⟩
      rw [hown] at hmem
      cases hmem
    | cons first rest =>
      rw [List.getLast?_append_of_ne_nil _ (by simp [hown])] at hlast
      obtain ⟨change, hchange, rfl⟩ := List.mem_map.mp (List.mem_of_getLast? hlast)
      obtain ⟨hmem, hportlet⟩ := List.mem_filter.mp hchange
      have hportlet : change.portlet = l.handle.portlet := by simpa using hportlet
      exact ⟨change, rfl, hportlet, hportlet ▸ htells.told change hmem⟩
  · intro hannounce l hl htype hfound
    rw [hnews]
    rw [Store.isSome_state?_iff, htells.ids, ← Store.isSome_state?_iff] at hfound
    have hold := hi.announced hannounce l hl htype hfound
    exact List.append_ne_nil_of_left_ne_nil hold _

/-- The listeners that a request has called have their numbers by then. -/
theorem bounded_announcement (hi : w.Attentive seen) (request : Request κ) {news : News}
    {callbacks : List (Nat × κ)}
    (hnews : w.announcement (request.marked (w.registry.lastNumber + 1)) =
      some (news, callbacks)) :
    ∀ callback ∈ callbacks, callback.1 ≤
      (w.registry.heed (request.marked (w.registry.lastNumber + 1))).lastNumber := by
  cases request with
  | listen portlet name callback =>
    simp only [Request.marked, Request.map, announcement] at hnews ⊢
    split at hnews
    · rename_i hname
      obtain ⟨state, _, heq⟩ := Option.map_eq_some_iff.mp hnews
      cases heq
      simp [Registry.heed, hname.1, Registry.add]
    · cases hnews
  | dispatch source name payload =>
    simp only [Request.marked, Request.map, announcement] at hnews ⊢
    split at hnews
    · cases hnews
    · cases hnews
      exact hi.bounded_callbacks _
  | _ => cases hnews

/-- A listener that is added for state changes is told the present state, if that
is so configured, and then whatever is still coming. -/
theorem newsFor_of_added (hi : w.Attentive seen) {portlet : String} {callback : Nat × κ}
    {l : Listener (Nat × κ)} (hcallback : callback.1 = w.registry.lastNumber + 1)
    (hhandle : l.handle = ⟨w.registry.lastNumber + 1, portlet, onStateChange⟩) :
    (w.ask (.listen portlet onStateChange callback)).newsFor seen l =
      (if w.config.announceInitial = true then
        (w.store.state? portlet).toList.map fun state =>
          .stateChange ⟨portlet, .initial, state, state.parameters.names, false, false⟩
      else []) ++ w.delivery.flatMap (Frame.coming l) := by
  rw [newsFor, ask_eq hi.tidy, hi.heard _ (by rw [hhandle]; exact Nat.lt_succ_self _)]
  cases hannounce : w.config.announceInitial <;> cases hstate : w.store.state? portlet <;>
    simp [framesFor, announcement, hannounce, hstate, Frame.coming, hcallback, hhandle]

/-- A request leaves the news of the listeners alone that are there already. -/
theorem newsFor_ask (hi : w.Attentive seen) {l : Listener (Nat × κ)}
    (hl : l ∈ w.registry.listeners) (htype : l.type = .stateChange) (request : Request κ) :
    (w.ask (request.marked (w.registry.lastNumber + 1))).newsFor seen l = w.newsFor seen l := by
  rw [newsFor, ask_eq hi.tidy, newsFor]
  simp only [List.flatMap_append]
  rw [hi.coming_framesFor hl htype, List.nil_append]

/-- The frames that a request adds fit, and the others still do. -/
theorem frames_ask (hi : w.Attentive seen) (request : Request κ) :
    ∀ f ∈ (w.ask (request.marked (w.registry.lastNumber + 1))).delivery,
      FitFrame w.store
        (w.registry.heed (request.marked (w.registry.lastNumber + 1))).lastNumber f := by
  intro f hmem
  rw [ask_eq hi.tidy] at hmem
  rcases List.mem_append.mp hmem with hmem | hmem
  · rcases mem_framesFor hmem with ⟨news, callbacks, hnews, rfl⟩ | rfl
    · exact hi.bounded_announcement request hnews
    · trivial
  · exact (hi.frames f hmem).mono (w.registry.lastNumber_le_heed _)

/-- After a request the last news of every listener is up to date: a new one
starts with the present state. -/
theorem latest_ask (hi : w.Attentive seen) (request : Request κ) {l : Listener (Nat × κ)}
    (hl : l ∈ (w.registry.heed (request.marked (w.registry.lastNumber + 1))).listeners)
    (htype : l.type = .stateChange) {news : News}
    (hlast : ((w.ask (request.marked (w.registry.lastNumber + 1))).newsFor seen l).getLast? =
      some news) : w.Current l news := by
  rcases Registry.mem_heed_stateChange hl htype with hold | ⟨portlet, callback, heq, hhandle⟩
  · rw [hi.newsFor_ask hold htype] at hlast
    exact hi.latest l hold htype news hlast
  · rw [heq, hi.newsFor_of_added (Request.mark_of_listen heq) hhandle] at hlast
    rcases List.mem_append.mp (List.mem_of_getLast? hlast) with hnews | hnews
    · split at hnews
      · obtain ⟨state, hfound, rfl⟩ := List.mem_map.mp hnews
        rw [Option.mem_toList] at hfound
        exact ⟨_, rfl, by rw [hhandle], by rw [hhandle]; exact hfound⟩
      · cases hnews
    · exact hi.current_of_coming (by rw [hhandle]; exact Nat.lt_succ_self _) hnews

/-- After a request every listener has news, if that is so configured. -/
theorem announced_ask (hi : w.Attentive seen) (request : Request κ)
    (hannounce : w.config.announceInitial = true) {l : Listener (Nat × κ)}
    (hl : l ∈ (w.registry.heed (request.marked (w.registry.lastNumber + 1))).listeners)
    (htype : l.type = .stateChange)
    (hfound : (w.store.state? l.handle.portlet).isSome = true) :
    (w.ask (request.marked (w.registry.lastNumber + 1))).newsFor seen l ≠ [] := by
  rcases Registry.mem_heed_stateChange hl htype with hold | ⟨portlet, callback, heq, hhandle⟩
  · rw [hi.newsFor_ask hold htype]
    exact hi.announced hannounce l hold htype hfound
  · rw [heq, hi.newsFor_of_added (Request.mark_of_listen heq) hhandle, if_pos hannounce]
    rw [hhandle] at hfound
    obtain ⟨state, hfound⟩ := Option.isSome_iff_exists.mp hfound
    simp [hfound]

/-- A request keeps the hub attentive. -/
theorem ask (hi : w.Attentive seen) (request : Request κ) :
    (w.ask (request.marked (w.registry.lastNumber + 1))).Attentive seen := by
  have hpicture := picture_ask w (request.marked (w.registry.lastNumber + 1))
  have hstate := Store.state?_of_picture_eq hpicture
  have hconfig : (w.ask (request.marked (w.registry.lastNumber + 1))).config = w.config := by
    rw [ask_eq hi.tidy]
  have hregistry := registry_ask hi.tidy (request.marked (w.registry.lastNumber + 1))
  refine ⟨?_, ?_, ?_, ?_, ?_, ?_, ?_⟩
  · rw [Store.ids_eq, Store.portlets_eq, hpicture, ← Store.portlets_eq, ← Store.ids_eq]
    exact hi.ids
  · rw [hregistry]
    exact hi.tidy.heed _
  · intro l hl
    rw [hregistry] at hl
    rcases Registry.mem_heed hl with hl | ⟨portlet, name, callback, heq, _, hhandle, hcallback⟩
    · exact hi.marked l hl
    · rw [hcallback, hhandle]
      exact Request.mark_of_listen heq
  · intro number hnumber
    rw [hregistry] at hnumber
    exact hi.heard number (Nat.lt_of_le_of_lt (w.registry.lastNumber_le_heed _) hnumber)
  · intro f hmem
    rw [hregistry]
    exact (hi.frames_ask request f hmem).of_state?_eq hstate
  · intro l hl htype news hlast
    rw [hregistry] at hl
    rw [Current, hstate]
    exact hi.latest_ask request hl htype hlast
  · intro hannounce l hl htype hfound
    rw [hconfig] at hannounce
    rw [hregistry] at hl
    rw [hstate] at hfound
    exact hi.announced_ask request hannounce hl htype hfound

/-- Every step of a watched run keeps the hub attentive. -/
theorem step (hi : w.Attentive seen) {m : Move κ}
    (hs : Step w (m.marked (w.registry.lastNumber + 1)) w' signs) :
    w'.Attentive (seen ++ signs) := by
  generalize hm : m.marked (w.registry.lastNumber + 1) = marked at hs
  cases hs with
  | grant call attended s update holds quiet =>
    rw [List.append_nil]
    exact hi.commit quiet _ s update
  | ask request may =>
    cases m <;> cases hm
    rw [List.append_nil]
    exact hi.ask _
  | proceed w' signs proceeds => exact hi.proceed (proceeds_of_proceed proceeds)
  | finish callback rest runs => exact hi.pop runs (fun _ => rfl) rfl
  | release call attended result holds quiet =>
    exact hi.aside rfl rfl rfl rfl (by cases attended <;> rfl)
  | _ => exact hi.aside rfl rfl rfl rfl rfl

/-- So does a watched run. -/
theorem watch (hi : w.Attentive seen) {moves : List (Move κ)}
    (hw : w.watch moves = some (w', signs)) : w'.Attentive (seen ++ signs) := by
  induction moves generalizing w seen signs with
  | nil =>
    cases hw
    rw [List.append_nil]
    exact hi
  | cons m moves ih =>
    obtain ⟨mid, first, more, hmove, hrest, rfl⟩ := watch_cons_iff.mp hw
    rw [← List.append_assoc]
    exact ih (hi.step (step_of_move hmove)) hrest

theorem start {page : Page} (config : Config) (hp : page.ids.Nodup) :
    (Hub.start page config : Hub (Nat × κ)).Attentive [] where
  ids := (sound_start (κ := κ) config hp).ids
  tidy := Registry.tidy_empty
  marked := by
    intro l hl
    cases hl
  heard := fun _ _ => rfl
  frames := by
    intro frame hmem
    cases hmem
  latest := by
    intro l hl
    cases hl
  announced := by
    intro _ l hl
    cases hl

end Attentive

/-! ## Quiet hubs -/

/-- The configuration stays as it is. -/
theorem config_of_run {page : Page} {config : Config} {start h : Hub κ}
    (valid : ofPage page config = .ok start) {moves : List (Move κ)} {signs : List (Sign κ)}
    (runs : start.run moves = some (h, signs)) : h.config = config := by
  have hstart : start.config = config := by
    obtain ⟨_, rfl⟩ := start_of_ofPage valid
    rfl
  exact (run_invariant (I := fun h => h.config = config ∧ h.registry.Tidy)
    (fun hs hi => ⟨(hs.config_eq hi.2).trans hi.1, hs.tidy hi.2⟩) runs
    ⟨hstart, tidy_of_ofPage valid⟩).1

/-- Take any run on a valid page to a hub that delivers nothing, and watch it: each
callback is marked with the number of the handle under which it was added, and
without the marks everything is as before.  Then for every listener that is
attached for state changes of a portlet of the page,

* the last news that it has been called with, if any, is of its portlet and
  carries the portlet's present state, and
* it has been called if the configuration has new listeners told the state.

Numbers are not given twice (`Registry.lastNumber_le_heed`), so that what has been
heard under a number has been heard by one listener. -/
theorem last_heard_is_current {page : Page} {config : Config} {start h : Hub κ}
    (valid : ofPage page config = .ok start) {moves : List (Move κ)} {signs : List (Sign κ)}
    (runs : start.run moves = some (h, signs)) (quiet : h.delivery = []) :
    ∃ (w : Hub (Nat × κ)) (heard : List (Sign (Nat × κ))),
      (Hub.start page config).watch moves = some (w, heard) ∧
      w.map Prod.snd = h ∧ heard.map (Sign.map Prod.snd) = signs ∧
      (∀ l ∈ w.registry.listeners, l.callback.1 = l.handle.number) ∧
      ∀ l ∈ h.registry.listeners, l.handle.eventType = onStateChange →
        ∀ r ∈ h.store.records, r.portlet.id = l.handle.portlet →
          (∀ news, (Sign.heardBy l.handle.number heard).getLast? = some news →
            ∃ change, news = .stateChange change ∧ change.portlet = r.portlet.id ∧
              change.state = r.state) ∧
          (config.announceInitial = true → Sign.heardBy l.handle.number heard ≠ []) := by
  obtain ⟨hnodup, rfl⟩ := start_of_ofPage valid
  have hconfig := config_of_run valid runs
  obtain ⟨w, heard, hw, rfl, rfl⟩ :=
    watch_of_run (w := (Hub.start page config : Hub (Nat × κ))) runs
  have hi : w.Attentive heard := (Attentive.start config hnodup).watch hw
  refine ⟨w, heard, hw, rfl, rfl, hi.marked, ?_⟩
  intro l hattached hname r hr hid
  obtain ⟨l, hl, rfl⟩ := List.mem_map.mp hattached
  have htype : l.type = .stateChange := by
    have hparse := hi.tidy.types l hl
    have hname : l.handle.eventType = onStateChange := hname
    rw [hname, EventType.parse_onStateChange] at hparse
    exact (Option.some.inj hparse).symm
  have hstate : w.store.state? l.handle.portlet = some r.state := by
    have hget : w.store.get? l.handle.portlet = some r :=
      (Store.get?_eq_some_iff hi.ids _ _).mpr ⟨hr, hid⟩
    rw [Store.state?, hget]
    rfl
  have hquiet : w.delivery = [] := List.map_eq_nil_iff.mp quiet
  have hnews : w.newsFor heard l = Sign.heardBy l.handle.number heard := by
    rw [newsFor, hquiet, List.flatMap_nil, List.append_nil]
  refine ⟨?_, ?_⟩
  · intro news hlast
    have hlast : (w.newsFor heard l).getLast? = some news := hnews ▸ hlast
    obtain ⟨change, heq, hportlet, hcurrent⟩ := hi.latest l hl htype news hlast
    refine ⟨change, heq, hportlet.trans hid.symm, ?_⟩
    rw [hstate] at hcurrent
    exact (Option.some.inj hcurrent).symm
  · intro hannounce
    have hsome := hi.announced (hconfig.symm ▸ hannounce) l hl htype (by rw [hstate]; rfl)
    rwa [hnews] at hsome

/-- The map listens, and the weather report changes the city. -/
def weatherIsHeard : List (Move Unit) :=
  [.ask (.listen "map" onStateChange ()), .proceed, .finish, .proceed, .proceed,
    .enter weatherCall, .acquire, .send,
    .receive (.granted (SimulatedServer.grant weatherSubmission)),
    .proceed, .proceed, .proceed, .proceed, .finish, .proceed, .proceed, .release]

/-- The listener of the map is called twice, and has heard of Oslo last. -/
theorem map_has_heard_of_oslo :
    ∃ h signs, Sample.hub.run weatherIsHeard = some (h, signs) ∧ h.delivery = [] ∧
      ∃ w heard, (Hub.start Sample.page {}).watch weatherIsHeard = some (w, heard) ∧
        (Sign.heardBy 1 heard).length = 2 ∧
        ∃ change, (Sign.heardBy 1 heard).getLast? = some (.stateChange change) ∧
          change.state = ⟨"VIEW", "NORMAL", .ofEntries [("city", [some "Oslo"])]⟩ := by
  obtain ⟨h, signs, runs, quiet, l, hl, hhandle, r, hr, hid, hstate⟩ :
      ∃ h signs, Sample.hub.run weatherIsHeard = some (h, signs) ∧ h.delivery = [] ∧
        ∃ l ∈ h.registry.listeners, l.handle = ⟨1, "map", onStateChange⟩ ∧
        ∃ r ∈ h.store.records, r.portlet.id = "map" ∧
          r.state = ⟨"VIEW", "NORMAL", .ofEntries [("city", [some "Oslo"])]⟩ :=
    ⟨_, _, rfl, rfl, _, List.mem_cons_self, rfl, _, List.mem_cons_self, rfl, rfl⟩
  obtain ⟨w, heard, hw, _, _, _, hlatest⟩ :=
    last_heard_is_current Sample.hub_of_page runs quiet
  obtain ⟨hcurrent, hsome⟩ := hlatest l hl (by rw [hhandle]) r hr (by rw [hhandle, hid])
  rw [hhandle] at hcurrent hsome
  have htwice : (Sign.heardBy 1 heard).length = 2 := by
    cases hw
    rfl
  cases hlast : (Sign.heardBy 1 heard).getLast? with
  | none => exact absurd (List.getLast?_eq_none_iff.mp hlast) (hsome rfl)
  | some news =>
    obtain ⟨change, rfl, _, hchange⟩ := hcurrent news hlast
    exact ⟨h, signs, runs, quiet, w, heard, hw, htwice, change, hlast, hchange.trans hstate⟩

end Hub

end PortletPage
