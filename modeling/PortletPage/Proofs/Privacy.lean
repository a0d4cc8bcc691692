import PortletPage.Proofs.Effect
import PortletPage.Proofs.Sites

/-!
# Private parameters stay private

Take two runs of a site whose inputs are the same but for the private matters of a
portlet `X`.  Then after each input the stores are alike, the registries are the
same, and the other portlets are told the same
(`Site.private_parameters_do_not_flow`).  The routines need not be the same, as `X`
itself may be told more in one run than in the other.

* `Site.Alike.intake`: in sites that are alike, inputs that are alike come to the
  like.
* `Site.Alike.run`: so runs from sites that are alike lead to the like.
-/

namespace PortletPage

/-! ## What is alike -/

section

variable {κ : Type}

/-- Two inputs are the same but for the private matters of `X`. -/
inductive Input.Alike (X : Portlet) : Input κ → Input κ → Prop
  | call (call call' : Call) (alike : call.Alike X call') : Alike X (.call call) (.call call')
  | request (request : Request κ) : Alike X (.request request) (.request request)
  | switch (failing : Bool) : Alike X (.switch failing) (.switch failing)

/-- Two sites are alike but for the private matters of `X`. -/
structure Site.Alike (X : Portlet) (site site' : Site κ) : Prop where
  store : site.hub.store.Alike X site'.hub.store
  registry : site'.hub.registry = site.hub.registry
  config : site'.hub.config = site.hub.config
  failing : site'.server.failing = site.server.failing

/-- Two news are alike: they are of state changes that are alike, or the same
message. -/
inductive News.Alike : News → News → Prop
  | stateChange {c c' : StateChange} (alike : c.Alike c') : Alike (.stateChange c) (.stateChange c')
  | message (m : Message) : Alike (.message m) (.message m)

/-- Whether the news is of a state of `X`. -/
def News.isOf (X : Portlet) : News → Bool
  | .stateChange change => change.portlet = X.id
  | .message _ => false

/-- The same callbacks are called in the same order, with news that are alike, if
news of `X` are left out. -/
def CalledAlike (X : Portlet) (calls calls' : List (κ × News)) : Prop :=
  List.Forall₂ (fun call call' => call.1 = call'.1 ∧ call.2.Alike call'.2)
    (calls.filter fun call => !call.2.isOf X) (calls'.filter fun call => !call.2.isOf X)

/-- Two acts have led to the same but for the private matters of `X`. -/
structure Upshot.Alike (X : Portlet) (upshot upshot' : Upshot κ) : Prop where
  after : upshot.after.Alike X upshot'.after
  news : List.Forall₂ StateChange.Alike
    (StateChange.ofOthers X upshot.news) (StateChange.ofOthers X upshot'.news)
  calls : upshot.whole = true → upshot'.whole = true → CalledAlike X upshot.calls upshot'.calls

/-! ## Two runs -/

section TwoRuns

variable {X : Portlet} {site site' taken taken' after after' : Site κ}

/-- The calls with news of `X` are those for the changes of `X`. -/
theorem Registry.filter_audience (registry : Registry κ) (changes : List StateChange) :
    (registry.audience changes).filter (fun call => !call.2.isOf X) =
      registry.audience (StateChange.ofOthers X changes) := by
  induction changes with
  | nil => rfl
  | cons change changes ih =>
    rw [audience, List.flatMap_cons, List.filter_append, ← audience, ih]
    by_cases hX : change.portlet = X.id <;>
      simp [audience, StateChange.ofOthers, News.isOf, List.filter_map, Function.comp_def, hX]

/-- The listeners of changes that are alike are the same. -/
theorem CalledAlike.audience {changes changes' : List StateChange} (registry : Registry κ)
    (h : List.Forall₂ StateChange.Alike (StateChange.ofOthers X changes)
      (StateChange.ofOthers X changes')) :
    CalledAlike X (registry.audience changes) (registry.audience changes') := by
  rw [CalledAlike, registry.filter_audience, registry.filter_audience]
  refine List.rel_flatMap h ?_
  intro change change' halike
  show List.Forall₂ _ ((registry.listenersFor change.portlet .stateChange).map _)
    ((registry.listenersFor change'.portlet .stateChange).map _)
  rw [halike.portlet, List.forall₂_map_left_iff, List.forall₂_map_right_iff]
  exact List.forall₂_same.mpr fun _ _ => ⟨rfl, .stateChange halike⟩

/-- Registration leaves stores alike. -/
theorem Store.Alike.heed {s s' : Store} (h : s.Alike X s') (request : Request κ) :
    (s.heed request).Alike X (s'.heed request) := by
  cases request with
  | register portlet =>
    rw [Store.heed, Store.heed, Store.register, Store.register, Store.Alike,
      List.forall₂_map_left_iff, List.forall₂_map_right_iff]
    refine h.imp fun r r' hr => ?_
    rw [hr.portlet]
    split
    · exact ⟨rfl, hr.known, hr.shared, hr.whole⟩
    · exact hr
  | _ => exact h

/-- What a request announces is alike, unless it is a state of `X`. -/
theorem Site.Alike.announcement (h : site.Alike X site') (request : Request κ) :
    (site.hub.announcement request = none ∧ site'.hub.announcement request = none) ∨
      ∃ news news' callbacks, site.hub.announcement request = some (news, callbacks) ∧
        site'.hub.announcement request = some (news', callbacks) ∧
        news'.isOf X = news.isOf X ∧ (news.isOf X = false → news.Alike news') := by
  cases request with
  | listen portlet eventName callback =>
    simp only [Hub.announcement, h.config]
    split
    · rw [Store.state?, Store.state?]
      rcases h.store.get? portlet with ⟨hnone, hnone'⟩ | ⟨r, r', hfound, hfound', hr⟩
      · exact .inl ⟨by rw [hnone]; rfl, by rw [hnone']; rfl⟩
      · have hid := (Store.mem_of_get? hfound).2
        rw [hfound, hfound']
        refine .inr ⟨_, _, _, rfl, rfl, rfl, ?_⟩
        intro hother
        have hX : portlet ≠ X.id := of_decide_eq_false hother
        have hagrees := hr.whole (by rw [hid]; exact hX)
        obtain ⟨_, _, hget⟩ := (RenderState.agrees_iff _ _).mp hagrees
        refine .stateChange ⟨rfl, rfl, hagrees, ?_, rfl, rfl⟩
        intro name
        rw [Parameters.mem_names_iff, Parameters.mem_names_iff, hget]
    · exact .inl ⟨rfl, rfl⟩
  | dispatch source eventName payload =>
    simp only [Hub.announcement, h.registry]
    split
    · exact .inl ⟨rfl, rfl⟩
    · exact .inr ⟨_, _, _, rfl, rfl, rfl, fun _ => .message _⟩
  | _ => exact .inl ⟨rfl, rfl⟩

/-- The state changes that a request announces are alike. -/
theorem Site.Alike.announced (h : site.Alike X site') (request : Request κ) :
    List.Forall₂ StateChange.Alike (StateChange.ofOthers X (site.hub.announced request))
      (StateChange.ofOthers X (site'.hub.announced request)) := by
  rw [Hub.announced, Hub.announced]
  rcases h.announcement request with ⟨hnone, hnone'⟩ | hsome
  · rw [hnone, hnone']
    exact .nil
  · obtain ⟨news, news', callbacks, hnews, hnews', hsame, halike⟩ := hsome
    rw [hnews, hnews']
    cases hX : news.isOf X with
    | true =>
      rw [hX] at hsame
      have hnothing : ∀ {news : News}, news.isOf X = true →
          StateChange.ofOthers X ([(news, callbacks)].filterMap fun p => p.1.change?) = [] := by
        intro news hX
        cases news with
        | stateChange change =>
          simpa [News.isOf, News.change?, StateChange.ofOthers] using hX
        | message m => cases hX
      rw [Option.toList_some, Option.toList_some, hnothing hX, hnothing hsame]
      exact .nil
    | false =>
      rw [hX] at hsame
      cases halike hX with
      | stateChange alike =>
        have hX : _ ≠ X.id := of_decide_eq_false hX
        have hX' : _ ≠ X.id := of_decide_eq_false hsame
        simpa [News.change?, StateChange.ofOthers, hX, hX'] using alike
      | message m => exact .nil

/-- The calls with what a request announces are alike. -/
theorem Site.Alike.addressed (h : site.Alike X site') (request : Request κ) :
    CalledAlike X (site.hub.addressed request) (site'.hub.addressed request) := by
  rw [Hub.addressed, Hub.addressed]
  rcases h.announcement request with ⟨hnone, hnone'⟩ | hsome
  · rw [hnone, hnone']
    exact .nil
  · obtain ⟨news, news', callbacks, hnews, hnews', hsame, halike⟩ := hsome
    rw [hnews, hnews', CalledAlike]
    cases hX : news.isOf X with
    | true =>
      rw [hX] at hsame
      simp [List.filter_map, Function.comp_def, hX, hsame]
    | false =>
      rw [hX] at hsame
      simp [List.filter_map, Function.comp_def, hX, hsame, List.forall₂_same, halike hX]

/-- Inputs come to the same but for the private matters of `X`. -/
structure Intake.Alike (X : Portlet) (intake intake' : Intake κ) : Prop where
  news : List.Forall₂ StateChange.Alike
    (StateChange.ofOthers X intake.news) (StateChange.ofOthers X intake'.news)
  calls : CalledAlike X intake.calls intake'.calls
  store : intake.store.Alike X intake'.store
  registry : intake'.registry = intake.registry
  failing : intake'.failing = intake.failing

theorem Site.Alike.intake (h : site.Alike X site') (hi : site.Steady) (hi' : site'.Steady)
    {input input' : Input κ} (hinput : input.Alike X input') :
    (site.intake input).Alike X (site'.intake input') := by
  cases hinput with
  | call call call' halike =>
    obtain ⟨hstores, htold⟩ := h.store.respond hi.ids hi'.ids halike site.server.failing
    rw [Site.intake, Site.intake, h.registry, h.failing]
    exact ⟨htold, .audience _ htold, hstores, rfl, rfl⟩
  | request request =>
    exact ⟨h.announced request, h.addressed request, h.store.heed request,
      congrArg (Registry.heed · request) h.registry, h.failing⟩
  | switch failing => exact ⟨.nil, .nil, h.store, h.registry, rfl⟩

/-- Inputs that are the same but for the private matters of `X` leave sites alike. -/
theorem Site.Alike.take (h : site.Alike X site') {intake intake' : Intake κ}
    (hintake : intake.Alike X intake') (ht : site.Takes intake taken)
    (ht' : site'.Takes intake' taken') : taken.Alike X taken' where
  store := ht.store ▸ ht'.store ▸ hintake.store
  registry := by rw [ht.registry, ht'.registry, hintake.registry]
  config := by rw [ht.config, ht'.config, h.config]
  failing := by rw [ht.failing, ht'.failing, hintake.failing]

/-- Whatever the routines are, they leave sites alike. -/
theorem Site.Alike.goOn (h : site.Alike X site') {calls calls' : List (κ × News)}
    (hg : site.GoesOn calls after) (hg' : site'.GoesOn calls' after') : after.Alike X after' where
  store := hg.store ▸ hg'.store ▸ h.store
  registry := by rw [hg.registry, hg'.registry, h.registry]
  config := by rw [hg.config, hg'.config, h.config]
  failing := by rw [hg.server, hg'.server, h.failing]

/-- Runs from sites that are alike have upshots that are alike. -/
theorem Site.Alike.run (h : site.Alike X site') (hi : site.Steady) (hi' : site'.Steady)
    {acts acts' : List (Act κ)}
    (hacts : List.Forall₂ (fun a a' => a.input.Alike X a'.input) acts acts')
    {upshots upshots' : List (Upshot κ)} (hr : site.run acts = some upshots)
    (hr' : site'.run acts' = some upshots') :
    List.Forall₂ (Upshot.Alike X) upshots upshots' := by
  induction hacts generalizing site site' upshots upshots' with
  | nil =>
    cases hr
    cases hr'
    exact .nil
  | @cons a a' acts acts' hinput _ ih =>
    obtain ⟨upshot, rest, ha, hrest, rfl⟩ := Site.run_cons_iff.mp hr
    obtain ⟨upshot', rest', ha', hrest', rfl⟩ := Site.run_cons_iff.mp hr'
    obtain ⟨taken, after, calls, ht, hg, rfl⟩ := Site.act_iff.mp ha
    obtain ⟨taken', after', calls', ht', hg', rfl⟩ := Site.act_iff.mp ha'
    have htakes := Site.takes_of_take hi ht
    have htakes' := Site.takes_of_take hi' ht'
    have hgoes := Site.goesOn_of_goOn hg
    have hgoes' := Site.goesOn_of_goOn hg'
    have hintake := h.intake hi hi' hinput
    have hafter := (h.take hintake htakes htakes').goOn hgoes hgoes'
    refine .cons ⟨hafter, ?_, ?_⟩
      (ih hafter ((hi.take ht).goOn hgoes) ((hi'.take ht').goOn hgoes') hrest hrest')
    · show List.Forall₂ _ (StateChange.ofOthers X (site.hub.arrivals taken.hub))
        (StateChange.ofOthers X (site'.hub.arrivals taken'.hub))
      rw [htakes.news, htakes'.news]
      exact hintake.news
    · intro whole whole'
      have hcalls : calls = (site.intake a.input).calls :=
        Site.calls_of_whole htakes hgoes whole
      have hcalls' : calls' = (site'.intake a'.input).calls :=
        Site.calls_of_whole htakes' hgoes' whole'
      show CalledAlike X calls calls'
      rw [hcalls, hcalls']
      exact hintake.calls

/-- A site is like itself. -/
theorem Site.Alike.refl {X : Portlet} (hi : site.Steady) (onPage : X ∈ site.hub.store.portlets) :
    site.Alike X site := by
  refine ⟨List.forall₂_same.mpr ?_, rfl, rfl, rfl⟩
  intro r hr
  refine ⟨rfl, ?_, fun _ _ _ => rfl, fun _ => (RenderState.agrees_iff _ _).mpr
    ⟨rfl, rfl, fun _ => rfl⟩⟩
  intro hid
  obtain ⟨own, hown, rfl⟩ := List.mem_map.mp onPage
  rw [List.inj_on_of_nodup_map hi.ids hr hown hid]

end TwoRuns

/-- Take a hub in the course of a run on a valid page, with no call under way, and a
portlet `X` of the page.  Over the simulated server, take two runs from there whose
inputs are the same but for the calls of `X`: these may wish for other modes, other
window states and other bindings of names that `X` does not declare public.  Then
after every act,

* the states of every other portlet agree in the two runs,
* the names that `X` declares public are bound alike in its states,
* the same listeners are attached,
* the same portlets other than `X` have been told of state changes, in the same
  order and for the same reasons, of states that agree, with the same changed
  names and the same flags, and
* if in both runs nothing was being delivered before the act, and nothing is after
  it, then the same callbacks have been called in the same order with such news of
  the portlets other than `X`, and with the same messages.

If nothing is being delivered, then there is a run for every list of inputs in which
each of them is delivered in full before the next one comes. -/
theorem Site.private_parameters_do_not_flow {h : Hub κ} (reach : h.Reachable)
    (alone : h.AtRest) (server : SimulatedServer) {X : Portlet}
    (onPage : X ∈ h.store.portlets) :
    (∀ acts acts' upshots upshots',
      List.Forall₂ (fun a a' => a.input.Alike X a'.input) acts acts' →
      (⟨h, server⟩ : Site κ).run acts = some upshots →
      (⟨h, server⟩ : Site κ).run acts' = some upshots' →
      List.Forall₂ (Upshot.Alike X) upshots upshots') ∧
    (h.delivery = [] → ∀ inputs : List (Input κ), ∃ acts upshots,
      acts.map Act.input = inputs ∧ (⟨h, server⟩ : Site κ).run acts = some upshots ∧
        ∀ upshot ∈ upshots, upshot.whole = true) := by
  have hi : (⟨h, server⟩ : Site κ).Steady := ⟨reach.sound.ids, reach.tidy, alone.1⟩
  refine ⟨?_, ?_⟩
  · intro acts acts' upshots upshots' inputs runs runs'
    exact (Site.Alike.refl hi onPage).run hi hi inputs runs runs'
  · intro quiet inputs
    exact Site.exists_run hi alone quiet inputs

end

/-! ## A private matter of the weather report -/

namespace Site

/-- The map listens.  The weather report changes the city, and then the unit only,
but by now the server fails. -/
def weatherActs (unit : String) : List (Act Unit) :=
  [⟨.request (.listen "map" onStateChange ()), [.proceed, .finish, .proceed, .proceed]⟩,
    ⟨.call ⟨0, "weather", .state ⟨"VIEW", "NORMAL",
        .ofEntries [("unit", [some unit]), ("city", [some "Oslo"])]⟩⟩,
      [.proceed, .proceed, .proceed, .proceed, .finish, .proceed, .proceed, .release]⟩,
    ⟨.switch true, []⟩,
    ⟨.call ⟨1, "weather", .state ⟨"VIEW", "NORMAL",
        .ofEntries [("city", [some "Oslo"]), ("unit", [some "K"])]⟩⟩, []⟩]

/-- The unit is private to the weather report. -/
theorem weatherActs_alike (unit unit' : String) :
    List.Forall₂ (fun a a' => a.input.Alike Hub.weatherRecord.portlet a'.input)
      (weatherActs unit) (weatherActs unit') := by
  have hshared : ∀ name, Hub.weatherRecord.portlet.isPublic name = true →
      (Parameters.ofEntries [("unit", [some unit]), ("city", [some "Oslo"])]).get? name =
        (Parameters.ofEntries [("unit", [some unit']), ("city", [some "Oslo"])]).get? name := by
    intro name hpublic
    have hname : name = "city" ∨ name = "zoom" := by
      simpa [Portlet.isPublic, Hub.weatherRecord] using hpublic
    rcases hname with rfl | rfl <;> rfl
  refine .cons (.request _)
    (.cons (.call _ _ ⟨rfl, fun _ => .state _ _ hshared, fun hid => absurd rfl hid⟩)
      (.cons (.switch true) (.cons (.call _ _ ⟨rfl, fun _ => .state _ _ fun _ _ => rfl,
        fun hid => absurd rfl hid⟩) .nil)))

/-- In one run the second submission changes the unit and fails, in the other it
changes nothing and is not sent.  The map has heard the same. -/
theorem units_of_weather_do_not_flow :
    ∃ upshots upshots' : List (Upshot Unit),
      (⟨Sample.hub, {}⟩ : Site Unit).run (weatherActs "C") = some upshots ∧
      (⟨Sample.hub, {}⟩ : Site Unit).run (weatherActs "K") = some upshots' ∧
      upshots.map (fun u => u.after.server.calls) = [0, 1, 1, 2] ∧
      upshots'.map (fun u => u.after.server.calls) = [0, 1, 1, 1] ∧
      upshots.map (fun u => (u.whole, u.calls.length)) =
        [(true, 1), (true, 1), (true, 0), (true, 0)] ∧
      List.Forall₂ (Upshot.Alike Hub.weatherRecord.portlet) upshots upshots' := by
  have reach : Sample.hub.Reachable :=
    ⟨Sample.page, {}, Sample.hub, [], [], rfl, rfl⟩
  have onPage : Hub.weatherRecord.portlet ∈ Sample.hub.store.portlets :=
    List.mem_cons_of_mem _ List.mem_cons_self
  obtain ⟨halike, _⟩ := private_parameters_do_not_flow reach ⟨rfl, rfl⟩ {} onPage
  exact ⟨_, _, rfl, rfl, rfl, rfl, rfl, halike _ _ _ _ (weatherActs_alike "C" "K") rfl rfl⟩

end Site

end PortletPage
