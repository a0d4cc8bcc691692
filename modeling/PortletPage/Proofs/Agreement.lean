import PortletPage.Proofs.Runs
import PortletPage.Proofs.Simulated

/-!
# Agreement on public parameters

A store agrees on a name when all portlets that declare it public have the same
binding of it.  Agreement is not lost as long as the server answers faithfully,
that is, as long as its public changes tell what it does to the submitter's own
public names.

* `Record.get?_follow_of_faithful`: a faithful update treats the submitter like
  every other portlet.  Both parts of the main result follow from it.
* `Store.Agreed.commit` and `Store.agreed_commit_of_changed`: a faithful commit
  keeps agreement, and brings it about for a name that it changes.
* `SimulatedServer.grant_faithful`: the simulated server answers faithfully.
* `Hub.agreement_of_faithful_answers`: the same for every run of a hub.
-/

namespace PortletPage

/-- All portlets that declare the name public have the same binding of it. -/
def Store.Agreed (s : Store) (name : String) : Prop :=
  ∀ r ∈ s.records, ∀ r' ∈ s.records, r.isPublic name = true → r'.isPublic name = true →
    r.state.parameters.get? name = r'.state.parameters.get? name

instance (s : Store) (name : String) : Decidable (s.Agreed name) :=
  inferInstanceAs (Decidable (∀ r ∈ s.records, ∀ r' ∈ s.records, r.isPublic name = true →
    r'.isPublic name = true →
      r.state.parameters.get? name = r'.state.parameters.get? name))

/-- For each name that the submitter declares public, the public changes tell
its binding in the granted state: the last change of the name asks for that
binding, or there is no change of the name and the binding is as before. -/
def Update.Faithful (update : Update) (submitter : Record) : Prop :=
  ∀ name, submitter.isPublic name = true →
    match Change.last? update.publicChanges name with
    | some values => values = update.state.parameters.get? name
    | none =>
      update.state.parameters.get? name = submitter.state.parameters.get? name

theorem Update.Faithful.get?_eq {update : Update} {submitter : Record}
    (h : update.Faithful submitter) {name : String}
    (hpublic : submitter.isPublic name = true) :
    update.state.parameters.get? name =
      (Change.last? update.publicChanges name).getD
        (submitter.state.parameters.get? name) := by
  have hname := h name hpublic
  cases hlast : Change.last? update.publicChanges name with
  | none =>
    rw [hlast] at hname
    exact hname
  | some values =>
    rw [hlast] at hname
    exact hname.symm

theorem Update.faithful_of_get?_eq {update : Update} {submitter : Record}
    (h : ∀ name, submitter.isPublic name = true →
      (Change.last? update.publicChanges name).getD
        (submitter.state.parameters.get? name) = update.state.parameters.get? name) :
    update.Faithful submitter := by
  intro name hpublic
  have hname := h name hpublic
  cases hlast : Change.last? update.publicChanges name with
  | none =>
    rw [hlast] at hname
    exact hname.symm
  | some values =>
    rw [hlast] at hname
    exact hname

/-! ## Faithful commits -/

/-- A faithful update treats the submitter like every other portlet: a portlet
that declares a name public follows the last public change of it. -/
theorem Record.get?_follow_of_faithful {s : Store} (hids : s.ids.Nodup) {submitter : String}
    {own : Record} (hown : s.get? submitter = some own) {update : Update}
    (hf : update.Faithful own) {r : Record} (hr : r ∈ s.records) {name : String}
    (hpublic : r.isPublic name = true) :
    (r.follow submitter update).state.parameters.get? name =
      (Change.last? update.publicChanges name).getD (r.state.parameters.get? name) := by
  rw [Record.get?_follow]
  by_cases hid : r.portlet.id = submitter
  · have hget : s.get? submitter = some r := (Store.get?_eq_some_iff hids _ _).mpr ⟨hr, hid⟩
    rw [hown] at hget
    cases hget
    rw [if_pos hid, hf.get?_eq hpublic]
  · rw [if_neg hid, if_pos hpublic]

namespace Store

variable {s : Store} {submitter : String} {own : Record} {update : Update}

/-- Agreement after a commit is agreement on what the records have become. -/
theorem agreed_commit_iff (s : Store) (submitter : String) (update : Update) (reason : Reason)
    (name : String) :
    (s.commit submitter update reason).2.Agreed name ↔
      ∀ r ∈ s.records, ∀ r' ∈ s.records, r.isPublic name = true → r'.isPublic name = true →
        (r.follow submitter update).state.parameters.get? name =
          (r'.follow submitter update).state.parameters.get? name := by
  simp only [Agreed, records_commit, List.forall_mem_map, Record.follow_isPublic]

/-- A faithful commit keeps agreement. -/
theorem Agreed.commit (hids : s.ids.Nodup) (hown : s.get? submitter = some own)
    (hf : update.Faithful own) (reason : Reason) {name : String} (ha : s.Agreed name) :
    (s.commit submitter update reason).2.Agreed name := by
  rw [agreed_commit_iff]
  intro r hr r' hr' hpublic hpublic'
  rw [Record.get?_follow_of_faithful hids hown hf hr hpublic,
    Record.get?_follow_of_faithful hids hown hf hr' hpublic', ha r hr r' hr' hpublic hpublic']

/-- A faithful commit that changes the submitter's binding of one of its public
names brings about agreement on that name. -/
theorem agreed_commit_of_changed (hids : s.ids.Nodup) (hown : s.get? submitter = some own)
    (hf : update.Faithful own) (reason : Reason) {name : String}
    (hpublic : own.isPublic name = true)
    (hchanged : update.state.parameters.get? name ≠ own.state.parameters.get? name) :
    (s.commit submitter update reason).2.Agreed name := by
  rw [agreed_commit_iff]
  -- the changes mention the name, or the binding would be the one before
  obtain ⟨values, hlast⟩ : ∃ values, Change.last? update.publicChanges name = some values := by
    cases hlast : Change.last? update.publicChanges name with
    | some values => exact ⟨values, rfl⟩
    | none =>
      have heq := hf.get?_eq hpublic
      rw [hlast] at heq
      exact absurd heq hchanged
  intro r hr r' hr' hr_public hr'_public
  rw [Record.get?_follow_of_faithful hids hown hf hr hr_public,
    Record.get?_follow_of_faithful hids hown hf hr' hr'_public, hlast]
  rfl

/-- Agreement is a property of the picture. -/
theorem Agreed.of_picture_eq {s s' : Store} (h : s'.picture = s.picture) {name : String}
    (ha : s.Agreed name) : s'.Agreed name := by
  have hmem : ∀ r ∈ s'.records, ∃ q ∈ s.records, q.portlet = r.portlet ∧ q.state = r.state := by
    intro r hr
    have hpair : (r.portlet, r.state) ∈ s'.picture := List.mem_map.mpr ⟨r, hr, rfl⟩
    rw [h] at hpair
    obtain ⟨q, hq, heq⟩ := List.mem_map.mp hpair
    exact ⟨q, hq, (Prod.mk.inj heq).1, (Prod.mk.inj heq).2⟩
  intro r hr r' hr' hpublic hpublic'
  obtain ⟨q, hq, hportlet, hstate⟩ := hmem r hr
  obtain ⟨q', hq', hportlet', hstate'⟩ := hmem r' hr'
  rw [← hstate, ← hstate']
  refine ha q hq q' hq' ?_ ?_
  · rw [Record.isPublic, hportlet]
    exact hpublic
  · rw [Record.isPublic, hportlet']
    exact hpublic'

end Store

/-! ## Faithful answers -/

/-- What the simulated server grants to a submission made from the submitter's
record is faithful. -/
theorem SimulatedServer.grant_faithful {store : Store} {call : Call} {s : Submission}
    {own : Record} (hprepared : Hub.prepare store call = .ok s)
    (hown : store.get? call.portlet = some own) : (grant s).Faithful own := by
  apply Update.faithful_of_get?_eq
  intro name hpublic
  simp only [Hub.prepare, hown] at hprepared
  split at hprepared
  · rename_i state
    split at hprepared
    · cases hprepared
    · cases hprepared
      simp only [grant, Delta.last?_publicChanges, hpublic, true_and]
      split
      · rfl
      · rename_i heq
        rw [Option.getD_none, not_not.mp heq]
  · cases hprepared
    exact last?_merge _ _ _ hpublic

namespace Hub

variable {κ : Type}

/-- A move is no granted answer, or one that is faithful to the submitter. -/
def FaithfulAt (h : Hub κ) (m : Move κ) : Prop :=
  ∀ update holder own, m = .receive (.granted update) → h.holder = some holder →
    h.store.get? holder.call.portlet = some own → update.Faithful own

/-- A step with a faithful answer keeps agreement. -/
theorem Step.agreed {h h' : Hub κ} {m : Move κ} {signs : List (Sign κ)}
    (hs : Step h m h' signs) (hsound : h.Sound) (hf : h.FaithfulAt m) {name : String}
    (ha : h.store.Agreed name) : h'.store.Agreed name := by
  by_cases hm : ∃ update, m = .receive (.granted update)
  · obtain ⟨update, rfl⟩ := hm
    cases hs with
    | grant call attended s update holds quiet =>
      obtain ⟨own, hown⟩ := hsound.found holds rfl
      exact ha.commit hsound.ids hown (hf update _ own rfl holds hown) _
  · exact ha.of_picture_eq (hs.picture_eq fun update e => hm ⟨update, e⟩)

/-- Faithful answers keep agreement along a run. -/
theorem agreed_run {h h' : Hub κ} {moves : List (Move κ)} {signs : List (Sign κ)}
    (hsound : h.Sound) (hr : h.run moves = some (h', signs)) (hf : h.Along FaithfulAt moves)
    {name : String} (ha : h.store.Agreed name) : h'.store.Agreed name := by
  have hboth : h'.Sound ∧ h'.store.Agreed name :=
    run_invariant_along (I := fun g => g.Sound ∧ g.store.Agreed name)
      (fun hs hp hi => ⟨hi.1.step hs, hs.agreed hi.1 hp hi.2⟩) hr hf ⟨hsound, ha⟩
  exact hboth.2

/-- In every hub that a run on a valid page leads to:

* if the portlets agree on a name, they do so after every later run in which all
  granted answers are faithful;
* when a faithful answer to a call of a portlet changes the portlet's binding of
  a name that it declares public, all portlets agree on the name afterwards;
* what the simulated server grants is faithful. -/
theorem agreement_of_faithful_answers {h : Hub κ} (reach : h.Reachable) (name : String) :
    (h.store.Agreed name → ∀ moves h' signs, h.run moves = some (h', signs) →
        h.Along FaithfulAt moves → h'.store.Agreed name) ∧
      (∀ call attended s update own h' signs,
        h.holder = some ⟨call, attended, .sent s⟩ →
        h.store.get? call.portlet = some own → own.isPublic name = true →
        h.FaithfulAt (.receive (.granted update)) →
        h.move (.receive (.granted update)) = some (h', signs) →
        (h'.renderState call.portlet).parameters.get? name ≠
          own.state.parameters.get? name →
        h'.store.Agreed name) ∧
      (∀ call attended s, h.holder = some ⟨call, attended, .sent s⟩ →
        h.FaithfulAt (.receive (.granted (SimulatedServer.grant s)))) := by
  have hsound := reach.sound
  refine ⟨?_, ?_, ?_⟩
  · intro ha moves h' signs hr hf
    exact agreed_run hsound hr hf ha
  · intro call attended s update own h' signs holds hown hpublic hf hm hchanged
    cases step_of_move hm with
    | grant call' attended' s' update holds' quiet =>
      rw [holds] at holds'
      cases holds'
      have hid := (Store.mem_of_get? hown).2
      have hstate : (h.commit ⟨call, attended, .sent s⟩ s update).renderState call.portlet =
          update.state := by
        show ((h.store.commit call.portlet update (reasonFor s)).2.state?
          call.portlet).getD .empty = _
        rw [Store.state?, Store.get?_commit, hown, Option.map_some, Option.map_some,
          Record.follow_submitter hid]
        rfl
      rw [hstate] at hchanged
      exact Store.agreed_commit_of_changed hsound.ids hown (hf update _ own rfl holds hown) _
        hpublic hchanged
  · intro call attended s holds update holder own hm holds' hown
    cases hm
    rw [holds] at holds'
    cases holds'
    exact SimulatedServer.grant_faithful (hsound.prepared holds rfl) hown

/-- The call of the weather report for another city than that of the map. -/
def weatherCall : Call :=
  ⟨0, "weather", .state ⟨"VIEW", "NORMAL", .ofEntries [("city", [some "Oslo"])]⟩⟩

/-- What the weather report submits. -/
def weatherSubmission : Submission :=
  .state ⟨"weather", ⟨none, none, [], [⟨"city", some [some "Oslo"]⟩]⟩,
    ⟨"VIEW", "NORMAL", .ofEntries [("city", [some "Oslo"])]⟩⟩

/-- The hub of the small page while the server considers the call. -/
def weatherWaits : Hub Unit :=
  { Sample.hub with inFlight := 1, holder := some ⟨weatherCall, true, .sent weatherSubmission⟩ }

/-- Map and weather report do not agree on a city until the server has granted
the call of the weather report. -/
theorem agreement_of_weather :
    weatherWaits.Reachable ∧ ¬ weatherWaits.store.Agreed "city" ∧
      ∃ h', weatherWaits.move
          (.receive (.granted (SimulatedServer.grant weatherSubmission))) = some (h', []) ∧
        h'.store.Agreed "city" := by
  have reach : weatherWaits.Reachable :=
    ⟨Sample.page, {}, Sample.hub, [.enter weatherCall, .acquire, .send], _, rfl, rfl⟩
  obtain ⟨_, hchanged, hgrant⟩ := agreement_of_faithful_answers reach "city"
  refine ⟨reach, by decide, _, rfl, ?_⟩
  exact hchanged weatherCall true weatherSubmission _ _ _ [] rfl rfl rfl
    (hgrant weatherCall true weatherSubmission rfl) rfl (by decide)

end Hub

end PortletPage
