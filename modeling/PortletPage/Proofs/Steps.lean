import PortletPage.Hub.Move
import PortletPage.Proofs.Records

/-!
# The steps of a hub

`Hub.move` says by computation what a move leads to.  `Hub.Step` says the same
case by case, with what holds of the hub before in each case, and every fact
about all moves is proved by going through its constructors.

* `Hub.step_of_move` and `Hub.move_of_step`: the cases are exactly the moves
  that are open.
* `Hub.withCalls`: requests and deliveries neither read nor change the calls
  that are queued or under way (`ask_withCalls`, `proceed_withCalls`).
* `Step.picture_eq`: only a granted answer changes a render state.
* `prepare_of_picture_eq`: what a call submits depends on the picture of the
  store alone.
-/

namespace PortletPage

namespace Hub

variable {κ : Type}

/-! ## The cases of a move -/

/-- What a move leads to and what is seen of it, case by case. -/
inductive Step : Hub κ → Move κ → Hub κ → List (Sign κ) → Prop
  | enter (h : Hub κ) (call : Call) :
      Step h (.enter call)
        { h with queue := h.queue ++ [call], inFlight := h.inFlight + 1 } []
  /-- A call that waits is taken back. -/
  | takeBack (h : Hub κ) (number : Nat) (waits : number ∈ h.queue.map Call.number) :
      Step h (.leave number)
        { h with
          queue := h.queue.eraseP fun call => call.number == number
          inFlight := h.inFlight - 1 } []
  /-- The caller of the call that holds the lock goes away. -/
  | desert (h : Hub κ) (call : Call) (attended : Bool) (stage : Stage)
      (holds : h.holder = some ⟨call, attended, stage⟩)
      (waitsNot : call.number ∉ h.queue.map Call.number) :
      Step h (.leave call.number) { h with holder := some ⟨call, false, stage⟩ } []
  | acquire (h : Hub κ) (call : Call) (queue : List Call) (s : Submission)
      (free : h.holder = none) (first : h.queue = call :: queue)
      (prepared : prepare h.store call = .ok s) :
      Step h .acquire { h with queue := queue, holder := some ⟨call, true, .ready s⟩ } []
  /-- A call with nothing to submit ends when its turn comes. -/
  | endEarly (h : Hub κ) (call : Call) (queue : List Call) (result : CallResult)
      (free : h.holder = none) (first : h.queue = call :: queue)
      (prepared : prepare h.store call = .error result) :
      Step h .acquire { h with queue := queue, inFlight := h.inFlight - 1 }
        [.ended call.number result]
  | send (h : Hub κ) (call : Call) (attended : Bool) (s : Submission)
      (holds : h.holder = some ⟨call, attended, .ready s⟩) :
      Step h .send { h with holder := some ⟨call, attended, .sent s⟩ } [.sent s]
  | grant (h : Hub κ) (call : Call) (attended : Bool) (s : Submission) (update : Update)
      (holds : h.holder = some ⟨call, attended, .sent s⟩) (quiet : h.delivery = []) :
      Step h (.receive (.granted update)) (h.commit ⟨call, attended, .sent s⟩ s update) []
  | fail (h : Hub κ) (call : Call) (attended : Bool) (s : Submission) (error : TransportError)
      (holds : h.holder = some ⟨call, attended, .sent s⟩) (quiet : h.delivery = []) :
      Step h (.receive (.failed error))
        (h.fail ⟨call, attended, .sent s⟩ (.communication call.portlet error)) []
  | breakOff (h : Hub κ) (call : Call) (attended : Bool) (s : Submission)
      (holds : h.holder = some ⟨call, attended, .sent s⟩) (quiet : h.delivery = []) :
      Step h (.receive .broken) (h.fail ⟨call, attended, .sent s⟩ .interrupted) []
  | release (h : Hub κ) (call : Call) (attended : Bool) (result : CallResult)
      (holds : h.holder = some ⟨call, attended, .over result⟩) (quiet : h.delivery = []) :
      Step h .release { h with holder := none, inFlight := h.inFlight - 1 }
        (if attended then [.ended call.number result] else [])
  | ask (h : Hub κ) (request : Request κ) (may : h.mayAsk = true) :
      Step h (.ask request) (h.ask request) []
  | proceed (h h' : Hub κ) (signs : List (Sign κ)) (proceeds : h.proceed = some (h', signs)) :
      Step h .proceed h' signs
  | finish (h : Hub κ) (callback : κ) (rest : List (Frame κ))
      (runs : h.delivery = .running callback :: rest) :
      Step h .finish { h with delivery := rest } []

/-- Every move that is open is one of the cases. -/
theorem step_of_move {h h' : Hub κ} {m : Move κ} {signs : List (Sign κ)}
    (hm : h.move m = some (h', signs)) : Step h m h' signs := by
  cases m with
  | enter call =>
    cases hm
    exact .enter h call
  | leave number =>
    simp only [move] at hm
    split at hm
    · rename_i hany
      cases hm
      refine .takeBack h number ?_
      simpa [List.any_eq_true] using hany
    · rename_i hany
      split at hm
      · rename_i holder holds
        split at hm
        · rename_i hnumber
          cases hm
          obtain ⟨call, attended, stage⟩ := holder
          subst hnumber
          refine .desert h call attended stage holds ?_
          simpa [List.any_eq_true] using hany
        · cases hm
      · cases hm
  | acquire =>
    simp only [move] at hm
    split at hm
    · rename_i call queue free first
      split at hm
      · rename_i s prepared
        cases hm
        exact .acquire h call queue s free first prepared
      · rename_i result prepared
        cases hm
        exact .endEarly h call queue result free first prepared
    · cases hm
  | send =>
    simp only [move] at hm
    split at hm
    · rename_i call attended s holds
      cases hm
      exact .send h call attended s holds
    · cases hm
  | receive answer =>
    simp only [move] at hm
    split at hm
    · rename_i call attended s holds quiet
      cases answer with
      | granted update =>
        cases hm
        exact .grant h call attended s update holds quiet
      | failed error =>
        cases hm
        exact .fail h call attended s error holds quiet
      | broken =>
        cases hm
        exact .breakOff h call attended s holds quiet
    · cases hm
  | release =>
    simp only [move] at hm
    split at hm
    · rename_i call attended result holds quiet
      cases hm
      exact .release h call attended result holds quiet
    · cases hm
  | ask request =>
    simp only [move] at hm
    split at hm
    · rename_i may
      cases hm
      exact .ask h request may
    · cases hm
  | proceed => exact .proceed h h' signs hm
  | finish =>
    simp only [move] at hm
    split at hm
    · rename_i callback rest runs
      cases hm
      exact .finish h callback rest runs
    · cases hm

/-- Every case is a move that is open. -/
theorem move_of_step {h h' : Hub κ} {m : Move κ} {signs : List (Sign κ)}
    (hs : Step h m h' signs) : h.move m = some (h', signs) := by
  cases hs with
  | enter call => rfl
  | takeBack number waits =>
    have hany : (h.queue.any fun call => call.number == number) = true := by
      simpa [List.any_eq_true] using waits
    simp [move, hany]
  | desert call attended stage holds waitsNot =>
    have hany : (h.queue.any fun c => c.number == call.number) = false := by
      simpa [List.any_eq_false] using waitsNot
    simp [move, hany, holds]
  | acquire call queue s free first prepared => simp [move, free, first, prepared]
  | endEarly call queue result free first prepared => simp [move, free, first, prepared]
  | send call attended s holds => simp [move, holds]
  | grant call attended s update holds quiet => simp [move, holds, quiet]
  | fail call attended s error holds quiet => simp [move, holds, quiet]
  | breakOff call attended s holds quiet => simp [move, holds, quiet]
  | release call attended result holds quiet => simp [move, holds, quiet]
  | ask request may => simp [move, may]
  | proceed h' signs proceeds => exact proceeds
  | finish callback rest runs => simp [move, runs]

/-! ## Requests and deliveries beside calls -/

/-- The hub with other calls queued and under way. -/
def withCalls (h : Hub κ) (inFlight : Nat) (queue : List Call) (holder : Option Holder) :
    Hub κ :=
  { h with inFlight := inFlight, queue := queue, holder := holder }

theorem unlisten_some (h : Hub κ) (portlet : String) (handle : Handle) :
    h.unlisten portlet (some handle) =
      if handle.portlet = portlet ∧ (h.registry.remove handle).1 = true then
        { h with registry := (h.registry.remove handle).2 }.deliver [.reply .removed]
      else h.deliver [.reply (.refused (.unknownListener handle))] := rfl

section WithCalls

variable (h : Hub κ) (inFlight : Nat) (queue : List Call) (holder : Option Holder)

@[simp] theorem withCalls_self : h.withCalls h.inFlight h.queue h.holder = h := rfl

@[simp] theorem registry_withCalls :
    (h.withCalls inFlight queue holder).registry = h.registry := rfl

@[simp] theorem queue_withCalls : (h.withCalls inFlight queue holder).queue = queue := rfl

@[simp] theorem holder_withCalls : (h.withCalls inFlight queue holder).holder = holder := rfl

@[simp] theorem mayAsk_withCalls :
    (h.withCalls inFlight queue holder).mayAsk = h.mayAsk := rfl

/-- A request does not look at the calls and leaves them alone. -/
theorem ask_withCalls (request : Request κ) :
    (h.withCalls inFlight queue holder).ask request =
      (h.ask request).withCalls inFlight queue holder := by
  cases request with
  | register portlet =>
    simp only [ask, register, withCalls]
    split <;> rfl
  | listen portlet eventName callback =>
    simp only [ask, listen, withCalls]
    split
    · rfl
    · split <;> rfl
  | unlisten portlet handle =>
    cases handle with
    | none => rfl
    | some handle =>
      rw [ask, ask, unlisten_some, unlisten_some, registry_withCalls]
      by_cases found : handle.portlet = portlet ∧ (h.registry.remove handle).1 = true
      · rw [if_pos found, if_pos found]
        rfl
      · rw [if_neg found, if_neg found]
        rfl
  | dispatch source eventName payload =>
    simp only [ask, dispatch, withCalls]
    split <;> rfl

/-- A delivery does not look at the calls and leaves them alone. -/
theorem proceed_withCalls :
    (h.withCalls inFlight queue holder).proceed =
      h.proceed.map fun p => (p.1.withCalls inFlight queue holder, p.2) := by
  simp only [proceed, withCalls]
  split <;> rfl

end WithCalls

theorem ask_calls (h : Hub κ) (request : Request κ) :
    (h.ask request).inFlight = h.inFlight ∧ (h.ask request).queue = h.queue ∧
      (h.ask request).holder = h.holder := by
  have heq := ask_withCalls h h.inFlight h.queue h.holder request
  rw [withCalls_self] at heq
  rw [heq]
  exact ⟨rfl, rfl, rfl⟩

theorem proceed_calls {h h' : Hub κ} {signs : List (Sign κ)}
    (hp : h.proceed = some (h', signs)) :
    h'.inFlight = h.inFlight ∧ h'.queue = h.queue ∧ h'.holder = h.holder := by
  have heq := proceed_withCalls h h.inFlight h.queue h.holder
  rw [withCalls_self, hp] at heq
  simp only [Option.map_some, Option.some.injEq, Prod.mk.injEq, and_true] at heq
  rw [heq]
  exact ⟨rfl, rfl, rfl⟩

/-! ## What changes render states -/

/-- Requests leave the picture alone. -/
@[simp] theorem picture_ask (h : Hub κ) (request : Request κ) :
    (h.ask request).store.picture = h.store.picture := by
  cases request with
  | register portlet =>
    simp only [ask, register]
    split
    · exact Store.picture_register h.store portlet
    · rfl
  | listen portlet eventName callback =>
    simp only [ask, listen]
    split
    · rfl
    · split <;> rfl
  | unlisten portlet handle =>
    cases handle with
    | none => rfl
    | some handle =>
      rw [ask, unlisten_some]
      split <;> rfl
  | dispatch source eventName payload =>
    simp only [ask, dispatch]
    split <;> rfl

theorem store_proceed {h h' : Hub κ} {signs : List (Sign κ)}
    (hp : h.proceed = some (h', signs)) : h'.store = h.store := by
  simp only [proceed] at hp
  split at hp <;> cases hp <;> rfl

/-- A move that is no granted answer leaves the picture alone. -/
theorem Step.picture_eq {h h' : Hub κ} {m : Move κ} {signs : List (Sign κ)}
    (hs : Step h m h' signs) (hm : ∀ update, m ≠ .receive (.granted update)) :
    h'.store.picture = h.store.picture := by
  cases hs with
  | grant call attended s update holds quiet => exact absurd rfl (hm update)
  | ask request may => exact picture_ask h request
  | proceed h' signs proceeds => rw [store_proceed proceeds]
  | _ => rfl

/-- What a call submits depends on the picture of the store alone. -/
theorem prepare_of_picture_eq {s s' : Store} (h : s.picture = s'.picture) (call : Call) :
    prepare s call = prepare s' call := by
  have hget := Store.get?_of_picture_eq h call.portlet
  unfold prepare
  cases hs : s.get? call.portlet with
  | none =>
    rw [hs, Option.map_none] at hget
    rw [Option.map_eq_none_iff.mp hget.symm]
  | some r =>
    rw [hs, Option.map_some] at hget
    obtain ⟨r', hs', hr⟩ := Option.map_eq_some_iff.mp hget.symm
    obtain ⟨hportlet, hstate⟩ := Prod.mk.inj hr
    have hpublic : r'.isPublic = r.isPublic := by
      funext name
      simp [Record.isPublic, hportlet]
    rw [hs']
    simp only [hportlet, hstate, hpublic]

end Hub

end PortletPage
