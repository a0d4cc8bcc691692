import PortletPage.Proofs.Steps

/-!
# The runs of a hub

What each step keeps holds after every run (`Hub.run_invariant`).

`Hub.Reachable` are the hubs that some run on a valid page leads to.  All of
them are `Hub.Sound`:

* their portlets have distinct ids;
* they count the calls that are queued or under way;
* the submission under way is the one that its call would make now.  So nothing
  that happens between the moment when a call takes the lock and the answer of
  the server makes the submission stale.
-/

namespace PortletPage

/-- The submission that is made and not answered yet. -/
def Stage.submission? : Stage → Option Submission
  | .ready s => some s
  | .sent s => some s
  | .over _ => none

section Seen

variable {κ : Type}

/-- The call that comes with a move. -/
def Move.call? : Move κ → Option Call
  | .enter call => some call
  | _ => none

/-- The calls that come in the course of a run, in order. -/
def Move.entered (moves : List (Move κ)) : List Call := moves.filterMap Move.call?

/-- The answer that comes with a move. -/
def Move.answer? : Move κ → Option Answer
  | .receive answer => some answer
  | _ => none

/-- The answers that come in the course of a run, in order. -/
def Move.answers (moves : List (Move κ)) : List Answer := moves.filterMap Move.answer?

/-- The submission that goes to the server. -/
def Sign.submission? : Sign κ → Option Submission
  | .sent s => some s
  | _ => none

/-- The result that a caller learns, with the number of the call. -/
def Sign.result? : Sign κ → Option (Nat × CallResult)
  | .ended number result => some (number, result)
  | _ => none

/-- Whether a callback is called or a request answered. -/
def Sign.isDelivery : Sign κ → Bool
  | .called _ _ => true
  | .replied _ => true
  | _ => false

/-- The submissions that go to the server, in order. -/
def Sign.submissions (signs : List (Sign κ)) : List Submission :=
  signs.filterMap Sign.submission?

/-- The results that callers learn, in order. -/
def Sign.results (signs : List (Sign κ)) : List (Nat × CallResult) :=
  signs.filterMap Sign.result?

/-- The calls of callbacks and the answers to requests, in order. -/
def Sign.deliveries (signs : List (Sign κ)) : List (Sign κ) := signs.filter Sign.isDelivery

@[simp] theorem Move.entered_nil : Move.entered ([] : List (Move κ)) = [] := rfl

@[simp] theorem Move.entered_cons (m : Move κ) (moves : List (Move κ)) :
    Move.entered (m :: moves) = m.call?.toList ++ Move.entered moves := by
  cases hm : m.call? <;> simp [entered, hm]

@[simp] theorem Move.entered_append (moves moves' : List (Move κ)) :
    Move.entered (moves ++ moves') = Move.entered moves ++ Move.entered moves' :=
  List.filterMap_append

@[simp] theorem Move.answers_nil : Move.answers ([] : List (Move κ)) = [] := rfl

@[simp] theorem Move.answers_cons (m : Move κ) (moves : List (Move κ)) :
    Move.answers (m :: moves) = m.answer?.toList ++ Move.answers moves := by
  cases hm : m.answer? <;> simp [answers, hm]

@[simp] theorem Sign.submissions_append (signs signs' : List (Sign κ)) :
    Sign.submissions (signs ++ signs') = Sign.submissions signs ++ Sign.submissions signs' :=
  List.filterMap_append

@[simp] theorem Sign.results_append (signs signs' : List (Sign κ)) :
    Sign.results (signs ++ signs') = Sign.results signs ++ Sign.results signs' :=
  List.filterMap_append

@[simp] theorem Sign.deliveries_append (signs signs' : List (Sign κ)) :
    Sign.deliveries (signs ++ signs') = Sign.deliveries signs ++ Sign.deliveries signs' :=
  List.filter_append _ _

end Seen

namespace Hub

variable {κ : Type}

/-! ## Runs -/

theorem run_cons_iff {h h' : Hub κ} {m : Move κ} {moves : List (Move κ)}
    {signs : List (Sign κ)} :
    h.run (m :: moves) = some (h', signs) ↔
      ∃ h₁ first more, h.move m = some (h₁, first) ∧ h₁.run moves = some (h', more) ∧
        signs = first ++ more := by
  constructor
  · intro hr
    simp only [run, bind, Option.bind_eq_some_iff] at hr
    obtain ⟨⟨h₁, first⟩, hm, ⟨h₂, more⟩, hrest, heq⟩ := hr
    cases heq
    exact ⟨h₁, first, more, hm, hrest, rfl⟩
  · intro hsteps
    obtain ⟨h₁, first, more, hm, hrest, rfl⟩ := hsteps
    simp [run, hm, hrest]

theorem run_append_iff {h h' : Hub κ} {moves moves' : List (Move κ)}
    {signs : List (Sign κ)} :
    h.run (moves ++ moves') = some (h', signs) ↔
      ∃ h₁ first more, h.run moves = some (h₁, first) ∧ h₁.run moves' = some (h', more) ∧
        signs = first ++ more := by
  constructor
  · intro hr
    rw [run_append] at hr
    simp only [bind, Option.bind_eq_some_iff] at hr
    obtain ⟨⟨h₁, first⟩, hfirst, ⟨h₂, more⟩, hmore, heq⟩ := hr
    cases heq
    exact ⟨h₁, first, more, hfirst, hmore, rfl⟩
  · intro hruns
    obtain ⟨h₁, first, more, hfirst, hmore, rfl⟩ := hruns
    simp [run_append, hfirst, hmore]

/-- A run of one move is the move. -/
theorem run_singleton (h : Hub κ) (m : Move κ) : h.run [m] = h.move m := by
  cases hm : h.move m <;> simp [run, hm]

/-- What every step keeps holds after every run. -/
theorem run_invariant {I : Hub κ → Prop}
    (hstep : ∀ {h m h' signs}, Step h m h' signs → I h → I h')
    {h h' : Hub κ} {moves : List (Move κ)} {signs : List (Sign κ)}
    (hr : h.run moves = some (h', signs)) (hi : I h) : I h' := by
  induction moves generalizing h signs with
  | nil =>
    cases hr
    exact hi
  | cons m moves ih =>
    obtain ⟨h₁, first, more, hm, hrest, _⟩ := run_cons_iff.mp hr
    exact ih hrest (hstep (step_of_move hm) hi)

/-- Whether something holds of each move of a run at the hub that makes it. -/
def Along (P : Hub κ → Move κ → Prop) : Hub κ → List (Move κ) → Prop
  | _, [] => True
  | h, m :: moves => P h m ∧ ∀ h' signs, h.move m = some (h', signs) → Along P h' moves

/-- A property that can be decided of each move can be decided along a run. -/
def decidableAlong (P : Hub κ → Move κ → Prop) [∀ h m, Decidable (P h m)] :
    (h : Hub κ) → (moves : List (Move κ)) → Decidable (h.Along P moves)
  | _, [] => isTrue trivial
  | h, m :: moves =>
    match hm : h.move m with
    | none => decidable_of_iff (P h m)
        ⟨fun hp => ⟨hp, fun _ _ h' => nomatch hm.symm.trans h'⟩, fun hp => hp.1⟩
    | some (h₁, _) =>
      have := decidableAlong P h₁ moves
      decidable_of_iff (P h m ∧ h₁.Along P moves)
        ⟨fun hp => ⟨hp.1, fun _ _ h' => by cases hm.symm.trans h'; exact hp.2⟩,
          fun hp => ⟨hp.1, hp.2 _ _ hm⟩⟩

instance (P : Hub κ → Move κ → Prop) [∀ h m, Decidable (P h m)] (h : Hub κ)
    (moves : List (Move κ)) : Decidable (h.Along P moves) :=
  decidableAlong P h moves

theorem Along.append_left {P : Hub κ → Move κ → Prop} {h : Hub κ}
    {moves later : List (Move κ)} (hp : h.Along P (moves ++ later)) : h.Along P moves := by
  induction moves generalizing h with
  | nil => exact trivial
  | cons m moves ih => exact ⟨hp.1, fun h' signs hm => ih (hp.2 h' signs hm)⟩

/-- What every step keeps whose move has the property holds after every run all
of whose moves have it. -/
theorem run_invariant_along {P : Hub κ → Move κ → Prop} {I : Hub κ → Prop}
    (hstep : ∀ {h m h' signs}, Step h m h' signs → P h m → I h → I h')
    {h h' : Hub κ} {moves : List (Move κ)} {signs : List (Sign κ)}
    (hr : h.run moves = some (h', signs)) (hp : h.Along P moves) (hi : I h) : I h' := by
  induction moves generalizing h signs with
  | nil =>
    cases hr
    exact hi
  | cons m moves ih =>
    obtain ⟨h₁, first, more, hm, hrest, _⟩ := run_cons_iff.mp hr
    exact ih hrest (hp.2 h₁ first hm) (hstep (step_of_move hm) hp.1 hi)

/-! ## Portlets -/

/-- No step changes the portlets of the store. -/
theorem Step.portlets_eq {h h' : Hub κ} {m : Move κ} {signs : List (Sign κ)}
    (hs : Step h m h' signs) : h'.store.portlets = h.store.portlets := by
  by_cases hm : ∃ update, m = .receive (.granted update)
  · obtain ⟨update, rfl⟩ := hm
    cases hs with
    | grant call attended s update holds quiet => exact Store.portlets_commit _ _ _ _
  · have hpicture := hs.picture_eq fun update e => hm ⟨update, e⟩
    rw [Store.portlets_eq, Store.portlets_eq, hpicture]

theorem Step.ids_eq {h h' : Hub κ} {m : Move κ} {signs : List (Sign κ)}
    (hs : Step h m h' signs) : h'.store.ids = h.store.ids := by
  rw [Store.ids_eq, Store.ids_eq, hs.portlets_eq]

/-! ## Soundness -/

/-- What holds of every hub that a run leads to. -/
structure Sound (h : Hub κ) : Prop where
  /-- No two portlets have the same id. -/
  ids : h.store.ids.Nodup
  /-- The calls that are queued or under way are counted. -/
  counted : h.inFlight = h.queue.length + if h.holder.isSome then 1 else 0
  /-- The submission under way is the one that its call would make now. -/
  prepared : ∀ {call attended stage s}, h.holder = some ⟨call, attended, stage⟩ →
    stage.submission? = some s → prepare h.store call = .ok s

theorem sound_start {page : Page} (config : Config) (hp : page.ids.Nodup) :
    (start page config : Hub κ).Sound where
  ids := by
    show (Store.ofPage page).ids.Nodup
    rw [Store.ids_eq, Store.portlets_ofPage]
    exact hp
  counted := rfl
  prepared := by
    intro call attended stage s holds
    cases holds

/-- Taking back a call that waits shortens the queue by one. -/
theorem length_eraseP_queue {queue : List Call} {number : Nat}
    (h : number ∈ queue.map Call.number) :
    (queue.eraseP fun call => call.number == number).length + 1 = queue.length := by
  obtain ⟨call, hmem, hnumber⟩ := List.mem_map.mp h
  have hlength := List.length_eraseP_of_mem (p := fun c => c.number == number) hmem
    (by simpa using hnumber)
  have hpos : 0 < queue.length := List.length_pos_of_mem hmem
  omega

theorem Step.counted {h h' : Hub κ} {m : Move κ} {signs : List (Sign κ)}
    (hs : Step h m h' signs)
    (hc : h.inFlight = h.queue.length + if h.holder.isSome then 1 else 0) :
    h'.inFlight = h'.queue.length + if h'.holder.isSome then 1 else 0 := by
  cases hs with
  | enter call =>
    simp only [List.length_append, List.length_singleton]
    omega
  | takeBack number waits =>
    have hlength := length_eraseP_queue waits
    show h.inFlight - 1 = (h.queue.eraseP fun call => call.number == number).length +
      if h.holder.isSome then 1 else 0
    omega
  | desert call attended stage holds waitsNot =>
    rw [holds] at hc
    exact hc
  | acquire call queue s free first prepared =>
    rw [free, first] at hc
    exact hc
  | endEarly call queue result free first prepared =>
    rw [free, first] at hc
    show h.inFlight - 1 = queue.length + if h.holder.isSome then 1 else 0
    rw [free, hc]
    rfl
  | send call attended s holds =>
    rw [holds] at hc
    exact hc
  | grant call attended s update holds quiet =>
    rw [holds] at hc
    exact hc
  | fail call attended s error holds quiet =>
    rw [holds] at hc
    exact hc
  | breakOff call attended s holds quiet =>
    rw [holds] at hc
    exact hc
  | release call attended result holds quiet =>
    rw [holds] at hc
    show h.inFlight - 1 = h.queue.length + 0
    rw [hc]
    rfl
  | ask request may =>
    obtain ⟨hflight, hqueue, hholder⟩ := ask_calls h request
    rw [hflight, hqueue, hholder]
    exact hc
  | proceed h' signs proceeds =>
    obtain ⟨hflight, hqueue, hholder⟩ := proceed_calls proceeds
    rw [hflight, hqueue, hholder]
    exact hc
  | finish callback rest runs => exact hc

theorem Step.prepared {h h' : Hub κ} {m : Move κ} {signs : List (Sign κ)}
    (hs : Step h m h' signs)
    (hp : ∀ {call attended stage s}, h.holder = some ⟨call, attended, stage⟩ →
      stage.submission? = some s → prepare h.store call = .ok s)
    {call : Call} {attended : Bool} {stage : Stage} {s : Submission}
    (holds : h'.holder = some ⟨call, attended, stage⟩) (hsub : stage.submission? = some s) :
    prepare h'.store call = .ok s := by
  cases hs with
  | desert call' attended' stage' holds' waitsNot =>
    cases holds
    exact hp holds' hsub
  | acquire call' queue s' free first prepared =>
    cases holds
    cases hsub
    exact prepared
  | endEarly call' queue result free first prepared =>
    rw [free] at holds
    cases holds
  | send call' attended' s' holds' =>
    cases holds
    cases hsub
    exact hp holds' rfl
  | grant call' attended' s' update holds' quiet =>
    cases holds
    cases hsub
  | fail call' attended' s' error holds' quiet =>
    cases holds
    cases hsub
  | breakOff call' attended' s' holds' quiet =>
    cases holds
    cases hsub
  | release call' attended' result holds' quiet => cases holds
  | ask request may =>
    rw [(ask_calls h request).2.2] at holds
    rw [prepare_of_picture_eq (picture_ask h request)]
    exact hp holds hsub
  | proceed h' signs proceeds =>
    rw [(proceed_calls proceeds).2.2] at holds
    rw [store_proceed proceeds]
    exact hp holds hsub
  | _ => exact hp holds hsub

/-- Every step keeps a hub sound. -/
theorem Sound.step {h h' : Hub κ} {m : Move κ} {signs : List (Sign κ)}
    (hs : Step h m h' signs) (hi : h.Sound) : h'.Sound where
  ids := by
    rw [hs.ids_eq]
    exact hi.ids
  counted := hs.counted hi.counted
  prepared := hs.prepared hi.prepared

/-- A hub that some run on a valid page leads to. -/
def Reachable (h : Hub κ) : Prop :=
  ∃ page config start moves signs,
    ofPage page config = .ok start ∧ start.run moves = some (h, signs)

/-- The hub of a valid page is the one to start with. -/
theorem start_of_ofPage {page : Page} {config : Config} {h : Hub κ}
    (hp : ofPage page config = .ok h) : page.ids.Nodup ∧ h = start page config := by
  unfold ofPage at hp
  split at hp
  · rename_i page' hvalid
    cases hp
    obtain ⟨rfl, hnodup⟩ := Page.nodup_ids_of_validate hvalid
    exact ⟨hnodup, rfl⟩
  · cases hp

theorem sound_of_ofPage {page : Page} {config : Config} {h : Hub κ}
    (hp : ofPage page config = .ok h) : h.Sound := by
  obtain ⟨hnodup, rfl⟩ := start_of_ofPage hp
  exact sound_start config hnodup

theorem Sound.run {h h' : Hub κ} {moves : List (Move κ)} {signs : List (Sign κ)}
    (hi : h.Sound) (hr : h.run moves = some (h', signs)) : h'.Sound :=
  run_invariant Sound.step hr hi

theorem Reachable.sound {h : Hub κ} (hr : h.Reachable) : h.Sound := by
  obtain ⟨page, config, start, moves, signs, hp, hrun⟩ := hr
  exact (sound_of_ofPage hp).run hrun

theorem Reachable.run {h h' : Hub κ} {moves : List (Move κ)} {signs : List (Sign κ)}
    (hr : h.Reachable) (hrun : h.run moves = some (h', signs)) : h'.Reachable := by
  obtain ⟨page, config, start, before, seen, hp, hbefore⟩ := hr
  exact ⟨page, config, start, before ++ moves, seen ++ signs, hp,
    run_append_iff.mpr ⟨h, seen, signs, hbefore, hrun, rfl⟩⟩

/-- The portlet of a call whose submission is under way is on the page. -/
theorem Sound.found {h : Hub κ} (hi : h.Sound) {call : Call} {attended : Bool}
    {stage : Stage} {s : Submission} (holds : h.holder = some ⟨call, attended, stage⟩)
    (hsub : stage.submission? = some s) : ∃ r, h.store.get? call.portlet = some r := by
  have hprepared := hi.prepared holds hsub
  unfold prepare at hprepared
  split at hprepared
  · cases hprepared
  · rename_i r hget
    exact ⟨r, hget⟩

end Hub

/-! ## A small page -/

namespace Sample

/-- A map and a weather report share a city, of which only the map has one at
first, and notes have a city of their own. -/
def page : Page where
  portlets := [
    ⟨"map", [], ["city", "zoom"], ⟨"VIEW", "NORMAL", .ofEntries [("city", [some "Rome"])]⟩⟩,
    ⟨"weather", ["unit"], ["city", "zoom"], ⟨"VIEW", "NORMAL", .empty⟩⟩,
    ⟨"notes", ["city"], [], ⟨"EDIT", "NORMAL", .empty⟩⟩]

/-- The hub of the page before anything has happened. -/
def hub : Hub Unit := .start page {}

theorem hub_of_page : Hub.ofPage page {} = .ok hub := rfl

end Sample

end PortletPage
