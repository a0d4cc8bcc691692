import PortletPage.Proofs.Effect

/-!
# Decisions

A call is decided when it is found that it has nothing to submit, or when the
answer to its submission comes.  `Hub.decided` lists the calls that are decided
in a run with their results, and three things are kept account of:

* `results_run`: callers learn what has been decided, in that order;
* `decided_order_run`: calls are decided in the order in which they come;
* `picture_run`: over a simulated server, render states are those that the
  decisions lead to, one after the other.  `Store.serve` is what one of them
  does.
-/

namespace PortletPage

namespace Store

/-- The store when the simulated server grants what the call submits. -/
def serve (s : Store) (call : Call) : Store :=
  match Hub.prepare s call with
  | .ok submission =>
    (s.commit call.portlet (SimulatedServer.grant submission) (Hub.reasonFor submission)).2
  | .error _ => s

/-- The store after a decision; a call that fails changes nothing. -/
def settle (s : Store) : Call × CallResult → Store
  | (call, .ok _) => s.serve call
  | (_, .error _) => s

theorem picture_serve {s s' : Store} (h : s.picture = s'.picture) (call : Call) :
    (s.serve call).picture = (s'.serve call).picture := by
  unfold serve
  rw [Hub.prepare_of_picture_eq h call]
  cases Hub.prepare s' call with
  | ok submission => exact (commit_of_picture_eq h _ _ _).2
  | error result => exact h

theorem picture_settle {s s' : Store} (h : s.picture = s'.picture)
    (decision : Call × CallResult) :
    (s.settle decision).picture = (s'.settle decision).picture := by
  obtain ⟨call, result⟩ := decision
  cases result with
  | ok outcome => exact picture_serve h call
  | error failure => exact h

theorem picture_foldl_settle {s s' : Store} (h : s.picture = s'.picture)
    (decisions : List (Call × CallResult)) :
    (decisions.foldl settle s).picture = (decisions.foldl settle s').picture := by
  induction decisions generalizing s s' with
  | nil => exact h
  | cons decision rest ih => exact ih (picture_settle h decision)

@[simp] theorem portlets_serve (s : Store) (call : Call) :
    (s.serve call).portlets = s.portlets := by
  unfold serve
  split
  · exact portlets_commit _ _ _ _
  · rfl

end Store

namespace Hub

variable {κ : Type}

/-- The call that has been decided and holds the lock still. -/
def concluded (h : Hub κ) : List (Call × CallResult) :=
  match h.holder with
  | some ⟨call, _, .over result⟩ => [(call, result)]
  | _ => []

/-- The calls that a move from one hub to another decides. -/
def decides (h h' : Hub κ) : Move κ → List (Call × CallResult)
  | .acquire =>
    match h.queue with
    | call :: _ =>
      match prepare h.store call with
      | .error result => [(call, result)]
      | .ok _ => []
    | [] => []
  | .receive _ => h'.concluded
  | _ => []

/-- The calls that are decided in the course of a run, in order. -/
def decided : Hub κ → List (Move κ) → List (Call × CallResult)
  | _, [] => []
  | h, m :: moves =>
    match h.move m with
    | some (h', _) => h.decides h' m ++ h'.decided moves
    | none => []

theorem decided_cons {h h' : Hub κ} {m : Move κ} {signs : List (Sign κ)}
    (hm : h.move m = some (h', signs)) (moves : List (Move κ)) :
    h.decided (m :: moves) = h.decides h' m ++ h'.decided moves := by
  rw [decided, hm]

theorem decided_append {h h' : Hub κ} {moves : List (Move κ)} {signs : List (Sign κ)}
    (hr : h.run moves = some (h', signs)) (later : List (Move κ)) :
    h.decided (moves ++ later) = h.decided moves ++ h'.decided later := by
  induction moves generalizing h signs with
  | nil =>
    cases hr
    rfl
  | cons m moves ih =>
    obtain ⟨h₁, first, more, hm, hrest, _⟩ := run_cons_iff.mp hr
    rw [List.cons_append, decided_cons hm, decided_cons hm, ih hrest, List.append_assoc]

/-! ## Results -/

/-- What the caller learns of a decision. -/
def told (decision : Call × CallResult) : Nat × CallResult :=
  (decision.1.number, decision.2)

/-- Callers learn what is decided. -/
theorem Step.results {h h' : Hub κ} {m : Move κ} {signs : List (Sign κ)}
    (hs : Step h m h' signs) :
    (Sign.results signs ++ h'.concluded.map told).Sublist
      (h.concluded.map told ++ (h.decides h' m).map told) := by
  cases hs with
  | desert call attended stage holds waitsNot =>
    rw [concluded, concluded, holds]
    cases stage <;> exact List.Sublist.refl _
  | acquire call queue s free first prepared => exact List.nil_sublist _
  | endEarly call queue result free first prepared =>
    simp [concluded, free, decides, first, prepared, Sign.results, Sign.result?, told]
  | send call attended s holds => exact List.nil_sublist _
  | release call attended result holds quiet =>
    rw [concluded, concluded, holds]
    cases attended with
    | true => exact List.Sublist.refl _
    | false => exact List.nil_sublist _
  | ask request may =>
    rw [concluded, concluded, (ask_calls h request).2.2]
    exact List.sublist_append_left _ _
  | proceed h' signs proceeds =>
    rw [concluded, concluded, (proceed_calls proceeds).2.2, (proceed_signs proceeds).2]
    exact List.sublist_append_left _ _
  | grant call attended s update holds quiet => exact List.sublist_append_right _ _
  | fail call attended s error holds quiet => exact List.sublist_append_right _ _
  | breakOff call attended s holds quiet => exact List.sublist_append_right _ _
  | _ => exact List.sublist_append_left _ _

theorem results_run {h h' : Hub κ} {moves : List (Move κ)} {signs : List (Sign κ)}
    (hr : h.run moves = some (h', signs)) :
    (Sign.results signs ++ h'.concluded.map told).Sublist
      (h.concluded.map told ++ (h.decided moves).map told) := by
  induction moves generalizing h signs with
  | nil =>
    cases hr
    exact List.sublist_append_left _ _
  | cons m moves ih =>
    obtain ⟨h₁, first, more, hm, hrest, rfl⟩ := run_cons_iff.mp hr
    have hfirst := (step_of_move hm).results.append_right ((h₁.decided moves).map told)
    have hmore := (ih hrest).append_left (Sign.results first)
    rw [decided_cons hm, Sign.results_append, List.map_append]
    simp only [List.append_assoc] at hfirst hmore ⊢
    exact hmore.trans hfirst

/-! ## Order -/

/-- Calls are decided in the order in which they come. -/
theorem Step.decided_order {h h' : Hub κ} {m : Move κ} {signs : List (Sign κ)}
    (hs : Step h m h' signs) :
    ((h.decides h' m).map Prod.fst ++ h'.underWay ++ h'.queue).Sublist
      (h.underWay ++ h.queue ++ Move.entered [m]) := by
  cases hs with
  | enter call =>
    show (h.underWay ++ (h.queue ++ [call])).Sublist (h.underWay ++ h.queue ++ [call])
    rw [List.append_assoc]
  | takeBack number waits =>
    show (h.underWay ++ h.queue.eraseP _).Sublist (h.underWay ++ h.queue ++ [])
    rw [List.append_nil]
    exact List.eraseP_sublist.append_left h.underWay
  | desert call attended stage holds waitsNot =>
    simp only [decides, underWay, holds]
    cases stage <;> simp [Move.call?]
  | acquire call queue s free first prepared => simp [decides, underWay, free, first, prepared]
  | endEarly call queue result free first prepared =>
    simp [decides, underWay, free, first, prepared]
  | send call attended s holds => simp [decides, underWay, holds]
  | grant call attended s update holds quiet =>
    simp [decides, concluded, underWay, holds, Hub.commit]
  | fail call attended s error holds quiet => simp [decides, concluded, underWay, holds, Hub.fail]
  | breakOff call attended s holds quiet => simp [decides, concluded, underWay, holds, Hub.fail]
  | release call attended result holds quiet => simp [decides, underWay, holds]
  | ask request may =>
    rw [underWay, underWay, (ask_calls h request).2.1, (ask_calls h request).2.2]
    exact List.sublist_append_left _ _
  | proceed h' signs proceeds =>
    rw [underWay, underWay, (proceed_calls proceeds).2.1, (proceed_calls proceeds).2.2]
    exact List.sublist_append_left _ _
  | finish callback rest runs => exact List.sublist_append_left _ _

theorem decided_order_run {h h' : Hub κ} {moves : List (Move κ)} {signs : List (Sign κ)}
    (hr : h.run moves = some (h', signs)) :
    ((h.decided moves).map Prod.fst ++ h'.underWay ++ h'.queue).Sublist
      (h.underWay ++ h.queue ++ Move.entered moves) := by
  induction moves generalizing h signs with
  | nil =>
    cases hr
    simp [decided]
  | cons m moves ih =>
    obtain ⟨h₁, first, more, hm, hrest, rfl⟩ := run_cons_iff.mp hr
    have hfirst := (step_of_move hm).decided_order.append_right (Move.entered moves)
    have hmore := (ih hrest).append_left ((h.decides h₁ m).map Prod.fst)
    rw [decided_cons hm, List.map_append, Move.entered_cons]
    rw [Move.entered_cons, Move.entered_nil, List.append_nil] at hfirst
    simp only [List.append_assoc] at hfirst hmore ⊢
    exact hmore.trans hfirst

/-- In a run from a hub at rest only calls are decided that have come. -/
theorem AtRest.decided_sublist {h h' : Hub κ} {moves : List (Move κ)} {signs : List (Sign κ)}
    (rest : h.AtRest) (hr : h.run moves = some (h', signs)) :
    ((h.decided moves).map Prod.fst).Sublist (Move.entered moves) := by
  have horder := decided_order_run hr
  have hunderWay : h.underWay = [] := by rw [underWay, rest.2]
  rw [hunderWay, rest.1, List.append_assoc] at horder
  exact (List.sublist_append_left _ _).trans horder

/-- What the caller of a call learns has been decided, if no two calls that come
have the same number. -/
theorem AtRest.mem_decided {h h' : Hub κ} {moves : List (Move κ)} {signs : List (Sign κ)}
    (rest : h.AtRest) (hr : h.run moves = some (h', signs))
    (distinct : ((Move.entered moves).map Call.number).Nodup) {call : Call}
    (hcall : call ∈ Move.entered moves) {result : CallResult}
    (learns : (call.number, result) ∈ Sign.results signs) :
    (call, result) ∈ h.decided moves := by
  have hresults := results_run hr
  have hconcluded : h.concluded = [] := by rw [concluded, rest.2]
  rw [hconcluded, List.map_nil, List.nil_append] at hresults
  have hmem := hresults.subset (List.mem_append_left (h'.concluded.map told) learns)
  obtain ⟨⟨call', result'⟩, hdecided, htold⟩ := List.mem_map.mp hmem
  obtain ⟨hnumber, rfl⟩ := Prod.mk.inj htold
  have hcall' : call' ∈ Move.entered moves :=
    (rest.decided_sublist hr).subset (List.mem_map.mpr ⟨_, hdecided, rfl⟩)
  have heq : call' = call := List.inj_on_of_nodup_map distinct hcall' hcall hnumber
  rw [← heq]
  exact hdecided

/-! ## Simulated answers -/

/-- The move brings no answer, or that of a simulated server. -/
def SimulatedAt (h : Hub κ) : Move κ → Prop
  | .receive answer => ∀ s ∈ h.withServer, ∃ failing : Bool,
      answer = (SimulatedServer.answer ⟨failing, 0⟩ s).1
  | _ => True

instance (h : Hub κ) (m : Move κ) : Decidable (h.SimulatedAt m) :=
  match m with
  | .receive answer => inferInstanceAs (Decidable (∀ s ∈ h.withServer, ∃ failing : Bool,
      answer = (SimulatedServer.answer ⟨failing, 0⟩ s).1))
  | .enter _ | .leave _ | .acquire | .send | .release | .ask _ | .proceed | .finish =>
    isTrue trivial

/-- A simulated server grants what is submitted or fails. -/
theorem SimulatedAt.cases {h : Hub κ} {answer : Answer}
    (hs : h.SimulatedAt (.receive answer)) {call : Call} {attended : Bool} {s : Submission}
    (holds : h.holder = some ⟨call, attended, .sent s⟩) :
    answer = .granted (SimulatedServer.grant s) ∨
      answer = .failed (.communication SimulatedServer.failureText) := by
  obtain ⟨failing, rfl⟩ := hs s (by rw [withServer, holds]; exact List.mem_singleton.mpr rfl)
  cases failing with
  | true => exact Or.inr rfl
  | false => exact Or.inl rfl

/-- A step over a simulated server leads to the states that its decisions lead
to. -/
theorem Step.picture_decides {h h' : Hub κ} {m : Move κ} {signs : List (Sign κ)}
    (hs : Step h m h' signs) (hsim : h.SimulatedAt m) (hsound : h.Sound) :
    h'.store.picture = ((h.decides h' m).foldl Store.settle h.store).picture := by
  cases hs with
  | acquire call queue s free first prepared => simp [decides, first, prepared]
  | endEarly call queue result free first prepared =>
    simp only [decides, first, prepared, List.foldl_cons, List.foldl_nil]
    cases result with
    | ok outcome => simp [Store.settle, Store.serve, prepared]
    | error failure => rfl
  | grant call attended s update holds quiet =>
    have hprepared := hsound.prepared holds rfl
    rcases hsim.cases holds with heq | heq
    · cases heq
      simp [decides, concluded, Hub.commit, Store.settle, Store.serve, hprepared]
    · cases heq
  | fail call attended s error holds quiet => rfl
  | breakOff call attended s holds quiet => rfl
  | ask request may => exact picture_ask h request
  | proceed h' signs proceeds =>
    rw [store_proceed proceeds]
    rfl
  | _ => rfl

theorem picture_run {h h' : Hub κ} {moves : List (Move κ)} {signs : List (Sign κ)}
    (hr : h.run moves = some (h', signs)) (hsim : h.Along SimulatedAt moves)
    (hsound : h.Sound) :
    h'.store.picture = ((h.decided moves).foldl Store.settle h.store).picture := by
  induction moves generalizing h signs with
  | nil =>
    cases hr
    rfl
  | cons m moves ih =>
    obtain ⟨h₁, first, more, hm, hrest, rfl⟩ := run_cons_iff.mp hr
    have hs := step_of_move hm
    rw [ih hrest (hsim.2 h₁ first hm) (hsound.step hs), decided_cons hm, List.foldl_append]
    exact Store.picture_foldl_settle (hs.picture_decides hsim.1 hsound) _

end Hub

end PortletPage
