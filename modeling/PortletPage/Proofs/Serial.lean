import PortletPage.Proofs.Runs

/-!
# Serial runs

Calls overlap: while one of them is with the server others come, wait, are taken
back and lose their callers.  Still every run is as good as a serial one, in
which each call comes, takes the lock, sends its submission and has the answer
applied in one go, before anything else happens.

A serial run is a list of `Deed`s; it is a run of the same hub, and
`Deed.moves` spells it out.  `Hub.serially` is what is left of a hub when the
calls that wait or are under way have not come yet.  `Hub.SerialFor` relates a
run to a serial one:

* `Step.serialFor`: each step of the hub is matched by deeds.  An answer is
  matched by the whole call, from its coming to the application of the answer.
  That works because the submission that was sent is the one that the call
  would make now (`Sound.prepared`).
* `run_serialFor`: so is every run.
-/

namespace PortletPage

/-- What a hub does that serves one call at a time. -/
inductive Deed (κ : Type) where
  /-- A call comes and ends, for want of something to submit. -/
  | dismiss (call : Call)
  /-- A call comes, submits, and has the answer applied. -/
  | serve (call : Call) (answer : Answer)
  /-- The call that was served ends. -/
  | release
  | ask (request : Request κ)
  | proceed
  | finish

/-- The moves of a deed. -/
def Deed.moves {κ : Type} : Deed κ → List (Move κ)
  | .dismiss call => [.enter call, .acquire]
  | .serve call answer => [.enter call, .acquire, .send, .receive answer]
  | .release => [.release]
  | .ask request => [.ask request]
  | .proceed => [.proceed]
  | .finish => [.finish]

/-- Whether a move does more than to bring a call on its way or take it back: it
applies an answer, ends the call that has one, or belongs to a request or a
delivery. -/
def Move.takesEffect {κ : Type} : Move κ → Bool
  | .enter _ | .leave _ | .acquire | .send => false
  | _ => true

/-- The call that comes with a deed. -/
def Deed.call? {κ : Type} : Deed κ → Option Call
  | .dismiss call => some call
  | .serve call _ => some call
  | _ => none

/-- The calls of a serial run, in order. -/
def Deed.calls {κ : Type} (deeds : List (Deed κ)) : List Call := deeds.filterMap Deed.call?

@[simp] theorem Deed.calls_nil {κ : Type} : Deed.calls ([] : List (Deed κ)) = [] := rfl

@[simp] theorem Deed.calls_cons {κ : Type} (deed : Deed κ) (deeds : List (Deed κ)) :
    Deed.calls (deed :: deeds) = deed.call?.toList ++ Deed.calls deeds := by
  cases hdeed : deed.call? <;> simp [calls, hdeed]

@[simp] theorem Deed.calls_append {κ : Type} (deeds deeds' : List (Deed κ)) :
    Deed.calls (deeds ++ deeds') = Deed.calls deeds ++ Deed.calls deeds' :=
  List.filterMap_append

namespace Hub

variable {κ : Type}

/-! ## Hubs with one call at a time -/

/-- The call whose answer has been applied, with a caller who waits for it. -/
def settled : Option Holder → Option Holder
  | some ⟨call, _, .over result⟩ => some ⟨call, true, .over result⟩
  | _ => none

/-- The hub if the calls that wait or are under way had not come yet. -/
def serially (h : Hub κ) : Hub κ :=
  h.withCalls (if (settled h.holder).isSome then 1 else 0) [] (settled h.holder)

/-- The submission that is with the server, if any. -/
def withServer (h : Hub κ) : List Submission :=
  match h.holder with
  | some ⟨_, _, .sent s⟩ => [s]
  | _ => []

/-- The call that has taken the lock and has not been answered, if any. -/
def underWay (h : Hub κ) : List Call :=
  match h.holder with
  | some ⟨call, _, .ready _⟩ => [call]
  | some ⟨call, _, .sent _⟩ => [call]
  | _ => []

/-- The call that a move takes back before its turn, if any. -/
def waived (h : Hub κ) : Move κ → List Call
  | .leave number => (h.queue.find? fun call => call.number == number).toList
  | _ => []

/-- The calls that are taken back before their turn in the course of a run. -/
def takenBack : Hub κ → List (Move κ) → List Call
  | _, [] => []
  | h, m :: moves => h.waived m ++ match h.move m with
    | some (h', _) => h'.takenBack moves
    | none => []

/-- The call with that number holds the lock and its caller has gone away. -/
def Deserted (h : Hub κ) (number : Nat) : Prop :=
  ∃ call stage, h.holder = some ⟨call, false, stage⟩ ∧ call.number = number

/-- A serial run that does as much as a run from one hub to another. -/
structure SerialFor (h : Hub κ) (moves : List (Move κ)) (h' : Hub κ) (signs : List (Sign κ))
    (deeds : List (Deed κ)) (seen : List (Sign κ)) : Prop where
  /-- It leads to the same store, registry and deliveries. -/
  run : h.serially.run (deeds.flatMap Deed.moves) = some (h'.serially, seen)
  /-- It differs only in the moves that bring calls on their way or take them back. -/
  effects : (deeds.flatMap Deed.moves).filter Move.takesEffect =
    moves.filter Move.takesEffect
  /-- The same callbacks are called with the same events, and the same replies
  are given. -/
  deliveries : Sign.deliveries seen = Sign.deliveries signs
  /-- The same submissions are sent, except one that is not answered yet. -/
  submissions : h.withServer ++ Sign.submissions signs = Sign.submissions seen ++ h'.withServer
  /-- Callers learn the results that they learn in the serial run. -/
  results : (Sign.results signs).Sublist (Sign.results seen)
  /-- Only callers that go away do not learn them. -/
  unheard : ∀ x ∈ Sign.results seen,
    x ∈ Sign.results signs ∨ h.Deserted x.1 ∨ .leave x.1 ∈ moves
  /-- Calls are served in the order in which they come. -/
  order : (Deed.calls deeds ++ h'.underWay ++ h'.queue).Sublist
    (h.underWay ++ h.queue ++ Move.entered moves)
  /-- Every call is served or has its turn to come, or is taken back before. -/
  served : (Deed.calls deeds ++ h'.underWay ++ h'.queue ++ h.takenBack moves).Perm
    (h.underWay ++ h.queue ++ Move.entered moves)

/-! ## Calls that are taken back -/

theorem takenBack_cons {h h₁ : Hub κ} {m : Move κ} {first : List (Sign κ)}
    (hm : h.move m = some (h₁, first)) (moves : List (Move κ)) :
    h.takenBack (m :: moves) = h.waived m ++ h₁.takenBack moves := by
  rw [takenBack, hm]

theorem takenBack_singleton {h h₁ : Hub κ} {m : Move κ} {first : List (Sign κ)}
    (hm : h.move m = some (h₁, first)) : h.takenBack [m] = h.waived m := by
  rw [takenBack_cons hm, takenBack, List.append_nil]

/-- The call that is taken back is the one that the queue loses. -/
theorem perm_eraseP_find? (queue : List Call) (p : Call → Bool) :
    (queue.eraseP p ++ (queue.find? p).toList).Perm queue := by
  induction queue with
  | nil => exact List.Perm.refl _
  | cons call rest ih =>
    by_cases hp : p call = true
    · rw [List.eraseP_cons_of_pos hp, List.find?_cons_of_pos hp]
      exact List.perm_append_singleton call rest
    · rw [List.eraseP_cons_of_neg hp, List.find?_cons_of_neg hp, List.cons_append]
      exact ih.cons call

/-! ## Requests and deliveries -/

theorem serially_ask (h : Hub κ) (request : Request κ) :
    (h.ask request).serially = h.serially.ask request := by
  rw [serially, serially, ask_withCalls, (ask_calls h request).2.2]

theorem serially_proceed {h h' : Hub κ} {signs : List (Sign κ)}
    (hp : h.proceed = some (h', signs)) : h.serially.proceed = some (h'.serially, signs) := by
  rw [serially, serially, proceed_withCalls, hp, Option.map_some, (proceed_calls hp).2.2]

/-- A delivery sends no submission and ends no call. -/
theorem proceed_signs {h h' : Hub κ} {signs : List (Sign κ)}
    (hp : h.proceed = some (h', signs)) :
    Sign.submissions signs = [] ∧ Sign.results signs = [] := by
  simp only [proceed] at hp
  split at hp <;> cases hp <;> exact ⟨rfl, rfl⟩

/-! ## Steps and their deeds -/

/-- A step that neither sends nor answers nor moves a call is a deed of its own. -/
theorem SerialFor.of_deed {h h' : Hub κ} {m : Move κ} {signs : List (Sign κ)}
    (hmove : h.move m = some (h', signs))
    (hrun : h.serially.move m = some (h'.serially, signs)) {deed : Deed κ}
    (hdeed : deed.moves = [m]) (hcall : deed.call? = none) (hm : m.call? = none)
    (hwaived : h.waived m = [])
    (hsigns : Sign.submissions signs = [] ∧ Sign.results signs = [])
    (hholder : h'.holder = h.holder) (hqueue : h'.queue = h.queue) :
    SerialFor h [m] h' signs [deed] signs where
  run := by
    rw [List.flatMap_singleton, hdeed, run_singleton]
    exact hrun
  effects := by rw [List.flatMap_singleton, hdeed]
  deliveries := rfl
  submissions := by
    rw [hsigns.1, withServer, withServer, hholder]
    simp
  results := List.Sublist.refl _
  unheard := by
    intro x hx
    exact Or.inl hx
  order := by
    simp [hcall, hm, underWay, hholder, hqueue]
  served := by
    rw [takenBack_singleton hmove, hwaived]
    simp [hcall, hm, underWay, hholder, hqueue]

/-- A step that only moves calls about needs no deed. -/
theorem SerialFor.of_still {h h' : Hub κ} {m : Move κ} {signs : List (Sign κ)}
    (hserially : h'.serially = h.serially) (hm : m.takesEffect = false)
    (hdeliveries : Sign.deliveries signs = []) (hresults : Sign.results signs = [])
    (hsubmissions : h.withServer ++ Sign.submissions signs = h'.withServer)
    (horder : (h'.underWay ++ h'.queue).Sublist (h.underWay ++ h.queue ++ Move.entered [m]))
    (hserved : (h'.underWay ++ h'.queue ++ h.takenBack [m]).Perm
      (h.underWay ++ h.queue ++ Move.entered [m])) :
    SerialFor h [m] h' signs [] [] where
  run := by
    rw [hserially]
    rfl
  effects := by simp [hm]
  deliveries := hdeliveries.symm
  submissions := by
    rw [hsubmissions]
    rfl
  results := by
    rw [hresults]
    exact List.Sublist.refl _
  unheard := by
    intro x hx
    cases hx
  order := horder
  served := hserved

/-- An answer to a call is what the whole call comes to when it is served by
itself now: the call would still submit what it has submitted. -/
theorem run_serve {h h' : Hub κ} {call : Call} {attended : Bool} {s : Submission}
    {answer : Answer} (hprepared : prepare h.store call = .ok s)
    (holds : h.holder = some ⟨call, attended, .sent s⟩) (quiet : h.delivery = [])
    (hmove : h.move (.receive answer) = some (h', [])) :
    h.serially.run (Deed.serve call answer).moves = some (h'.serially, [.sent s]) := by
  have hserially : h.serially = h.withCalls 0 [] none := by
    rw [serially, holds]
    rfl
  have hready : (h.withCalls 0 [] none).run [.enter call, .acquire, .send] =
      some (h.withCalls 1 [] (some ⟨call, true, .sent s⟩), [.sent s]) := by
    simp [run, move, withCalls, hprepared]
  have hreceive : (h.withCalls 1 [] (some ⟨call, true, .sent s⟩)).move (.receive answer) =
      some (h'.serially, []) := by
    cases step_of_move hmove with
    | grant call' attended' s' update holds' quiet' =>
      rw [holds] at holds'
      cases holds'
      simp only [move, withCalls, quiet]
      rfl
    | fail call' attended' s' error holds' quiet' =>
      rw [holds] at holds'
      cases holds'
      simp [move, withCalls, quiet, Hub.fail, serially, settled]
    | breakOff call' attended' s' holds' quiet' =>
      rw [holds] at holds'
      cases holds'
      simp [move, withCalls, quiet, Hub.fail, serially, settled]
  rw [hserially]
  exact run_append_iff.mpr
    ⟨_, _, [], hready, (run_singleton _ _).trans hreceive, rfl⟩

/-- An answer is matched by the whole call. -/
theorem SerialFor.of_answer {h h' : Hub κ} {call : Call} {attended : Bool} {s : Submission}
    {answer : Answer} (hprepared : prepare h.store call = .ok s)
    (holds : h.holder = some ⟨call, attended, .sent s⟩) (quiet : h.delivery = [])
    (hmove : h.move (.receive answer) = some (h', []))
    (hover : ∃ result, h'.holder = some ⟨call, attended, .over result⟩)
    (hqueue : h'.queue = h.queue) :
    SerialFor h [.receive answer] h' [] [.serve call answer] [.sent s] where
  run := by
    rw [List.flatMap_singleton]
    exact run_serve hprepared holds quiet hmove
  effects := rfl
  deliveries := rfl
  submissions := by
    obtain ⟨result, hholder⟩ := hover
    simp [withServer, holds, hholder, Sign.submissions, Sign.submission?]
  results := List.Sublist.refl _
  unheard := by
    intro x hx
    cases hx
  order := by
    obtain ⟨result, hholder⟩ := hover
    simp [Deed.call?, Move.call?, underWay, holds, hholder, hqueue]
  served := by
    obtain ⟨result, hholder⟩ := hover
    rw [takenBack_singleton hmove]
    simp [Deed.call?, Move.call?, underWay, waived, holds, hholder,
      hqueue]

/-- Each step of a hub is matched by deeds. -/
theorem Step.serialFor {h h' : Hub κ} {m : Move κ} {signs : List (Sign κ)}
    (hs : Step h m h' signs) (hsound : h.Sound) :
    ∃ deeds seen, SerialFor h [m] h' signs deeds seen := by
  have hmove := move_of_step hs
  cases hs with
  | enter call =>
    refine ⟨[], [], .of_still rfl rfl rfl rfl (List.append_nil _) ?_ ?_⟩
    · rw [← List.append_assoc]
      exact List.Sublist.refl _
    · rw [takenBack_singleton hmove, show h.waived (.enter call) = [] from rfl,
        List.append_nil, ← List.append_assoc]
      exact List.Perm.refl _
  | takeBack number waits =>
    refine ⟨[], [], .of_still rfl rfl rfl rfl (List.append_nil _) ?_ ?_⟩
    · rw [show Move.entered [(Move.leave number : Move κ)] = [] from rfl, List.append_nil]
      exact List.Sublist.append_left List.eraseP_sublist h.underWay
    · rw [takenBack_singleton hmove, List.append_assoc,
        show Move.entered [(Move.leave number : Move κ)] = [] from rfl, List.append_nil]
      exact (perm_eraseP_find? h.queue _).append_left h.underWay
  | desert call attended stage holds waitsNot =>
    have hwaived : h.waived (.leave call.number) = [] := by
      rw [waived, Option.toList_eq_nil_iff, List.find?_eq_none]
      intro c hc hnumber
      exact waitsNot (List.mem_map.mpr ⟨c, hc, by simpa using hnumber⟩)
    refine ⟨[], [], .of_still ?_ rfl rfl rfl ?_ ?_ ?_⟩
    · rw [serially, serially, holds]
      cases stage <;> rfl
    · rw [withServer, withServer, holds]
      cases stage <;> rfl
    · rw [underWay, underWay, holds]
      cases stage <;> simp [Move.call?]
    · rw [takenBack_singleton hmove, hwaived, underWay, underWay, holds]
      cases stage <;> simp [Move.call?]
  | acquire call queue s free first prepared =>
    refine ⟨[], [], .of_still ?_ rfl rfl rfl ?_ ?_ ?_⟩
    · rw [serially, serially, free]
      rfl
    · simp [withServer, free, Sign.submissions]
    · simp [underWay, free, first]
    · rw [takenBack_singleton hmove]
      simp [underWay, waived, free, first, Move.call?]
  | endEarly call queue result free first prepared =>
    refine ⟨[.dismiss call], [.ended call.number result], ?_⟩
    exact {
      run := by
        have hserially : h.serially = h.withCalls 0 [] none := by
          rw [serially, free]
          rfl
        rw [hserially]
        simp [run, move, Deed.moves, withCalls, prepared, serially, free, settled]
      effects := rfl
      deliveries := rfl
      submissions := by simp [withServer, free, Sign.submissions, Sign.submission?]
      results := List.Sublist.refl _
      unheard := fun x hx => Or.inl hx
      order := by simp [Deed.call?, underWay, free, first]
      served := by
        rw [takenBack_singleton hmove]
        simp [Deed.call?, underWay, waived, free, first, Move.call?] }
  | send call attended s holds =>
    refine ⟨[], [], .of_still ?_ rfl rfl rfl ?_ ?_ ?_⟩
    · rw [serially, serially, holds]
      rfl
    · simp [withServer, holds, Sign.submissions, Sign.submission?]
    · simp [underWay, holds]
    · rw [takenBack_singleton hmove]
      simp [underWay, waived, holds, Move.call?]
  | grant call attended s update holds quiet =>
    exact ⟨_, _, .of_answer (hsound.prepared holds rfl) holds quiet hmove ⟨_, rfl⟩ rfl⟩
  | fail call attended s error holds quiet =>
    exact ⟨_, _, .of_answer (hsound.prepared holds rfl) holds quiet hmove ⟨_, rfl⟩ rfl⟩
  | breakOff call attended s holds quiet =>
    exact ⟨_, _, .of_answer (hsound.prepared holds rfl) holds quiet hmove ⟨_, rfl⟩ rfl⟩
  | release call attended result holds quiet =>
    refine ⟨[.release], [.ended call.number result], ?_⟩
    exact {
      run := by
        have hserially : h.serially = h.withCalls 1 [] (some ⟨call, true, .over result⟩) := by
          rw [serially, holds]
          rfl
        rw [hserially]
        simp [run, move, Deed.moves, withCalls, quiet, serially, settled]
      effects := rfl
      deliveries := by cases attended <;> rfl
      submissions := by
        cases attended <;> simp [withServer, holds, Sign.submissions, Sign.submission?]
      results := by
        cases attended
        · exact List.nil_sublist _
        · exact List.Sublist.refl _
      unheard := by
        intro x hx
        cases attended with
        | true => exact Or.inl hx
        | false =>
          cases List.mem_singleton.mp hx
          exact Or.inr (Or.inl ⟨call, _, holds, rfl⟩)
      order := by simp [Deed.call?, underWay, holds]
      served := by
        rw [takenBack_singleton hmove]
        simp [Deed.call?, underWay, waived, holds, Move.call?] }
  | ask request may =>
    have hcalls := ask_calls h request
    have hrun : h.serially.move (.ask request) = some ((h.ask request).serially, []) := by
      rw [serially_ask]
      simp [move, serially, may]
    have hdeed : (Deed.ask request).moves = [.ask request] := rfl
    exact ⟨_, _, .of_deed hmove hrun hdeed rfl rfl rfl ⟨rfl, rfl⟩
      hcalls.2.2 hcalls.2.1⟩
  | proceed h' signs proceeds =>
    have hcalls := proceed_calls proceeds
    have hdeed : (Deed.proceed : Deed κ).moves = [.proceed] := rfl
    exact ⟨_, _, .of_deed hmove (serially_proceed proceeds) hdeed rfl rfl rfl
      (proceed_signs proceeds) hcalls.2.2 hcalls.2.1⟩
  | finish callback rest runs =>
    have hrun : h.serially.move .finish =
        some ({ h with delivery := rest }.serially, []) := by
      simp [move, serially, withCalls, runs]
    have hdeed : (Deed.finish : Deed κ).moves = [.finish] := rfl
    exact ⟨_, _, .of_deed hmove hrun hdeed rfl rfl rfl ⟨rfl, rfl⟩ rfl rfl⟩

/-! ## Runs and their serial runs -/

/-- A caller is gone because it was gone before or goes away now. -/
theorem Step.deserted {h h' : Hub κ} {m : Move κ} {signs : List (Sign κ)}
    (hs : Step h m h' signs) {number : Nat} (hd : h'.Deserted number) :
    h.Deserted number ∨ m = .leave number := by
  obtain ⟨call', stage', holds', rfl⟩ := hd
  cases hs with
  | desert call attended stage holds waitsNot =>
    cases holds'
    exact Or.inr rfl
  | acquire call queue s free first prepared => cases holds'
  | send call attended s holds =>
    cases holds'
    exact Or.inl ⟨_, _, holds, rfl⟩
  | grant call attended s update holds quiet =>
    cases holds'
    exact Or.inl ⟨_, _, holds, rfl⟩
  | fail call attended s error holds quiet =>
    cases holds'
    exact Or.inl ⟨_, _, holds, rfl⟩
  | breakOff call attended s holds quiet =>
    cases holds'
    exact Or.inl ⟨_, _, holds, rfl⟩
  | release call attended result holds quiet => cases holds'
  | ask request may =>
    rw [(ask_calls h request).2.2] at holds'
    exact Or.inl ⟨call', stage', holds', rfl⟩
  | proceed h' signs proceeds =>
    rw [(proceed_calls proceeds).2.2] at holds'
    exact Or.inl ⟨call', stage', holds', rfl⟩
  | _ => exact Or.inl ⟨call', stage', holds', rfl⟩

/-- The run of no move is matched by no deed. -/
theorem SerialFor.nil (h : Hub κ) : SerialFor h [] h [] [] [] where
  run := rfl
  effects := rfl
  deliveries := rfl
  submissions := List.append_nil _
  results := List.Sublist.refl _
  unheard := by
    intro x hx
    cases hx
  order := by simp
  served := by simp [takenBack]

/-- The deeds of a step and those of the moves that follow match all of them. -/
theorem SerialFor.cons {h h₁ h' : Hub κ} {m : Move κ} {moves : List (Move κ)}
    {signs more : List (Sign κ)} {deeds deeds' : List (Deed κ)} {seen seen' : List (Sign κ)}
    (hs : Step h m h₁ signs) (hfirst : SerialFor h [m] h₁ signs deeds seen)
    (hrest : SerialFor h₁ moves h' more deeds' seen') :
    SerialFor h (m :: moves) h' (signs ++ more) (deeds ++ deeds') (seen ++ seen') where
  run := by
    rw [List.flatMap_append]
    exact run_append_iff.mpr ⟨h₁.serially, seen, seen', hfirst.run, hrest.run, rfl⟩
  effects := by
    rw [List.flatMap_append, List.filter_append, hfirst.effects, hrest.effects,
      ← List.filter_append, List.singleton_append]
  deliveries := by
    rw [Sign.deliveries_append, Sign.deliveries_append, hfirst.deliveries, hrest.deliveries]
  submissions := by
    rw [Sign.submissions_append, Sign.submissions_append, ← List.append_assoc,
      hfirst.submissions, List.append_assoc, hrest.submissions, List.append_assoc]
  results := by
    rw [Sign.results_append, Sign.results_append]
    exact hfirst.results.append hrest.results
  unheard := by
    intro x hx
    rw [Sign.results_append, List.mem_append] at hx ⊢
    rcases hx with hx | hx
    · rcases hfirst.unheard x hx with hheard | hdeserted | hleave
      · exact Or.inl (Or.inl hheard)
      · exact Or.inr (Or.inl hdeserted)
      · exact Or.inr (Or.inr (List.mem_cons.mpr (Or.inl (List.mem_singleton.mp hleave))))
    · rcases hrest.unheard x hx with hheard | hdeserted | hleave
      · exact Or.inl (Or.inr hheard)
      · rcases hs.deserted hdeserted with hbefore | hnow
        · exact Or.inr (Or.inl hbefore)
        · exact Or.inr (Or.inr (List.mem_cons.mpr (Or.inl hnow.symm)))
      · exact Or.inr (Or.inr (List.mem_cons_of_mem m hleave))
  order := by
    -- what waits after the first step is what waits before it or comes with it
    have hfirst' := hfirst.order.append_right (Move.entered moves)
    have hrest' := hrest.order.append_left (Deed.calls deeds)
    rw [Move.entered_cons, Move.entered_nil, List.append_nil, List.append_assoc _ m.call?.toList,
      List.append_assoc (Deed.calls deeds), List.append_assoc (Deed.calls deeds)] at hfirst'
    rw [← List.append_assoc, ← List.append_assoc, ← Deed.calls_append] at hrest'
    rw [Move.entered_cons]
    exact hrest'.trans hfirst'
  served := by
    have hfirst' := hfirst.served
    rw [takenBack_singleton (move_of_step hs), Move.entered_cons, Move.entered_nil,
      List.append_nil] at hfirst'
    rw [takenBack_cons (move_of_step hs), Deed.calls_append, Move.entered_cons]
    -- every call is counted as often on one side as on the other
    rw [List.perm_iff_count]
    intro call
    have hleft := List.perm_iff_count.mp hfirst' call
    have hright := List.perm_iff_count.mp hrest.served call
    simp only [List.count_append] at hleft hright ⊢
    omega

/-- Every run is matched by a serial one. -/
theorem run_serialFor {h h' : Hub κ} {moves : List (Move κ)} {signs : List (Sign κ)}
    (hsound : h.Sound) (hr : h.run moves = some (h', signs)) :
    ∃ deeds seen, SerialFor h moves h' signs deeds seen := by
  induction moves generalizing h signs with
  | nil =>
    cases hr
    exact ⟨[], [], .nil _⟩
  | cons m moves ih =>
    obtain ⟨h₁, first, more, hm, hrest, rfl⟩ := run_cons_iff.mp hr
    have hs := step_of_move hm
    obtain ⟨deeds, seen, hfirst⟩ := hs.serialFor hsound
    obtain ⟨deeds', seen', hlater⟩ := ih (hsound.step hs) hrest
    exact ⟨_, _, hfirst.cons hs hlater⟩

end Hub

end PortletPage
