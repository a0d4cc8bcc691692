import PortletPage.Proofs.Serial

/-!
# Callers that go away

A call that is taken back while it waits leaves no trace: the run without its
coming and going is open too, leads to the same hub and shows the same signs.
Calls are told apart by their numbers, so this is about runs in which no number
comes twice.

* `Hub.AlsoWaits`: two hubs of which the first has one more call in its queue.
* `Step.without` and `run_without`: the second hub can follow the first as long
  as the call waits.
* `run_of_takenBack`: when the call is taken back the two hubs are the same.

A call that holds the lock goes on without its caller.

* `Step.heed` and `run_heed`: whether the caller still waits makes no difference
  to the moves that are open and to what is seen of them, the result apart.
* `run_of_deserted`: so the run in which the caller stays is open too.
-/

namespace PortletPage.Hub

variable {κ : Type}

/-- The first hub is the second one with a call that waits in addition. -/
def AlsoWaits (call : Call) (h g : Hub κ) : Prop :=
  ∃ front back, g.queue = front ++ back ∧
    h = g.withCalls (g.inFlight + 1) (front ++ call :: back) g.holder

/-! ## Queues of calls with distinct numbers -/

/-- What waits after a step waited before or comes with it. -/
theorem Step.queue_sublist {h h' : Hub κ} {m : Move κ} {signs : List (Sign κ)}
    (hs : Step h m h' signs) : h'.queue.Sublist (h.queue ++ Move.entered [m]) := by
  have horder : h'.queue.Sublist h.queue → h'.queue.Sublist (h.queue ++ Move.entered [m]) :=
    fun hsub => hsub.trans (List.sublist_append_left _ _)
  cases hs with
  | enter call => exact List.Sublist.refl _
  | takeBack number waits => exact horder List.eraseP_sublist
  | acquire call queue s free first prepared =>
    apply horder
    rw [first]
    exact List.sublist_cons_self call queue
  | endEarly call queue result free first prepared =>
    apply horder
    rw [first]
    exact List.sublist_cons_self call queue
  | ask request may =>
    apply horder
    rw [(ask_calls h request).2.1]
  | proceed h' signs proceeds =>
    apply horder
    rw [(proceed_calls proceeds).2.1]
  | _ => exact horder (List.Sublist.refl _)

theorem queue_sublist_run {h h' : Hub κ} {moves : List (Move κ)} {signs : List (Sign κ)}
    (hr : h.run moves = some (h', signs)) :
    h'.queue.Sublist (h.queue ++ Move.entered moves) := by
  induction moves generalizing h signs with
  | nil =>
    cases hr
    rw [Move.entered_nil, List.append_nil]
  | cons m moves ih =>
    obtain ⟨h₁, first, more, hm, hrest, _⟩ := run_cons_iff.mp hr
    have hfirst := (step_of_move hm).queue_sublist.append_right (Move.entered moves)
    rw [List.append_assoc, ← Move.entered_append, List.singleton_append] at hfirst
    exact (ih hrest).trans hfirst

/-- Distinct numbers stay distinct. -/
theorem distinct_run {h h' : Hub κ} {moves : List (Move κ)} {signs : List (Sign κ)}
    (hr : h.run moves = some (h', signs))
    (distinct : ((h.queue ++ Move.entered moves).map Call.number).Nodup) :
    (h'.queue.map Call.number).Nodup :=
  distinct.sublist ((queue_sublist_run hr).map Call.number)

/-! ## Hubs beside a hub with one more call -/

section AlsoWaits

variable {call : Call} {h g h' : Hub κ}

/-- A hub whose calls are counted counts at least one when a call waits or holds
the lock. -/
theorem Sound.inFlight_pos (hsound : g.Sound) (hcalls : g.queue ≠ [] ∨ g.holder ≠ none) :
    0 < g.inFlight := by
  rw [hsound.counted]
  rcases hcalls with hqueue | hholder
  · have hpos := List.length_pos_iff.mpr hqueue
    omega
  · rw [if_pos (Option.isSome_iff_ne_none.mpr hholder)]
    omega

/-- The call that takes the lock is not one that waits afterwards. -/
theorem front_of_waits {c : Call} {front back queue : List Call}
    (distinct : ((front ++ call :: back).map Call.number).Nodup)
    (first : front ++ call :: back = c :: queue) (waits : call ∈ queue) :
    ∃ front', front = c :: front' ∧ queue = front' ++ call :: back := by
  cases front with
  | nil =>
    cases first
    rw [List.nil_append, List.map_cons, List.nodup_cons] at distinct
    exact absurd (List.mem_map.mpr ⟨call, waits, rfl⟩) distinct.1
  | cons c' front' =>
    cases first
    exact ⟨front', rfl, rfl⟩

/-- As long as the call waits, a hub without it can follow. -/
theorem Step.without {m : Move κ} {signs : List (Sign κ)} (hs : Step h m h' signs)
    (also : AlsoWaits call h g) (distinct : (h.queue.map Call.number).Nodup)
    (waits : call ∈ h'.queue) (hsound : g.Sound) :
    ∃ g', g.move m = some (g', signs) ∧ AlsoWaits call h' g' := by
  obtain ⟨front, back, hqueue, rfl⟩ := also
  rw [queue_withCalls] at distinct
  -- where the number of calls goes down, there is one to be counted
  have hflight : g.queue ≠ [] ∨ g.holder ≠ none →
      g.inFlight + 1 - 1 = g.inFlight - 1 + 1 := by
    intro hcalls
    have hpos := hsound.inFlight_pos hcalls
    omega
  cases hs with
  | enter c =>
    refine ⟨_, move_of_step (.enter g c), front, back ++ [c], ?_, ?_⟩
    · rw [hqueue, List.append_assoc]
    · simp [withCalls]
  | takeBack number hnumber =>
    rw [queue_withCalls] at hnumber
    have hwaits : call ∈ (front ++ call :: back).eraseP fun c => c.number == number := waits
    rw [eraseP_of_nodup_map distinct] at hwaits
    have hne : (call.number != number) = true := (List.mem_filter.mp hwaits).2
    have hdistinct : (g.queue.map Call.number).Nodup := by
      rw [hqueue]
      exact distinct.sublist
        (((List.sublist_cons_self call back).append_left front).map Call.number)
    have hmem : number ∈ g.queue.map Call.number := by
      rw [hqueue]
      simp only [List.map_append, List.map_cons, List.mem_append, List.mem_cons] at hnumber ⊢
      rcases hnumber with hfront | heq | hback
      · exact Or.inl hfront
      · exact absurd heq.symm (by simpa using hne)
      · exact Or.inr hback
    have hcalls : g.queue ≠ [] := by
      intro hnil
      rw [hnil] at hmem
      cases hmem
    refine ⟨_, move_of_step (.takeBack g number hmem),
      front.filter fun c => c.number != number, back.filter fun c => c.number != number, ?_, ?_⟩
    · show (g.queue.eraseP fun c => c.number == number) = _
      rw [eraseP_of_nodup_map hdistinct, hqueue, List.filter_append]
    · have herase : ((front ++ call :: back).eraseP fun c => c.number == number) =
          (front.filter fun c => c.number != number) ++
            call :: back.filter fun c => c.number != number := by
        have hkept : ((call :: back).filter fun c => c.number != number) =
            call :: back.filter fun c => c.number != number := List.filter_cons_of_pos hne
        rw [eraseP_of_nodup_map distinct, List.filter_append, hkept]
      simp only [withCalls, herase, hflight (Or.inl hcalls)]
  | desert c attended stage holds waitsNot =>
    refine ⟨_, move_of_step (.desert g c attended stage holds ?_), front, back, hqueue, rfl⟩
    intro hmem
    apply waitsNot
    show c.number ∈ (front ++ call :: back).map Call.number
    rw [hqueue, List.map_append, List.mem_append] at hmem
    rw [List.map_append, List.map_cons, List.mem_append, List.mem_cons]
    rcases hmem with hfront | hback
    · exact Or.inl hfront
    · exact Or.inr (Or.inr hback)
  | acquire c queue s free first prepared =>
    obtain ⟨front', rfl, rfl⟩ := front_of_waits distinct first waits
    exact ⟨_, move_of_step (.acquire g c (front' ++ back) s free hqueue prepared),
      front', back, rfl, rfl⟩
  | endEarly c queue result free first prepared =>
    obtain ⟨front', rfl, rfl⟩ := front_of_waits distinct first waits
    have hcalls : g.queue ≠ [] := by
      rw [hqueue]
      exact List.cons_ne_nil c (front' ++ back)
    refine ⟨_, move_of_step (.endEarly g c (front' ++ back) result free hqueue prepared),
      front', back, rfl, ?_⟩
    simp only [withCalls, hflight (Or.inl hcalls)]
  | send c attended s holds =>
    exact ⟨_, move_of_step (.send g c attended s holds), front, back, hqueue, rfl⟩
  | grant c attended s update holds quiet =>
    exact ⟨_, move_of_step (.grant g c attended s update holds quiet), front, back, hqueue, rfl⟩
  | fail c attended s error holds quiet =>
    exact ⟨_, move_of_step (.fail g c attended s error holds quiet), front, back, hqueue, rfl⟩
  | breakOff c attended s holds quiet =>
    exact ⟨_, move_of_step (.breakOff g c attended s holds quiet), front, back, hqueue, rfl⟩
  | release c attended result holds quiet =>
    refine ⟨_, move_of_step (.release g c attended result holds quiet), front, back, hqueue, ?_⟩
    rw [holder_withCalls] at holds
    have hcalls : g.holder ≠ none := by
      rw [holds]
      exact Option.some_ne_none _
    simp only [withCalls, hflight (Or.inr hcalls)]
  | ask request may =>
    have hcalls := ask_calls g request
    refine ⟨_, move_of_step (.ask g request may), front, back, hcalls.2.1.trans hqueue, ?_⟩
    rw [ask_withCalls, hcalls.1, hcalls.2.2]
  | proceed h' signs proceeds =>
    rw [proceed_withCalls, Option.map_eq_some_iff] at proceeds
    obtain ⟨⟨g', signs'⟩, hproceed, heq⟩ := proceeds
    cases heq
    have hcalls := proceed_calls hproceed
    refine ⟨g', move_of_step (.proceed g g' signs' hproceed), front, back,
      hcalls.2.1.trans hqueue, ?_⟩
    rw [hcalls.1, hcalls.2.2]
  | finish callback rest runs =>
    exact ⟨_, move_of_step (.finish g callback rest runs), front, back, hqueue, rfl⟩

/-- A hub without the call can follow a whole run in which it waits. -/
theorem run_without {moves : List (Move κ)} {signs : List (Sign κ)}
    (hr : h.run moves = some (h', signs)) (also : AlsoWaits call h g)
    (distinct : ((h.queue ++ Move.entered moves).map Call.number).Nodup)
    (waits : call ∈ h'.queue) (hsound : g.Sound) :
    ∃ g', g.run moves = some (g', signs) ∧ AlsoWaits call h' g' := by
  induction moves generalizing h g signs with
  | nil =>
    cases hr
    exact ⟨g, rfl, also⟩
  | cons m moves ih =>
    obtain ⟨h₁, first, more, hm, hrest, rfl⟩ := run_cons_iff.mp hr
    have hs := step_of_move hm
    have hsub := (hs.queue_sublist.append_right (Move.entered moves)).map Call.number
    rw [List.append_assoc, ← Move.entered_append, List.singleton_append] at hsub
    have hdistinct := distinct.sublist hsub
    -- the call does not come later, so it waits after the first step
    have hwaits : call ∈ h₁.queue := by
      have hcall : call ∈ h.queue := by
        obtain ⟨front, back, _, rfl⟩ := also
        rw [queue_withCalls]
        exact List.mem_append_right front List.mem_cons_self
      rcases List.mem_append.mp ((queue_sublist_run hrest).subset waits) with hnow | hlater
      · exact hnow
      · have hcons : call ∈ Move.entered (m :: moves) := by
          rw [Move.entered_cons]
          exact List.mem_append_right _ hlater
        rw [List.map_append, List.nodup_append] at distinct
        exact absurd rfl (distinct.2.2 _ (List.mem_map.mpr ⟨call, hcall, rfl⟩) _
          (List.mem_map.mpr ⟨call, hcons, rfl⟩))
    have hqueue : (h.queue.map Call.number).Nodup := by
      rw [List.map_append] at distinct
      exact distinct.of_append_left
    obtain ⟨g₁, hg, also₁⟩ := hs.without also hqueue hwaits hsound
    obtain ⟨g', hg', also'⟩ := ih hrest also₁ hdistinct (hsound.step (step_of_move hg))
    exact ⟨g', run_cons_iff.mpr ⟨g₁, first, more, hg, hg', rfl⟩, also'⟩

/-- When the call that waits in addition is taken back, the hubs are the same. -/
theorem AlsoWaits.leave (also : AlsoWaits call h g)
    (distinct : (h.queue.map Call.number).Nodup) :
    h.move (.leave call.number) = some (g, []) := by
  obtain ⟨front, back, hqueue, rfl⟩ := also
  rw [queue_withCalls] at distinct
  have hmem : call.number ∈ (front ++ call :: back).map Call.number :=
    List.mem_map.mpr ⟨call, List.mem_append_right front List.mem_cons_self, rfl⟩
  have hothers : ∀ c ∈ front ++ back, (c.number != call.number) = true := by
    intro c hc
    rw [bne_iff_ne]
    intro hnumber
    have hperm : (front ++ call :: back).Perm (call :: (front ++ back)) := List.perm_middle
    rw [(hperm.map Call.number).nodup_iff, List.map_cons, List.nodup_cons] at distinct
    exact distinct.1 (hnumber ▸ List.mem_map.mpr ⟨c, hc, rfl⟩)
  have herase : ((front ++ call :: back).eraseP fun c => c.number == call.number) =
      g.queue := by
    rw [eraseP_of_nodup_map distinct, List.filter_append, List.filter_cons_of_neg (by simp),
      ← List.filter_append, List.filter_eq_self.mpr hothers, hqueue]
  rw [move_of_step (.takeBack _ call.number hmem)]
  simp only [withCalls, herase, Nat.add_sub_cancel]

end AlsoWaits

/-- A run in which a call comes and is taken back while it waits is open without
that call, and leads to the same hub with the same signs. -/
theorem run_of_takenBack {start g h : Hub κ} {call : Call}
    {before between after : List (Move κ)} {seen signs : List (Sign κ)}
    (hsound : start.Sound)
    (distinct : ((start.queue ++
      Move.entered (before ++ .enter call :: between)).map Call.number).Nodup)
    (hwaiting : start.run (before ++ .enter call :: between) = some (g, seen))
    (waits : call ∈ g.queue)
    (hrest : g.run (.leave call.number :: after) = some (h, signs)) :
    start.run (before ++ between ++ after) = some (h, seen ++ signs) := by
  obtain ⟨h₁, first, more, hbefore, hentering, rfl⟩ := run_append_iff.mp hwaiting
  obtain ⟨h₂, none', more', henter, hbetween, rfl⟩ := run_cons_iff.mp hentering
  cases henter
  have hsound₁ := hsound.run hbefore
  have hsub := ((queue_sublist_run hbefore).append_right
    (Move.entered (.enter call :: between))).map Call.number
  rw [List.append_assoc, ← Move.entered_append] at hsub
  have hdistinct := distinct.sublist hsub
  have also : AlsoWaits call
      { h₁ with queue := h₁.queue ++ [call], inFlight := h₁.inFlight + 1 } h₁ :=
    ⟨h₁.queue, [], (List.append_nil _).symm, rfl⟩
  have hdistinct' : ((h₁.queue ++ [call] ++ Move.entered between).map Call.number).Nodup := by
    rw [Move.entered_cons] at hdistinct
    rw [List.append_assoc]
    exact hdistinct
  obtain ⟨k, hk, also'⟩ := run_without hbetween also hdistinct' waits hsound₁
  have hleave := also'.leave (distinct_run hbetween hdistinct')
  obtain ⟨k', left, last, hleave', hafter, rfl⟩ := run_cons_iff.mp hrest
  rw [hleave] at hleave'
  cases hleave'
  rw [List.append_assoc]
  exact run_append_iff.mpr ⟨h₁, first, _, hbefore,
    run_append_iff.mpr ⟨k, more', last, hk, hafter, rfl⟩, by simp⟩

/-! ## Calls that go on without their callers -/

/-- The hub with a caller of the call that holds the lock who waits, or not. -/
def heed (h : Hub κ) (attended : Bool) : Hub κ :=
  h.withCalls h.inFlight h.queue (h.holder.map fun x => { x with attended := attended })

theorem holder_heed {h : Hub κ} {call : Call} {attended : Bool} {stage : Stage}
    (holds : h.holder = some ⟨call, attended, stage⟩) (attended' : Bool) :
    (h.heed attended').holder = some ⟨call, attended', stage⟩ := by
  rw [heed, holder_withCalls, holds]
  rfl

theorem holder_heed_none {h : Hub κ} (free : h.holder = none) (attended : Bool) :
    (h.heed attended).holder = none := by
  rw [heed, holder_withCalls, free]
  rfl

/-- All that is seen but the results of calls. -/
def exceptResults (signs : List (Sign κ)) : List (Sign κ) :=
  signs.filter fun sign => sign.result?.isNone

@[simp] theorem exceptResults_append (signs signs' : List (Sign κ)) :
    exceptResults (signs ++ signs') = exceptResults signs ++ exceptResults signs' :=
  List.filter_append _ _

/-- Every move is open whether the caller waits or not, and differs in nothing
but who learns the result. -/
theorem Step.heed {h h' : Hub κ} {m : Move κ} {signs : List (Sign κ)}
    (hs : Step h m h' signs) (attended : Bool) :
    ∃ attended' signs', (h.heed attended).move m = some (h'.heed attended', signs') ∧
      exceptResults signs' = exceptResults signs := by
  cases hs with
  | enter call => exact ⟨attended, [], rfl, rfl⟩
  | takeBack number waits =>
    exact ⟨attended, [], move_of_step (.takeBack (h.heed attended) number waits), rfl⟩
  | desert call attended₀ stage holds waitsNot =>
    have hholds := holder_heed holds attended
    refine ⟨false, [], ?_, rfl⟩
    rw [move_of_step (.desert _ call attended stage hholds waitsNot)]
    rfl
  | acquire call queue s free first prepared =>
    have hfree := holder_heed_none free attended
    refine ⟨true, [], ?_, rfl⟩
    rw [move_of_step (.acquire _ call queue s hfree first prepared)]
    rfl
  | endEarly call queue result free first prepared =>
    have hfree := holder_heed_none free attended
    refine ⟨attended, [.ended call.number result], ?_, rfl⟩
    rw [move_of_step (.endEarly _ call queue result hfree first prepared)]
    rfl
  | send call attended₀ s holds =>
    have hholds := holder_heed holds attended
    refine ⟨attended, [.sent s], ?_, rfl⟩
    rw [move_of_step (.send _ call attended s hholds)]
    rfl
  | grant call attended₀ s update holds quiet =>
    have hholds := holder_heed holds attended
    refine ⟨attended, [], ?_, rfl⟩
    rw [move_of_step (.grant _ call attended s update hholds quiet)]
    rfl
  | fail call attended₀ s error holds quiet =>
    have hholds := holder_heed holds attended
    refine ⟨attended, [], ?_, rfl⟩
    rw [move_of_step (.fail _ call attended s error hholds quiet)]
    rfl
  | breakOff call attended₀ s holds quiet =>
    have hholds := holder_heed holds attended
    refine ⟨attended, [], ?_, rfl⟩
    rw [move_of_step (.breakOff _ call attended s hholds quiet)]
    rfl
  | release call attended₀ result holds quiet =>
    have hholds := holder_heed holds attended
    refine ⟨attended, _, move_of_step (.release _ call attended result hholds quiet), ?_⟩
    cases attended <;> cases attended₀ <;> rfl
  | ask request may =>
    refine ⟨attended, [], ?_, rfl⟩
    rw [move_of_step (.ask (h.heed attended) request may), Hub.heed, Hub.heed,
      ask_withCalls, (ask_calls h request).1, (ask_calls h request).2.1,
      (ask_calls h request).2.2]
  | proceed h' signs proceeds =>
    refine ⟨attended, signs, ?_, rfl⟩
    obtain ⟨hflight, hqueue, hholder⟩ := proceed_calls proceeds
    have hproceed : (h.heed attended).proceed = some (h'.heed attended, signs) := by
      rw [Hub.heed, Hub.heed, proceed_withCalls, proceeds, hflight, hqueue, hholder]
      rfl
    exact move_of_step (.proceed _ _ signs hproceed)
  | finish callback rest runs =>
    exact ⟨attended, [], move_of_step (.finish (h.heed attended) callback rest runs), rfl⟩

theorem run_heed {h h' : Hub κ} {moves : List (Move κ)} {signs : List (Sign κ)}
    (hr : h.run moves = some (h', signs)) (attended : Bool) :
    ∃ attended' signs', (h.heed attended).run moves = some (h'.heed attended', signs') ∧
      exceptResults signs' = exceptResults signs := by
  induction moves generalizing h signs attended with
  | nil =>
    cases hr
    exact ⟨attended, [], rfl, rfl⟩
  | cons m moves ih =>
    obtain ⟨h₁, first, more, hm, hrest, rfl⟩ := run_cons_iff.mp hr
    obtain ⟨attended₁, first', hfirst, hsame⟩ := (step_of_move hm).heed attended
    obtain ⟨attended', more', hmore, hsame'⟩ := ih hrest attended₁
    refine ⟨attended', first' ++ more',
      run_cons_iff.mpr ⟨_, first', more', hfirst, hmore, rfl⟩, ?_⟩
    rw [exceptResults_append, exceptResults_append, hsame, hsame']

/-- A run in which a caller goes away while its call holds the lock is open with
the caller staying, and leads to the same hub with the same signs, apart from
whether callers wait and learn. -/
theorem run_of_deserted {g h : Hub κ} {call : Call} {attended : Bool} {stage : Stage}
    {after : List (Move κ)} {signs : List (Sign κ)}
    (holds : g.holder = some ⟨call, attended, stage⟩)
    (waitsNot : call.number ∉ g.queue.map Call.number)
    (hrest : g.run (.leave call.number :: after) = some (h, signs)) :
    ∃ attended' signs', g.run after = some (h.heed attended', signs') ∧
      exceptResults signs' = exceptResults signs := by
  obtain ⟨g', left, last, hleave, hafter, rfl⟩ := run_cons_iff.mp hrest
  rw [move_of_step (.desert g call attended stage holds waitsNot)] at hleave
  cases hleave
  obtain ⟨attended', signs', hrun, hsame⟩ := run_heed hafter attended
  have hback : ({ g with holder := some ⟨call, false, stage⟩ } : Hub κ).heed attended = g := by
    show g.withCalls g.inFlight g.queue (some ⟨call, attended, stage⟩) = g
    rw [← holds]
    exact withCalls_self g
  rw [hback] at hrun
  exact ⟨attended', signs', hrun, hsame⟩

end PortletPage.Hub
