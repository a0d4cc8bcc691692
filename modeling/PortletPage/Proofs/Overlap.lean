import Mathlib.Data.Set.Basic
import PortletPage.Proofs.Decisions

/-!
# Overlapping changes of different names

Two portlets each copy their state, change names that the other one leaves
alone, and submit their copies.  A submission is a whole state, and it is
compared with the state that the portlet has when its call takes the lock.  So
the portlet that is served second also submits what it has copied of the names
that the first one changed.

* `Store.binding_serve`: what one granted call does to each binding.
* `Store.binding_serve_serve`: what two of them do.
* `Hub.fate_of_overlapping_changes`: the second portlet's changes are there in
  the end, and the first one's exactly as far as the second portlet had copied
  them.
* `Hub.first_change_lost`: a change that is lost.
-/

namespace PortletPage

namespace Store

/-- The binding of a name in the state of a portlet. -/
def binding (s : Store) (id name : String) : Option Values :=
  ((s.state? id).getD .empty).parameters.get? name

theorem binding_of_picture_eq {s s' : Store} (h : s.picture = s'.picture)
    (id name : String) : s.binding id name = s'.binding id name := by
  rw [binding, binding, state?_of_picture_eq h]

theorem binding_of_state? {s : Store} {id : String} {state : RenderState}
    (h : s.state? id = some state) (name : String) :
    s.binding id name = state.parameters.get? name := by
  rw [binding, h, Option.getD_some]

/-- A portlet of the store is found with its record. -/
theorem exists_record {s : Store} {p : Portlet} (hids : s.ids.Nodup) (hp : p ∈ s.portlets) :
    ∃ r ∈ s.records, r.portlet = p ∧ s.get? p.id = some r := by
  obtain ⟨r, hr, rfl⟩ := List.mem_map.mp hp
  exact ⟨r, hr, rfl, (get?_eq_some_iff hids _ _).mpr ⟨hr, rfl⟩⟩

/-! ## One call -/

section OneCall

variable {s : Store} {x p : Portlet} {call : Call} {submitted : RenderState}

/-- A granted call gives the submitter the submitted bindings, and every other
portlet those of the names that both declare public and that the submitter had
bound otherwise. -/
theorem binding_serve (hids : s.ids.Nodup) (hx : x ∈ s.portlets) (hp : p ∈ s.portlets)
    (hcall : call.portlet = x.id) (hwish : call.wish = .state submitted) (name : String) :
    (s.serve call).binding p.id name =
      if p.id = x.id then submitted.parameters.get? name
      else if (x.isPublic name = true ∧
            s.binding x.id name ≠ submitted.parameters.get? name) ∧ p.isPublic name = true then
        submitted.parameters.get? name
      else s.binding p.id name := by
  obtain ⟨own, hown, rfl, hgetx⟩ := exists_record hids hx
  obtain ⟨r, hr, rfl, hgetp⟩ := exists_record hids hp
  have hbinding : s.binding own.portlet.id name = own.state.parameters.get? name :=
    binding_of_state? (by rw [state?, hgetx, Option.map_some]) name
  have hbinding' : s.binding r.portlet.id name = r.state.parameters.get? name :=
    binding_of_state? (by rw [state?, hgetp, Option.map_some]) name
  rw [hbinding, hbinding']
  rw [← hcall] at hgetx
  cases hdiffers : own.state.agrees submitted with
  | true =>
    -- nothing is submitted, and nothing would change
    have hsame : own.state.parameters.get? name = submitted.parameters.get? name :=
      ((RenderState.agrees_iff _ _).mp hdiffers).2.2 name
    have hempty : (Delta.between own.state submitted own.isPublic).isEmpty = true :=
      (Delta.isEmpty_between_iff _ _ _).mpr hdiffers
    have hserve : s.serve call = s := by
      simp [serve, Hub.prepare, hgetx, hwish, hempty]
    rw [hserve, hbinding']
    by_cases hid : r.portlet.id = own.portlet.id
    · have heq : r = own := List.inj_on_of_nodup_map hids hr hown hid
      rw [if_pos hid, heq, hsame]
    · rw [if_neg hid, if_neg fun h => h.1.2 hsame]
  | false =>
    have hserve : s.serve call =
        (s.commit call.portlet ⟨submitted, own.publicChanges submitted⟩ .submitted).2 := by
      rw [serve, Hub.prepare_state hgetx hwish hdiffers]
      rfl
    rw [hserve]
    by_cases hid : r.portlet.id = own.portlet.id
    · rw [if_pos hid, hid, ← hcall, binding_of_state? (state?_commit_submitter hgetx _ _)]
    · have hne : r.portlet.id ≠ call.portlet := by
        rw [hcall]
        exact hid
      rw [if_neg hid, binding_of_state? (state?_commit_other hids hr hne _ _)]
      exact own.get?_receive_publicChanges submitted r name

end OneCall

/-! ## Two calls -/

section TwoCalls

variable {s : Store} {x y p : Portlet} {c₁ c₂ : Call} {s₁ s₂ : RenderState}

theorem ids_serve (s : Store) (call : Call) : (s.serve call).ids = s.ids := by
  rw [ids_eq, ids_eq, portlets_serve]

/-- A name that the first portlet changes has the submitted binding wherever it
is public when the call has been served. -/
theorem binding_serve_of_changed (hids : s.ids.Nodup) (hx : x ∈ s.portlets)
    (hp : p ∈ s.portlets) (hcall : c₁.portlet = x.id) (hwish : c₁.wish = .state s₁)
    {name : String} (hpublic : x.isPublic name = true) (hpublic' : p.isPublic name = true)
    (hchanged : s₁.parameters.get? name ≠ s.binding x.id name) :
    (s.serve c₁).binding p.id name = s₁.parameters.get? name := by
  rw [binding_serve hids hx hp hcall hwish]
  by_cases hid : p.id = x.id
  · rw [if_pos hid]
  · rw [if_neg hid, if_pos ⟨⟨hpublic, hchanged.symm⟩, hpublic'⟩]

/-- Other portlets keep what the submitter leaves alone. -/
theorem binding_serve_of_kept (hids : s.ids.Nodup) (hx : x ∈ s.portlets)
    (hp : p ∈ s.portlets) (hcall : c₁.portlet = x.id) (hwish : c₁.wish = .state s₁)
    (hid : p.id ≠ x.id) {name : String}
    (hkept : s₁.parameters.get? name = s.binding x.id name) :
    (s.serve c₁).binding p.id name = s.binding p.id name := by
  rw [binding_serve hids hx hp hcall hwish, if_neg hid, if_neg fun h => h.1.2 hkept.symm]

/-- After both calls, a name that one of the portlets changed has the binding
that the second one submitted, wherever it is public. -/
theorem binding_serve_serve (hids : s.ids.Nodup) (hx : x ∈ s.portlets) (hy : y ∈ s.portlets)
    (hxy : y.id ≠ x.id) (hp : p ∈ s.portlets)
    (hcall₁ : c₁.portlet = x.id) (hwish₁ : c₁.wish = .state s₁)
    (hcall₂ : c₂.portlet = y.id) (hwish₂ : c₂.wish = .state s₂)
    {name : String} (hpublicx : x.isPublic name = true) (hpublicy : y.isPublic name = true)
    (hpublic : p.isPublic name = true)
    (hchanged : s₁.parameters.get? name ≠ s.binding x.id name ∨
      s₁.parameters.get? name = s.binding x.id name ∧
        s₂.parameters.get? name ≠ s.binding y.id name) :
    ((s.serve c₁).serve c₂).binding p.id name = s₂.parameters.get? name := by
  have hids₁ : (s.serve c₁).ids.Nodup := by
    rw [ids_serve]
    exact hids
  have hportlets : (s.serve c₁).portlets = s.portlets := portlets_serve s c₁
  have hy₁ : y ∈ (s.serve c₁).portlets := hportlets ▸ hy
  have hp₁ : p ∈ (s.serve c₁).portlets := hportlets ▸ hp
  by_cases hdiffers : s₂.parameters.get? name ≠ (s.serve c₁).binding y.id name
  · exact binding_serve_of_changed hids₁ hy₁ hp₁ hcall₂ hwish₂ hpublicy hpublic hdiffers
  · have hsame : s₂.parameters.get? name = (s.serve c₁).binding y.id name :=
      not_not.mp hdiffers
    -- the second call submits the binding that the first one has led to
    rcases hchanged with hfirst | ⟨hkept, hsecond⟩
    · have hyname := binding_serve_of_changed hids hx hy hcall₁ hwish₁ hpublicx hpublicy hfirst
      have hpname := binding_serve_of_changed hids hx hp hcall₁ hwish₁ hpublicx hpublic hfirst
      by_cases hid : p.id = y.id
      · rw [binding_serve hids₁ hy₁ hp₁ hcall₂ hwish₂, if_pos hid]
      · rw [binding_serve_of_kept hids₁ hy₁ hp₁ hcall₂ hwish₂ hid hsame, hpname, hsame, hyname]
    · have hyname := binding_serve_of_kept hids hx hy hcall₁ hwish₁ hxy hkept
      rw [hyname] at hsame
      exact absurd hsame hsecond

end TwoCalls

end Store

namespace Hub

variable {κ : Type}

/-- A portlet copies its state, changes some of the names and submits the copy:
the state is copied after the moves `before`, and the call comes later. -/
structure Cycle (h : Hub κ) (moves : List (Move κ)) (p : Portlet) (names : Set String)
    (call : Call) (before : List (Move κ)) (copy submitted : RenderState) : Prop where
  copied : ∃ g signs after, h.run before = some (g, signs) ∧ moves = before ++ after ∧
    copy = g.renderState p.id ∧ call ∈ Move.entered after
  portlet : call.portlet = p.id
  wish : call.wish = .state submitted
  mode : submitted.mode = copy.mode
  window : submitted.window = copy.window
  kept : ∀ name, name ∉ names →
    submitted.parameters.get? name = copy.parameters.get? name

section Cycle

variable {h : Hub κ} {moves before : List (Move κ)} {p : Portlet} {names : Set String}
  {call : Call} {copy submitted : RenderState}

theorem Cycle.mem_names (hc : Cycle h moves p names call before copy submitted)
    {name : String}
    (hchanged : submitted.parameters.get? name ≠ copy.parameters.get? name) :
    name ∈ names := by
  by_contra hname
  exact hchanged (hc.kept name hname)

/-- The copy shows what has been decided before it was made. -/
theorem Cycle.copy_eq (hc : Cycle h moves p names call before copy submitted)
    (simulated : h.Along SimulatedAt moves) (hsound : h.Sound) :
    copy = (((h.decided before).foldl Store.settle h.store).state? p.id).getD .empty := by
  obtain ⟨g, signs, after, hbefore, rfl, hcopy, _⟩ := hc.copied
  have hpicture := picture_run hbefore simulated.append_left hsound
  rw [hcopy, renderState, Store.state?_of_picture_eq hpicture]

/-- A portlet that binds one name in a copy of its state. -/
theorem Cycle.of_bind {g : Hub κ} {signs : List (Sign κ)} {after : List (Move κ)}
    (hbefore : h.run before = some (g, signs)) {number : Nat} {name : String}
    {values : Values}
    (hcall : ⟨number, p.id, .state ((g.renderState p.id).bind name values)⟩ ∈
      Move.entered after) :
    Cycle h (before ++ after) p {name}
      ⟨number, p.id, .state ((g.renderState p.id).bind name values)⟩ before
      (g.renderState p.id) ((g.renderState p.id).bind name values) where
  copied := ⟨g, signs, after, hbefore, rfl, rfl, hcall⟩
  portlet := rfl
  wish := rfl
  mode := rfl
  window := rfl
  kept := by
    intro other hother
    have hget : ((g.renderState p.id).bind name values).parameters.get? other =
        if other = name then some values else (g.renderState p.id).parameters.get? other :=
      Parameters.get?_insert _ name other values
    have hne : other ≠ name := hother
    rw [hget, if_neg hne]

end Cycle

/-- The call ends well and its caller learns that. -/
def Succeeds (signs : List (Sign κ)) (call : Call) : Prop :=
  ∃ outcome, (call.number, .ok outcome) ∈ Sign.results signs

section TwoCalls

variable {h₀ h : Hub κ} {moves : List (Move κ)} {signs : List (Sign κ)} {c₁ c₂ : Call}

/-- When two calls are all that come and both succeed, they are decided in the
order in which they come, and nothing else is. -/
theorem decided_of_succeeds (rest : h₀.AtRest) (runs : h₀.run moves = some (h, signs))
    (numbers : c₁.number ≠ c₂.number) (only : Move.entered moves = [c₁, c₂])
    (succeeds₁ : Succeeds signs c₁) (succeeds₂ : Succeeds signs c₂) :
    ∃ o₁ o₂, h₀.decided moves = [(c₁, .ok o₁), (c₂, .ok o₂)] := by
  obtain ⟨o₁, hfirst⟩ := succeeds₁
  obtain ⟨o₂, hsecond⟩ := succeeds₂
  have distinct : ((Move.entered moves).map Call.number).Nodup := by
    rw [only]
    simp [numbers]
  have hmem₁ := rest.mem_decided runs distinct (by simp [only]) hfirst
  have hmem₂ := rest.mem_decided runs distinct (by simp [only]) hsecond
  have hne : c₁ ≠ c₂ := fun heq => numbers (congrArg Call.number heq)
  have hsub : ((h₀.decided moves).map Prod.fst).Sublist [c₁, c₂] :=
    only ▸ rest.decided_sublist runs
  -- both calls are there, so there is nothing left out
  have hboth : [c₁, c₂] ⊆ (h₀.decided moves).map Prod.fst := by
    intro c hc
    rcases List.mem_cons.mp hc with rfl | hc
    · exact List.mem_map.mpr ⟨_, hmem₁, rfl⟩
    · rw [List.mem_singleton.mp hc]
      exact List.mem_map.mpr ⟨_, hmem₂, rfl⟩
  have hnodup : [c₁, c₂].Nodup := by simp [hne]
  have heq := hsub.eq_of_length_le (hnodup.subperm hboth).length_le
  obtain ⟨d₁, others, hdecided, hd₁, hrest⟩ := List.map_eq_cons_iff.mp heq
  obtain ⟨d₂, none', hothers, hd₂, hnil⟩ := List.map_eq_cons_iff.mp hrest
  rw [hothers, List.map_eq_nil_iff.mp hnil] at hdecided
  rw [hdecided] at hmem₁ hmem₂ ⊢
  refine ⟨o₁, o₂, ?_⟩
  have heq₁ : d₁ = (c₁, .ok o₁) := by
    rcases List.mem_cons.mp hmem₁ with heq | hmem
    · exact heq.symm
    · rw [← List.mem_singleton.mp hmem] at hd₂
      exact absurd hd₂ hne
  have heq₂ : d₂ = (c₂, .ok o₂) := by
    rcases List.mem_cons.mp hmem₂ with heq | hmem
    · rw [← heq] at hd₁
      exact absurd hd₁.symm hne
    · exact (List.mem_singleton.mp hmem).symm
  rw [heq₁, heq₂]

/-- Before the first of two calls comes none is decided, and before the second
one comes at most the first. -/
theorem length_decided_before (rest : h₀.AtRest) {before after : List (Move κ)} {g : Hub κ}
    {seen : List (Sign κ)} (runs : h₀.run before = some (g, seen)) (hne : c₁ ≠ c₂)
    (only : Move.entered (before ++ after) = [c₁, c₂]) :
    (c₁ ∈ Move.entered after → h₀.decided before = []) ∧
      (c₂ ∈ Move.entered after → (h₀.decided before).length ≤ 1) := by
  have hsub := (rest.decided_sublist runs).length_le
  rw [List.length_map] at hsub
  rw [Move.entered_append] at only
  match hbefore : Move.entered before, only with
  | [], only =>
    rw [hbefore, List.length_nil, Nat.le_zero, List.length_eq_zero_iff] at hsub
    rw [hsub]
    exact ⟨fun _ => rfl, fun _ => Nat.zero_le 1⟩
  | [c], only =>
    rw [hbefore] at hsub
    obtain ⟨rfl, hafter⟩ := List.cons_eq_cons.mp only
    refine ⟨?_, fun _ => hsub⟩
    intro hmem
    have hlast : Move.entered after = [c₂] := hafter
    rw [hlast, List.mem_singleton] at hmem
    exact absurd hmem hne
  | c :: c' :: rest', only =>
    have hnone : Move.entered after = [] := by
      have hlength := congrArg List.length only
      rw [List.length_append, List.length_cons, List.length_cons] at hlength
      apply List.eq_nil_of_length_eq_zero
      simp only [List.length_cons, List.length_nil] at hlength
      omega
    rw [hnone]
    exact ⟨fun hmem => absurd hmem List.not_mem_nil, fun hmem => absurd hmem List.not_mem_nil⟩

/-- What is decided when the second portlet makes its copy. -/
theorem decided_before_second (rest : h₀.AtRest) (hne : c₁ ≠ c₂)
    (only : Move.entered moves = [c₁, c₂]) {d₁ d₂ : Call × CallResult}
    (hdecided : h₀.decided moves = [d₁, d₂]) {before : List (Move κ)} {copy : RenderState}
    {id : String} (copied : ∃ g signs after, h₀.run before = some (g, signs) ∧
      moves = before ++ after ∧ copy = g.renderState id ∧ c₂ ∈ Move.entered after) :
    h₀.decided before = [] ∨ h₀.decided before = [d₁] := by
  obtain ⟨g, seen, after, hbefore, rfl, _, hcall⟩ := copied
  have hlength := (length_decided_before rest hbefore hne only).2 hcall
  rw [decided_append hbefore] at hdecided
  match hd : h₀.decided before, hdecided with
  | [], _ => exact Or.inl rfl
  | [d], hdecided =>
    obtain ⟨rfl, _⟩ := List.cons_eq_cons.mp hdecided
    exact Or.inr rfl
  | _ :: _ :: _, _ =>
    rw [hd] at hlength
    simp only [List.length_cons] at hlength
    omega

/-- Two portlets change different names that both declare public, each in a copy
of its state, and submit their copies over a simulated server.  If no other call
comes and both calls succeed, then in the end, wherever a name is public:

* it has the binding that the second call submitted, if the second portlet
  changed it;
* it has the binding that the second portlet had copied, if the first one
  changed it.  That is the binding which the first call submitted if the copy
  was made after the first call had been decided, and that of the state before
  both calls if it was made earlier.

The second call is the one that came later. -/
theorem fate_of_overlapping_changes (reach : h₀.Reachable) (rest : h₀.AtRest)
    {x y : Portlet} (hx : x ∈ h₀.store.portlets) (hy : y ∈ h₀.store.portlets) (hxy : x ≠ y)
    {names₁ names₂ : Set String}
    (declared₁ : ∀ name ∈ names₁, x.isPublic name = true ∧ y.isPublic name = true)
    (declared₂ : ∀ name ∈ names₂, x.isPublic name = true ∧ y.isPublic name = true)
    (disjoint : ∀ name ∈ names₁, name ∉ names₂) (numbers : c₁.number ≠ c₂.number)
    (runs : h₀.run moves = some (h, signs)) (simulated : h₀.Along SimulatedAt moves)
    (only : Move.entered moves = [c₁, c₂])
    {before₁ before₂ : List (Move κ)} {copy₁ copy₂ s₁ s₂ : RenderState}
    (cycle₁ : Cycle h₀ moves x names₁ c₁ before₁ copy₁ s₁)
    (cycle₂ : Cycle h₀ moves y names₂ c₂ before₂ copy₂ s₂)
    (succeeds₁ : Succeeds signs c₁) (succeeds₂ : Succeeds signs c₂) :
    (∀ p ∈ h.store.portlets, ∀ name, p.isPublic name = true →
        (s₂.parameters.get? name ≠ copy₂.parameters.get? name →
          (h.renderState p.id).parameters.get? name = s₂.parameters.get? name) ∧
        (s₁.parameters.get? name ≠ copy₁.parameters.get? name →
          (h.renderState p.id).parameters.get? name = copy₂.parameters.get? name)) ∧
      (c₁ ∈ (h₀.decided before₂).map Prod.fst →
        ∀ name, s₁.parameters.get? name ≠ copy₁.parameters.get? name →
          copy₂.parameters.get? name = s₁.parameters.get? name) ∧
      (c₁ ∉ (h₀.decided before₂).map Prod.fst → copy₂ = h₀.renderState y.id) := by
  have hsound := reach.sound
  have hids := hsound.ids
  have hne : c₁ ≠ c₂ := fun heq => numbers (congrArg Call.number heq)
  have hid : y.id ≠ x.id := by
    intro heq
    rw [Store.ids_eq] at hids
    exact hxy (List.inj_on_of_nodup_map hids hx hy heq.symm)
  obtain ⟨o₁, o₂, hdecided⟩ :=
    decided_of_succeeds rest runs numbers only succeeds₁ succeeds₂
  -- the two calls have been served, one after the other
  have hpicture : h.store.picture = ((h₀.store.serve c₁).serve c₂).picture := by
    rw [picture_run runs simulated hsound, hdecided]
    rfl
  have hfinal : ∀ p name, (h.renderState p).parameters.get? name =
      ((h₀.store.serve c₁).serve c₂).binding p name :=
    fun p name => Store.binding_of_picture_eq hpicture p name
  have hportlets : h.store.portlets = h₀.store.portlets := by
    rw [Store.portlets_eq, hpicture, ← Store.portlets_eq, Store.portlets_serve,
      Store.portlets_serve]
  -- the first portlet has copied the state before both calls
  have hcopy₁ : copy₁ = h₀.renderState x.id := by
    rw [cycle₁.copy_eq simulated hsound]
    obtain ⟨g, seen, after, hbefore, rfl, _, hcall⟩ := cycle₁.copied
    rw [(length_decided_before rest hbefore hne only).1 hcall]
    rfl
  -- the second one that state too, or the state after the first call
  have hcopy₂ : h₀.decided before₂ = [] ∧ copy₂ = h₀.renderState y.id ∨
      h₀.decided before₂ = [(c₁, .ok o₁)] ∧ ∀ name, copy₂.parameters.get? name =
        (h₀.store.serve c₁).binding y.id name := by
    have hcopy := cycle₂.copy_eq simulated hsound
    rcases decided_before_second rest hne only hdecided cycle₂.copied with hd | hd
    · rw [hd] at hcopy
      exact Or.inl ⟨hd, hcopy⟩
    · rw [hd] at hcopy
      refine Or.inr ⟨hd, ?_⟩
      intro name
      rw [hcopy]
      rfl
  have hinitial : ∀ name, copy₁.parameters.get? name = h₀.store.binding x.id name := by
    intro name
    rw [hcopy₁]
    rfl
  refine ⟨?_, ?_, ?_⟩
  · intro p hp name hpublic
    rw [hportlets] at hp
    rw [hfinal]
    constructor
    · intro hchanged
      have hname := cycle₂.mem_names hchanged
      have hname₁ : name ∉ names₁ := fun hmem => disjoint name hmem hname
      have hkept : s₁.parameters.get? name = h₀.store.binding x.id name :=
        (cycle₁.kept name hname₁).trans (hinitial name)
      -- the first call has not touched what the second portlet had copied
      have hcopied : copy₂.parameters.get? name = h₀.store.binding y.id name := by
        rcases hcopy₂ with ⟨_, hcopy⟩ | ⟨_, hcopy⟩
        · rw [hcopy]
          rfl
        · rw [hcopy name]
          exact Store.binding_serve_of_kept hids hx hy cycle₁.portlet cycle₁.wish hid hkept
      rw [hcopied] at hchanged
      exact Store.binding_serve_serve hids hx hy hid hp cycle₁.portlet cycle₁.wish
        cycle₂.portlet cycle₂.wish (declared₂ name hname).1 (declared₂ name hname).2 hpublic
        (Or.inr ⟨hkept, hchanged⟩)
    · intro hchanged
      have hname := cycle₁.mem_names hchanged
      rw [hinitial] at hchanged
      rw [← cycle₂.kept name (disjoint name hname)]
      exact Store.binding_serve_serve hids hx hy hid hp cycle₁.portlet cycle₁.wish
        cycle₂.portlet cycle₂.wish (declared₁ name hname).1 (declared₁ name hname).2 hpublic
        (Or.inl hchanged)
  · intro hafter name hchanged
    have hpublic := declared₁ name (cycle₁.mem_names hchanged)
    rw [hinitial] at hchanged
    rcases hcopy₂ with ⟨hnone, _⟩ | ⟨_, hcopy⟩
    · rw [hnone] at hafter
      cases hafter
    · rw [hcopy name]
      exact Store.binding_serve_of_changed hids hx hy cycle₁.portlet cycle₁.wish hpublic.1
        hpublic.2 hchanged
  · intro hbefore
    rcases hcopy₂ with ⟨_, hcopy⟩ | ⟨hone, _⟩
    · exact hcopy
    · rw [hone] at hbefore
      exact absurd (List.mem_singleton.mpr rfl) hbefore

end TwoCalls

/-- The map of the small page. -/
def mapPortlet : Portlet :=
  ⟨"map", [], ["city", "zoom"], ⟨"VIEW", "NORMAL", .ofEntries [("city", [some "Rome"])]⟩⟩

/-- The weather report of the small page. -/
def weatherPortlet : Portlet :=
  ⟨"weather", ["unit"], ["city", "zoom"], ⟨"VIEW", "NORMAL", .empty⟩⟩

theorem declared_zoom : ∀ name ∈ ({"zoom"} : Set String),
    mapPortlet.isPublic name = true ∧ weatherPortlet.isPublic name = true := by
  intro name heq
  subst heq
  decide

theorem declared_city : ∀ name ∈ ({"city"} : Set String),
    mapPortlet.isPublic name = true ∧ weatherPortlet.isPublic name = true := by
  intro name heq
  subst heq
  decide

theorem zoom_not_city : ∀ name ∈ ({"zoom"} : Set String), name ∉ ({"city"} : Set String) := by
  intro name heq hcity
  subst heq
  have heq : "zoom" = "city" := hcity
  exact absurd heq (by decide)

/-- The state of the map with a zoom bound in it. -/
def zoomed : RenderState := (Sample.hub.renderState mapPortlet.id).bind "zoom" [some "9"]

/-- The call of the map to submit that state. -/
def zoomCall : Call := ⟨0, mapPortlet.id, .state zoomed⟩

/-- The call of the weather report with a city bound in a copy of its state. -/
def cityCall (copy : RenderState) : Call :=
  ⟨1, weatherPortlet.id, .state (copy.bind "city" [some "Oslo"])⟩

/-- A call takes the lock, is granted and ends, and two portlets are told. -/
def turn (s : Submission) : List (Move Unit) :=
  [.acquire, .send, .receive (.granted (SimulatedServer.grant s)),
    .proceed, .proceed, .proceed, .proceed, .proceed, .release]

/-- What the map submits. -/
def zoomSubmission : Submission :=
  .state ⟨"map", ⟨none, none, [], [⟨"zoom", some [some "9"]⟩]⟩, zoomed⟩

/-- The zoom is bound before the weather report copies its state. -/
def untilCopy : List (Move Unit) := .enter zoomCall :: turn zoomSubmission

/-- The weather report's state with the zoom. -/
def freshCopy : RenderState := ⟨"VIEW", "NORMAL", .ofEntries [("zoom", [some "9"])]⟩

/-- What the weather report submits then. -/
def freshTurn : List (Move Unit) :=
  .enter (cityCall freshCopy) ::
    turn (.state ⟨"weather", ⟨none, none, [], [⟨"city", some [some "Oslo"]⟩]⟩,
      freshCopy.bind "city" [some "Oslo"]⟩)

theorem fresh_run : ∃ h signs, Sample.hub.run (untilCopy ++ freshTurn) = some (h, signs) ∧
    Sign.results signs = [(0, .ok ⟨zoomed, ["map", "weather"]⟩),
      (1, .ok ⟨freshCopy.bind "city" [some "Oslo"], ["weather", "map"]⟩)] :=
  ⟨_, _, rfl, rfl⟩

/-- Nothing is lost when the weather report makes its copy after the call of the
map has been decided. -/
theorem nothing_lost_with_fresh_copy :
    ∃ h signs, Sample.hub.run (untilCopy ++ freshTurn) = some (h, signs) ∧
      ∀ p ∈ h.store.portlets, p.isPublic "zoom" = true →
        (h.renderState p.id).parameters.get? "zoom" = zoomed.parameters.get? "zoom" := by
  have reach : Sample.hub.Reachable :=
    ⟨Sample.page, {}, Sample.hub, [], [], Sample.hub_of_page, rfl⟩
  obtain ⟨h, signs, hrun, hresults⟩ := fresh_run
  have hcopy : ∃ g seen, Sample.hub.run untilCopy = some (g, seen) ∧
      g.renderState weatherPortlet.id = freshCopy := ⟨_, _, rfl, rfl⟩
  obtain ⟨g, seen, hbefore, hfresh⟩ := hcopy
  have cycle₁ : Cycle Sample.hub ([] ++ (untilCopy ++ freshTurn)) mapPortlet {"zoom"} zoomCall
      [] (Sample.hub.renderState mapPortlet.id) zoomed := .of_bind rfl (by decide)
  have cycle₂ : Cycle Sample.hub (untilCopy ++ freshTurn) weatherPortlet {"city"}
      (cityCall freshCopy) untilCopy freshCopy (freshCopy.bind "city" [some "Oslo"]) := by
    rw [← hfresh]
    refine .of_bind hbefore ?_
    rw [hfresh]
    decide
  have hsucceeds₁ : Succeeds signs zoomCall := ⟨_, by rw [hresults]; exact List.mem_cons_self⟩
  have hsucceeds₂ : Succeeds signs (cityCall freshCopy) :=
    ⟨_, by rw [hresults]; exact List.mem_cons_of_mem _ List.mem_cons_self⟩
  obtain ⟨hfate, hafter, _⟩ := fate_of_overlapping_changes reach ⟨rfl, rfl⟩
    (x := mapPortlet) (y := weatherPortlet) (by decide) (by decide) (by decide)
    declared_zoom declared_city zoom_not_city (by decide) hrun (by decide) (by decide)
    cycle₁ cycle₂ hsucceeds₁ hsucceeds₂
  refine ⟨h, signs, hrun, ?_⟩
  intro p hp hpublic
  rw [(hfate p hp "zoom" hpublic).2 (by decide)]
  exact hafter (by decide) "zoom" (by decide)

/-- The weather report has copied its state before that. -/
def staleCopy : RenderState := Sample.hub.renderState weatherPortlet.id

/-- Both calls come before the first one is decided. -/
def staleRun : List (Move Unit) :=
  [.enter zoomCall, .enter (cityCall staleCopy)] ++ turn zoomSubmission ++
    turn (.state ⟨"weather", ⟨none, none, [],
      [⟨"city", some [some "Oslo"]⟩, ⟨"zoom", none⟩]⟩, staleCopy.bind "city" [some "Oslo"]⟩)

/-- The zoom is lost when the weather report has made its copy before: the map
binds the zoom and nothing else, the weather report the city and nothing else,
and both calls succeed, but no portlet has the zoom in the end. -/
theorem first_change_lost :
    ∃ h signs, Sample.hub.run staleRun = some (h, signs) ∧
      Sample.hub.Along SimulatedAt staleRun ∧
      Move.entered staleRun = [zoomCall, cityCall staleCopy] ∧
      (∀ name ∈ ({"zoom"} : Set String),
        mapPortlet.isPublic name = true ∧ weatherPortlet.isPublic name = true) ∧
      (∀ name ∈ ({"city"} : Set String),
        mapPortlet.isPublic name = true ∧ weatherPortlet.isPublic name = true) ∧
      Cycle Sample.hub staleRun mapPortlet {"zoom"} zoomCall []
        (Sample.hub.renderState mapPortlet.id) zoomed ∧
      Cycle Sample.hub staleRun weatherPortlet {"city"} (cityCall staleCopy) [] staleCopy
        (staleCopy.bind "city" [some "Oslo"]) ∧
      Succeeds signs zoomCall ∧ Succeeds signs (cityCall staleCopy) ∧
      zoomed.parameters.get? "zoom" = some [some "9"] ∧
      mapPortlet ∈ h.store.portlets ∧ weatherPortlet ∈ h.store.portlets ∧
      ∀ p ∈ h.store.portlets, (h.renderState p.id).parameters.get? "zoom" = none := by
  have hrun : ∃ h signs, Sample.hub.run staleRun = some (h, signs) ∧
      Sign.results signs = [(0, .ok ⟨zoomed, ["map", "weather"]⟩),
        (1, .ok ⟨staleCopy.bind "city" [some "Oslo"], ["weather", "map"]⟩)] ∧
      mapPortlet ∈ h.store.portlets ∧ weatherPortlet ∈ h.store.portlets ∧
      ∀ p ∈ h.store.portlets, (h.renderState p.id).parameters.get? "zoom" = none :=
    ⟨_, _, rfl, rfl, by decide, by decide, by decide⟩
  obtain ⟨h, signs, hrun, hresults, hlost⟩ := hrun
  have cycle₁ : Cycle Sample.hub ([] ++ staleRun) mapPortlet {"zoom"} zoomCall []
      (Sample.hub.renderState mapPortlet.id) zoomed := .of_bind rfl (by decide)
  have cycle₂ : Cycle Sample.hub ([] ++ staleRun) weatherPortlet {"city"}
      (cityCall staleCopy) [] staleCopy (staleCopy.bind "city" [some "Oslo"]) :=
    .of_bind rfl (by decide)
  refine ⟨h, signs, hrun, by decide, by decide, declared_zoom, declared_city, cycle₁, cycle₂,
    ?_, ?_, by decide, hlost⟩
  · exact ⟨_, by rw [hresults]; exact List.mem_cons_self⟩
  · exact ⟨_, by rw [hresults]; exact List.mem_cons_of_mem _ List.mem_cons_self⟩

end Hub

end PortletPage
