import PortletPage.Proofs.Effect

/-!
# Differences of containers

Two operations compare containers: one lists the names whose bindings differ, the other
says whether there are none.

* `Parameters.changedNames_eq` and `changedNames_perm`: which names are listed, in which
  order, and that the two directions list the same names.
* `Parameters.agrees_iff_perm` and `equivalence_agrees`: containers agree exactly if they
  have the same entries in whatever order, which is an equivalence.

A hub uses the list in both directions.  The delta that it sends is made from the
submitted state to the one before, and the news that it spreads from the one before to
the granted state.  `Hub.differences_are_told` says that they mention the same names all
the same.
-/

namespace PortletPage

namespace Parameters

/-! ## Changed names -/

/-- First come the names of the first container that are bound otherwise in the second,
then those that the second has alone; each in the order of its container. -/
theorem changedNames_eq (a b : Parameters) :
    a.changedNames b = (a.names.filter fun name => a.get? name ≠ b.get? name) ++
      b.names.filter fun name => name ∉ a.names := by
  have hfirst : (a.entries.filter fun entry => b.get? entry.1 != some entry.2).map Prod.fst =
      a.names.filter fun name => a.get? name ≠ b.get? name := by
    rw [names, List.filter_map]
    congr 1
    apply List.filter_congr
    intro entry hentry
    have hget : a.get? entry.1 = some entry.2 := (mem_entries_iff a _ _).mp hentry
    rw [Bool.eq_iff_iff, Function.comp_apply, hget, bne_iff_ne, decide_eq_true_eq, ne_comm]
  have hsecond : (b.names.filter fun name => !a.contains name) =
      b.names.filter fun name => name ∉ a.names := by
    apply List.filter_congr
    intro name _
    rw [Bool.eq_iff_iff]
    simp [contains_eq_false_iff, mem_names_iff]
  rw [changedNames, hfirst, hsecond]

/-- In the other direction the same names are listed. -/
theorem changedNames_perm (a b : Parameters) : (a.changedNames b).Perm (b.changedNames a) := by
  rw [List.perm_ext_iff_of_nodup (nodup_changedNames a b) (nodup_changedNames b a)]
  intro name
  rw [mem_changedNames, mem_changedNames, ne_comm]

/-! ## Agreement -/

theorem nodup_entries (p : Parameters) : p.entries.Nodup := p.nodup.of_map Prod.fst

/-- Containers agree exactly if they have the same entries, in whatever order. -/
theorem agrees_iff_perm (a b : Parameters) :
    a.agrees b = true ↔ a.entries.Perm b.entries := by
  rw [agrees_iff, List.perm_ext_iff_of_nodup a.nodup_entries b.nodup_entries]
  constructor
  · intro hget entry
    obtain ⟨name, values⟩ := entry
    rw [mem_entries_iff, mem_entries_iff, hget]
  · intro hmem name
    apply Option.ext
    intro values
    rw [← mem_entries_iff, ← mem_entries_iff, hmem]

theorem equivalence_agrees : Equivalence fun a b : Parameters => a.agrees b = true where
  refl := by
    intro a
    exact (agrees_iff_perm a a).mpr (List.Perm.refl _)
  symm := by
    intro a b hab
    exact (agrees_iff_perm b a).mpr ((agrees_iff_perm a b).mp hab).symm
  trans := by
    intro a b c hab hbc
    exact (agrees_iff_perm a c).mpr
      (((agrees_iff_perm a b).mp hab).trans ((agrees_iff_perm b c).mp hbc))

end Parameters

namespace Hub

variable {κ : Type}

/-! ## What is sent and what is told -/

/-- A submitted state is sent with the delta from the state that its portlet has. -/
theorem delta_of_prepare {store : Store} {call : Call} {s : StateSubmission}
    (prepared : prepare store call = .ok (.state s)) :
    ∃ own, store.get? call.portlet = some own ∧ s.portlet = call.portlet ∧
      s.delta = Delta.between own.state s.state own.isPublic := by
  unfold prepare at prepared
  split at prepared
  · cases prepared
  · rename_i own hown
    split at prepared
    · dsimp only at prepared
      split at prepared
      · cases prepared
      · cases prepared
        exact ⟨own, hown, rfl, rfl⟩
    · cases prepared

/-- When a submitted state is granted, the names that its portlet is told are those of the
delta that was sent. -/
theorem told_of_sent {h : Hub κ} (hsound : h.Sound) {call : Call} {attended : Bool}
    {s : StateSubmission} (holds : h.holder = some ⟨call, attended, .sent (.state s)⟩)
    (quiet : h.delivery = []) :
    ∃ h' news others,
      h.move (.receive (.granted (SimulatedServer.grant (.state s)))) = some (h', []) ∧
        h'.delivery = [.turns (stampFrom h.made (news :: others))] ∧
        news.portlet = s.portlet ∧ (∀ other ∈ others, other.portlet ≠ s.portlet) ∧
        news.changed.Perm
          ((s.delta.privateChanges ++ s.delta.publicChanges).map Change.name) := by
  obtain ⟨own, hown, hportlet, hdelta⟩ := delta_of_prepare (hsound.prepared holds rfl)
  obtain ⟨_, hid⟩ := Store.mem_of_get? hown
  have hmove := move_of_step (.grant h call attended (.state s)
    (SimulatedServer.grant (.state s)) holds quiet)
  refine ⟨_, (own.replace s.state .submitted).1,
    h.store.newsOfOthers call.portlet s.delta.publicChanges, hmove, ?_, ?_, ?_, ?_⟩
  · show [Frame.turns (stampFrom h.made (h.store.commit call.portlet _ .submitted).1)] = _
    rw [Store.commit_fst hsound.ids hown]
    rfl
  · exact hid.trans hportlet.symm
  · intro other hother
    obtain ⟨r, _, hr, _, rfl⟩ := (Store.mem_newsOfOthers _ _).mp hother
    rw [hportlet]
    exact hr
  · -- the news is made in one direction and the delta in the other
    rw [hdelta]
    exact (Parameters.changedNames_perm own.state.parameters s.state.parameters).trans
      (Delta.names_changes_perm own.state s.state own.isPublic).symm

/-- Of any two containers:

* the changed names are those with different bindings, each once; first those of the
  first container in its order, then those that the second has alone in its order;
* the two directions list the same names, and none exactly if the containers are equal;
* they are equal exactly if all look-ups agree, which is to have the same entries in
  whatever order, and equality is an equivalence.

Hence, whenever a hub has sent a submitted state, the simulated server is at work and no
delivery is under way: the answer is applied, and the news of the submitter, which is the
first, lists the names of the private and public changes that were sent. -/
theorem differences_are_told :
    (∀ a b : Parameters,
        (a.changedNames b).Nodup ∧
          (∀ name, name ∈ a.changedNames b ↔ a.get? name ≠ b.get? name) ∧
          a.changedNames b = (a.names.filter fun name => a.get? name ≠ b.get? name) ++
            (b.names.filter fun name => name ∉ a.names) ∧
          (a.changedNames b).Perm (b.changedNames a) ∧
          (a.changedNames b = [] ↔ a.agrees b = true) ∧
          (a.agrees b = true ↔ ∀ name, a.get? name = b.get? name) ∧
          (a.agrees b = true ↔ a.entries.Perm b.entries)) ∧
      Equivalence (fun a b : Parameters => a.agrees b = true) ∧
      ∀ (h : Hub κ) (call : Call) (attended : Bool) (s : StateSubmission)
        (server : SimulatedServer), h.Reachable →
        h.holder = some ⟨call, attended, .sent (.state s)⟩ → h.delivery = [] →
        server.failing = false →
        ∃ h' news others,
          h.move (.receive (server.answer (.state s)).1) = some (h', []) ∧
            h'.delivery = [.turns (stampFrom h.made (news :: others))] ∧
            news.portlet = s.portlet ∧ (∀ other ∈ others, other.portlet ≠ s.portlet) ∧
            news.changed.Perm
              ((s.delta.privateChanges ++ s.delta.publicChanges).map Change.name) := by
  refine ⟨?_, Parameters.equivalence_agrees, ?_⟩
  · intro a b
    have hempty : a.changedNames b = [] ↔ a.agrees b = true := by
      rw [Parameters.changedNames_eq_nil_iff, Parameters.agrees_iff]
    exact ⟨Parameters.nodup_changedNames a b, Parameters.mem_changedNames a b,
      Parameters.changedNames_eq a b, Parameters.changedNames_perm a b, hempty,
      Parameters.agrees_iff a b, Parameters.agrees_iff_perm a b⟩
  · intro h call attended s server reach holds quiet works
    have hanswer : (server.answer (.state s)).1 =
        .granted (SimulatedServer.grant (.state s)) := by
      rw [SimulatedServer.answer, works]
      rfl
    rw [hanswer]
    exact told_of_sent reach.sound holds quiet

/-- The map drops its city, and has a zoom and a legend of its own instead. -/
def legendCall : Call :=
  ⟨0, "map", .state ⟨"VIEW", "NORMAL",
    .ofEntries [("zoom", [some "9"]), ("legend", [])]⟩⟩

/-- The delta has the legend apart from the zoom and the city, and mentions the city last.
The news of the map has the city first. -/
theorem legend_is_told :
    ∃ h s, Sample.hub.run [.enter legendCall, .acquire, .send] = some (h, [.sent (.state s)]) ∧
      s.delta.privateChanges.map Change.name = ["legend"] ∧
      s.delta.publicChanges.map Change.name = ["zoom", "city"] ∧
      ∃ h' news others, h.move (.receive (({} : SimulatedServer).answer (.state s)).1) =
          some (h', []) ∧
        h'.delivery = [.turns (stampFrom 0 (news :: others))] ∧ news.portlet = "map" ∧
        news.changed.Perm ["legend", "zoom", "city"] := by
  have hsent : ∃ h s, Sample.hub.run [.enter legendCall, .acquire, .send] =
        some (h, [.sent (.state s)]) ∧
      h.holder = some ⟨legendCall, true, .sent (.state s)⟩ ∧ h.delivery = [] ∧ h.made = 0 ∧
      s.portlet = "map" ∧ s.delta.privateChanges.map Change.name = ["legend"] ∧
      s.delta.publicChanges.map Change.name = ["zoom", "city"] :=
    ⟨_, _, rfl, rfl, rfl, rfl, rfl, rfl, rfl⟩
  obtain ⟨h, s, hrun, holds, quiet, hmade, hportlet, hprivate, hpublic⟩ := hsent
  have reach : h.Reachable := ⟨Sample.page, {}, Sample.hub, _, _, Sample.hub_of_page, hrun⟩
  obtain ⟨-, -, htold⟩ := differences_are_told (κ := Unit)
  obtain ⟨h', news, others, hmove, hdelivery, hnews, -, hchanged⟩ :=
    htold h legendCall true s {} reach holds quiet rfl
  rw [hmade] at hdelivery
  rw [List.map_append, hprivate, hpublic] at hchanged
  exact ⟨h, s, hrun, hprivate, hpublic, h', news, others, hmove, hdelivery,
    hnews.trans hportlet, hchanged⟩

end Hub

end PortletPage
