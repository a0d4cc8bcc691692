import PortletPage.Proofs.Delta

/-!
# Deltas are exact

A delta says what leads from one render state to another, no more and no less.

* `Change.applied_of_split` and `Change.get?_applyAll_of_mem`: changes that mention no
  name twice do not get in each other's way.  Each of them finds the binding of before,
  in whatever order they are applied.
* `Delta.replay` applies a delta to a state, its changes in a given order.
* `Delta.between_is_exact`: the delta from one state to another leads from the one to
  the other in every order of its changes, each of which changes something.
-/

namespace PortletPage

namespace Change

/-- To apply changes one after the other and to list what they changed leads to the
same container. -/
theorem applyAllNaming_snd (changes : List Change) (p : Parameters) :
    (applyAllNaming changes p).2 = applyAll changes p := by
  induction changes generalizing p with
  | nil => rfl
  | cons c rest ih =>
    rw [applyAllNaming_cons_parameters, ih]
    rfl

theorem get?_applyAll (changes : List Change) (p : Parameters) (name : String) :
    (applyAll changes p).get? name = (last? changes name).getD (p.get? name) := by
  rw [← applyAllNaming_snd, get?_applyAllNaming]

/-- When no name is mentioned twice, each change finds the binding of before. -/
theorem applied_of_split {before after : List Change} {c : Change}
    (h : ((before ++ c :: after).map Change.name).Nodup) (p : Parameters) :
    (applyAll before p).get? c.name = p.get? c.name := by
  rw [List.map_append, List.map_cons, List.nodup_append] at h
  have hnew : c.name ∉ before.map Change.name := fun hmem =>
    h.2.2 c.name hmem c.name List.mem_cons_self rfl
  rw [get?_applyAll, last?_eq_none hnew, Option.getD_none]

/-- Changes that mention no name twice bind each name as its change says. -/
theorem get?_applyAll_of_mem {changes : List Change} (h : (changes.map Change.name).Nodup)
    {c : Change} (hc : c ∈ changes) (p : Parameters) :
    (applyAll changes p).get? c.name = c.values := by
  rw [get?_applyAll, (last?_eq_some_iff h c.name c.values).mpr hc, Option.getD_some]

end Change

namespace Delta

/-- The state with the mode and the window state of the delta, where it has them, and
with the changes applied one after the other. -/
def replay (d : Delta) (changes : List Change) (s : RenderState) : RenderState where
  mode := d.mode.getD s.mode
  window := d.window.getD s.window
  parameters := Change.applyAll changes s.parameters

variable (previous submitted : RenderState) (isPublic : String → Bool)

/-- A word that is listed if it differs is the submitted one. -/
theorem getD_of_differs (a b : String) : (if a = b then none else some b).getD a = b := by
  split
  · assumption
  · rfl

/-- The changes of the delta give the names with different bindings the submitted ones. -/
theorem mem_changes (c : Change) :
    c ∈ (between previous submitted isPublic).changes ↔
      previous.parameters.get? c.name ≠ submitted.parameters.get? c.name ∧
        c.values = submitted.parameters.get? c.name := by
  rw [changes, List.mem_append, mem_privateChanges, mem_publicChanges]
  cases isPublic c.name <;> simp

theorem nodup_names_changes :
    ((between previous submitted isPublic).changes.map Change.name).Nodup := by
  rw [(names_changes_perm previous submitted isPublic).nodup_iff]
  exact Parameters.nodup_changedNames _ _

variable {changes : List Change}

/-- In whatever order the changes are applied, they lead to the submitted bindings. -/
theorem get?_applyAll_of_perm
    (order : changes.Perm (between previous submitted isPublic).changes) (name : String) :
    (Change.applyAll changes previous.parameters).get? name =
      submitted.parameters.get? name := by
  by_cases hsame : previous.parameters.get? name = submitted.parameters.get? name
  · -- no change mentions a name that is bound alike
    have hnew : name ∉ changes.map Change.name := by
      intro hmem
      obtain ⟨c, hc, rfl⟩ := List.mem_map.mp hmem
      exact ((mem_changes previous submitted isPublic c).mp (order.subset hc)).1 hsame
    rw [Change.get?_applyAll, Change.last?_eq_none hnew, Option.getD_none, hsame]
  · have hmem : changeTo submitted.parameters name ∈ changes :=
      order.mem_iff.mpr ((mem_changes previous submitted isPublic _).mpr ⟨hsame, rfl⟩)
    have hnodup : (changes.map Change.name).Nodup :=
      (order.map Change.name).nodup_iff.mpr (nodup_names_changes previous submitted isPublic)
    exact Change.get?_applyAll_of_mem hnodup hmem previous.parameters

/-- In whatever order they are applied, each of them changes something. -/
theorem apply_of_perm (order : changes.Perm (between previous submitted isPublic).changes)
    {before after : List Change} {c : Change} (split : changes = before ++ c :: after) :
    (c.apply (Change.applyAll before previous.parameters)).1 = true := by
  subst split
  have hnodup : ((before ++ c :: after).map Change.name).Nodup :=
    (order.map Change.name).nodup_iff.mpr (nodup_names_changes previous submitted isPublic)
  obtain ⟨hdiffers, hvalues⟩ := (mem_changes previous submitted isPublic c).mp
    (order.subset (List.mem_append_right before List.mem_cons_self))
  rw [Change.apply_fst, Change.applied_of_split hnodup, hvalues]
  exact hdiffers

/-- For all states and every division of names into public and private ones, the delta
from `previous` to `submitted` has these properties:

* in whatever order its changes are applied to `previous`, with mode and window state as
  the delta has them, the result agrees with `submitted`, and every change changes
  something when its turn comes;
* it mentions a name once if the binding of the name differs, and not at all otherwise;
* it mentions a name as public if the name is public, and as private if it is not;
* it is empty exactly when the two states agree. -/
theorem between_is_exact :
    (∀ changes, changes.Perm (between previous submitted isPublic).changes →
      ((between previous submitted isPublic).replay changes previous).agrees submitted = true ∧
        ∀ before c after, changes = before ++ c :: after →
          (c.apply (Change.applyAll before previous.parameters)).1 = true) ∧
      (∀ name, ((between previous submitted isPublic).changes.map Change.name).count name =
        if previous.parameters.get? name = submitted.parameters.get? name then 0 else 1) ∧
      (∀ name, name ∈ (between previous submitted isPublic).publicChanges.map Change.name ↔
        isPublic name = true ∧
          previous.parameters.get? name ≠ submitted.parameters.get? name) ∧
      (∀ name, name ∈ (between previous submitted isPublic).privateChanges.map Change.name ↔
        isPublic name = false ∧
          previous.parameters.get? name ≠ submitted.parameters.get? name) ∧
      ((between previous submitted isPublic).isEmpty = true ↔
        previous.agrees submitted = true) := by
  have hnodup := Parameters.nodup_changedNames submitted.parameters previous.parameters
  refine ⟨?_, ?_, ?_, ?_, isEmpty_between_iff previous submitted isPublic⟩
  · intro changes order
    refine ⟨?_, fun before c after => apply_of_perm previous submitted isPublic order⟩
    exact (RenderState.agrees_iff _ _).mpr ⟨getD_of_differs _ _, getD_of_differs _ _,
      get?_applyAll_of_perm previous submitted isPublic order⟩
  · intro name
    rw [(names_changes_perm previous submitted isPublic).count_eq, hnodup.count]
    simp only [Parameters.mem_changedNames, ne_eq, ite_not, eq_comm]
  · intro name
    rw [publicChanges_between, map_name_changeTo, List.mem_filter, Parameters.mem_changedNames,
      and_comm, ne_comm]
  · intro name
    rw [privateChanges_between, map_name_changeTo, List.mem_filter, Parameters.mem_changedNames,
      and_comm, ne_comm, Bool.not_eq_true']

/-- A map whose city is shared loses its zoom, gets a second city and another unit. -/
def mapBefore : RenderState :=
  ⟨"VIEW", "NORMAL", .ofEntries [("city", [some "Rome"]), ("zoom", [none]), ("unit", [])]⟩

def mapAfter : RenderState :=
  ⟨"EDIT", "NORMAL",
    .ofEntries [("unit", [none]), ("language", [some "it"]), ("city", [some "Rome", none])]⟩

/-- The delta from the one to the other has four changes, and leads from the one to the
other also when they are applied in the reverse order. -/
theorem map_is_replayed_in_reverse :
    let d := between mapBefore mapAfter (· == "city")
    d.changes.length = 4 ∧
      (d.replay d.changes.reverse mapBefore).agrees mapAfter = true ∧
      d.replay d.changes.reverse mapBefore ≠ mapAfter := by
  obtain ⟨hreplay, _⟩ := between_is_exact mapBefore mapAfter (· == "city")
  exact ⟨by decide, (hreplay _ (List.reverse_perm _)).1, by decide⟩

end Delta

end PortletPage
