import Mathlib.Data.List.Perm.Subperm
import PortletPage.Parameters.Lemmas
import PortletPage.RenderState

/-!
# Containers as finite maps

A container is read through `get?`.  This module relates the two operations
that compare containers to that view.

* `mem_changedNames` and `nodup_changedNames`: the changed names are exactly
  the names with different bindings, and no name is listed twice.
* `agrees_iff`: two containers agree exactly when they bind every name alike.
  The definition compares sizes and one inclusion only, so the converse
  inclusion is a counting argument on names without repetition.
* `RenderState.agrees_iff` carries this to render states.
-/

namespace PortletPage

namespace Entries

/-- In entries with distinct names, an entry is there exactly when its name is
found with its values. -/
theorem mem_iff_get? {name : String} {values : Values} {entries : List Entry}
    (h : (entries.map Prod.fst).Nodup) :
    (name, values) ∈ entries ↔ get? name entries = some values := by
  induction entries with
  | nil => simp [get?]
  | cons entry rest ih =>
    obtain ⟨n, v⟩ := entry
    rw [List.map_cons, List.nodup_cons] at h
    by_cases hn : n = name
    · subst hn
      have hrest : (n, values) ∉ rest := fun hmem =>
        h.1 (List.mem_map.mpr ⟨_, hmem, rfl⟩)
      simp [get?, hrest, eq_comm]
    · have hne : ¬ name = n := fun e => hn e.symm
      simp [get?, hn, hne, ih h.2]

end Entries

namespace Parameters

/-- An entry is stored exactly when its name is bound to its values. -/
theorem mem_entries_iff (p : Parameters) (name : String) (values : Values) :
    (name, values) ∈ p.entries ↔ p.get? name = some values :=
  Entries.mem_iff_get? p.nodup

theorem contains_eq_false_iff (p : Parameters) (name : String) :
    p.contains name = false ↔ p.get? name = none := by
  simp [contains]

/-! ## Changed names -/

/-- The names of the first container whose entries the second one lacks. -/
theorem mem_changedNames_left (a b : Parameters) (name : String) :
    name ∈ (a.entries.filter fun entry => b.get? entry.1 != some entry.2).map Prod.fst ↔
      ∃ values, a.get? name = some values ∧ b.get? name ≠ some values := by
  simp only [List.mem_map, List.mem_filter, bne_iff_ne]
  constructor
  · intro hentry
    obtain ⟨⟨n, values⟩, ⟨hmem, hne⟩, rfl⟩ := hentry
    exact ⟨values, (mem_entries_iff a n values).mp hmem, hne⟩
  · intro hvalues
    obtain ⟨values, hget, hne⟩ := hvalues
    exact ⟨(name, values), ⟨(mem_entries_iff a name values).mpr hget, hne⟩, rfl⟩

/-- The changed names are the names with different bindings. -/
theorem mem_changedNames (a b : Parameters) (name : String) :
    name ∈ a.changedNames b ↔ a.get? name ≠ b.get? name := by
  rw [changedNames, List.mem_append, mem_changedNames_left, List.mem_filter,
    mem_names_iff, Bool.not_eq_true', contains_eq_false_iff]
  cases ha : a.get? name with
  | none => simp [eq_comm]
  | some values => simp [eq_comm]

/-- No changed name is listed twice. -/
theorem nodup_changedNames (a b : Parameters) : (a.changedNames b).Nodup := by
  rw [changedNames, List.nodup_append]
  refine ⟨?_, b.nodup.filter _, ?_⟩
  · exact a.nodup.sublist (List.filter_sublist.map Prod.fst)
  · intro name hleft other hright heq
    subst heq
    obtain ⟨values, hget, _⟩ := (mem_changedNames_left a b name).mp hleft
    have hnone := (List.mem_filter.mp hright).2
    rw [Bool.not_eq_true', contains_eq_false_iff, hget] at hnone
    cases hnone

/-- No name is changed exactly when all names are bound alike. -/
theorem changedNames_eq_nil_iff (a b : Parameters) :
    a.changedNames b = [] ↔ ∀ name, a.get? name = b.get? name := by
  simp only [List.eq_nil_iff_forall_not_mem, mem_changedNames, not_not]

/-! ## Agreement -/

/-- Containers that bind every name alike have the same names. -/
theorem names_perm_of_get?_eq {a b : Parameters}
    (h : ∀ name, a.get? name = b.get? name) : a.names.Perm b.names := by
  rw [List.perm_ext_iff_of_nodup a.nodup_names b.nodup_names]
  intro name
  rw [mem_names_iff, mem_names_iff, h name]

/-- Two containers agree exactly when they bind every name alike. -/
theorem agrees_iff (a b : Parameters) :
    a.agrees b = true ↔ ∀ name, a.get? name = b.get? name := by
  simp only [agrees, Bool.and_eq_true, beq_iff_eq, List.all_eq_true]
  constructor
  · intro hagrees name
    obtain ⟨hsize, hall⟩ := hagrees
    have hget : ∀ n values, a.get? n = some values → b.get? n = some values :=
      fun n values hn => hall (n, values) ((mem_entries_iff a n values).mpr hn)
    -- the names of `a` are among those of `b`, and there are as many of them
    have hsub : a.names ⊆ b.names := by
      intro n hn
      rw [mem_names_iff, Option.ne_none_iff_exists'] at hn
      obtain ⟨values, hn⟩ := hn
      rw [mem_names_iff, hget n values hn]
      exact Option.some_ne_none values
    have hperm : a.names.Perm b.names := by
      refine (a.nodup_names.subperm hsub).perm_of_length_le ?_
      simp only [names, List.length_map]
      exact Nat.le_of_eq hsize.symm
    cases ha : a.get? name with
    | some values => exact (hget name values ha).symm
    | none =>
      have hnot : name ∉ b.names := by
        rw [← hperm.mem_iff, mem_names_iff, ha]
        simp
      rw [mem_names_iff, not_not] at hnot
      exact hnot.symm
  · intro h
    refine ⟨?_, ?_⟩
    · simpa [names, size] using (names_perm_of_get?_eq h).length_eq
    · intro entry hmem
      obtain ⟨n, values⟩ := entry
      rw [← h n]
      exact (mem_entries_iff a n values).mp hmem

end Parameters

namespace RenderState

/-- Two states agree exactly when they have the same mode and window state and
bind every name alike. -/
theorem agrees_iff (a b : RenderState) :
    a.agrees b = true ↔ a.mode = b.mode ∧ a.window = b.window ∧
      ∀ name, a.parameters.get? name = b.parameters.get? name := by
  simp only [agrees, Bool.and_eq_true, beq_iff_eq, Parameters.agrees_iff, and_assoc]

theorem agrees_refl (s : RenderState) : s.agrees s = true :=
  (agrees_iff s s).mpr ⟨rfl, rfl, fun _ => rfl⟩

end RenderState

end PortletPage
