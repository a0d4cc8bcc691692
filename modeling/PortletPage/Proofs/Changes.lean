import PortletPage.Delta
import PortletPage.Proofs.Bindings

/-!
# Lists of changes

What a list of changes does to a container, name by name.

* `Change.last?` is the last change of a name in a list.  After the list has
  been applied, a name has the binding of its last change, or its previous
  binding when the list does not mention it (`get?_applyAllNaming`).
  `Change.last?_eq_some_iff_append` says where in the list it stands.
* `Change.apply_fst` says when a single change changes anything; one that does not
  leaves the order alone as well (`apply_of_unchanged`).  None reorders the names of
  others (`filter_names_apply`).
* When no name occurs twice in the list, the names that are reported are those
  of the changes that differ from the container before
  (`mem_names_applyAllNaming`), each once (`nodup_names_applyAllNaming`).
-/

namespace PortletPage

/-- To remove an absent name changes nothing, not even the order. -/
theorem Entries.erase_of_get?_eq_none {name : String} {entries : List Entry}
    (h : get? name entries = none) : erase name entries = entries := by
  induction entries with
  | nil => rfl
  | cons entry rest ih =>
    obtain ⟨n, v⟩ := entry
    by_cases hn : n = name
    · simp [get?, hn] at h
    · rw [get?, if_neg hn] at h
      rw [erase, if_neg hn, ih h]

namespace Change

/-- The binding that the last change of `name` asks for; none if the list has
no change of that name. -/
def last? (changes : List Change) (name : String) : Option (Option Values) :=
  ((changes.filter fun c => c.name == name).getLast?).map Change.values

@[simp] theorem last?_nil (name : String) : last? [] name = none := rfl

/-- A change at the head counts only if the name does not occur again. -/
theorem last?_cons (c : Change) (rest : List Change) (name : String) :
    last? (c :: rest) name =
      (last? rest name).or (if c.name = name then some c.values else none) := by
  by_cases h : c.name = name
  · simp only [last?, List.filter_cons, beq_iff_eq, h, if_true, List.getLast?_cons]
    cases (rest.filter fun c => c.name == name).getLast? <;> rfl
  · simp [last?, h]

/-- A filter on names drops the changes of a name or keeps them all. -/
theorem last?_filter (p : String → Bool) (changes : List Change) (name : String) :
    last? (changes.filter fun c => p c.name) name =
      if p name then last? changes name else none := by
  induction changes with
  | nil => simp
  | cons c rest ih =>
    rw [List.filter_cons, last?_cons]
    by_cases hc : p c.name
    · rw [if_pos hc, last?_cons, ih]
      by_cases hn : c.name = name
      · simp [← hn, hc]
      · simp [hn]
    · rw [if_neg hc, ih]
      by_cases hn : c.name = name
      · simp [← hn, hc]
      · simp [hn]

/-- A list says nothing of a name exactly when it has no change of it. -/
theorem last?_eq_none_iff (changes : List Change) (name : String) :
    last? changes name = none ↔ name ∉ changes.map Change.name := by
  simp [last?]

theorem last?_eq_none {changes : List Change} {name : String}
    (h : name ∉ changes.map Change.name) : last? changes name = none :=
  (last?_eq_none_iff changes name).mpr h

/-- Of two lists the second has the last word. -/
theorem last?_append (changes more : List Change) (name : String) :
    last? (changes ++ more) name = (last? more name).or (last? changes name) := by
  rw [last?, List.filter_append, List.getLast?_append, Option.map_or]
  rfl

/-- The last change of a name is the one after which the name is not mentioned. -/
theorem last?_eq_some_iff_append {changes : List Change} {name : String}
    {values : Option Values} :
    last? changes name = some values ↔
      ∃ before after, changes = before ++ ⟨name, values⟩ :: after ∧
        name ∉ after.map Change.name := by
  constructor
  · intro hlast
    induction changes with
    | nil => cases hlast
    | cons c rest ih =>
      rw [last?_cons] at hlast
      cases hrest : last? rest name with
      | some later =>
        rw [hrest, Option.some_or] at hlast
        obtain ⟨before, after, rfl, hafter⟩ := ih (hrest.trans hlast)
        exact ⟨c :: before, after, rfl, hafter⟩
      | none =>
        rw [hrest, Option.none_or] at hlast
        split at hlast
        · rename_i hname
          subst hname
          cases hlast
          exact ⟨[], rest, rfl, (last?_eq_none_iff rest c.name).mp hrest⟩
        · cases hlast
  · intro hsplit
    obtain ⟨before, after, rfl, hafter⟩ := hsplit
    rw [last?_append, last?_cons, last?_eq_none hafter, if_pos rfl]
    rfl

/-- In a list that mentions no name twice, the last change of a name is the only
one. -/
theorem last?_eq_some_iff {changes : List Change} (h : (changes.map Change.name).Nodup)
    (name : String) (values : Option Values) :
    last? changes name = some values ↔ ⟨name, values⟩ ∈ changes := by
  rw [last?_eq_some_iff_append]
  constructor
  · intro hsplit
    obtain ⟨before, after, rfl, _⟩ := hsplit
    exact List.mem_append_right before List.mem_cons_self
  · intro hmem
    obtain ⟨before, after, rfl⟩ := List.append_of_mem hmem
    rw [List.map_append, List.map_cons] at h
    have hafter := (List.nodup_cons.mp (List.nodup_append.mp h).2.1).1
    exact ⟨before, after, rfl, hafter⟩

/-! ## One change -/

/-- A change changes something exactly when the name was bound otherwise. -/
theorem apply_fst (c : Change) (p : Parameters) :
    (c.apply p).1 = true ↔ p.get? c.name ≠ c.values := by
  unfold apply
  cases hv : c.values with
  | none => simp [Parameters.contains, Option.isSome_iff_ne_none]
  | some values =>
    by_cases h : p.get? c.name = some values <;> simp [h]

/-- A change binds its own name as it says, and no other. -/
theorem get?_apply (c : Change) (p : Parameters) (name : String) :
    (c.apply p).2.get? name = if name = c.name then c.values else p.get? name := by
  unfold apply
  cases hv : c.values with
  | none => exact Parameters.get?_erase p c.name name
  | some values =>
    by_cases h : p.get? c.name = some values
    · by_cases hn : name = c.name <;> simp [h, hn]
    · simp [h, Parameters.get?_insert]

/-- A change that changes nothing leaves the order alone as well. -/
theorem apply_of_unchanged {c : Change} {p : Parameters} (h : (c.apply p).1 = false) :
    (c.apply p).2 = p := by
  unfold apply at h ⊢
  cases hv : c.values with
  | none =>
    rw [hv] at h
    have habsent : p.get? c.name = none := (Parameters.contains_eq_false_iff p c.name).mp h
    exact Parameters.ext (Entries.erase_of_get?_eq_none habsent)
  | some values =>
    rw [hv] at h
    by_cases hget : p.get? c.name = some values
    · simp [hget]
    · simp [hget] at h

/-- A change of a name that is dropped does not change the order of those that are
kept. -/
theorem filter_names_apply {keep : String → Bool} {c : Change} (h : keep c.name = false)
    (p : Parameters) : (c.apply p).2.names.filter keep = p.names.filter keep := by
  have hinsert : ∀ values, (p.insert c.name values).names.filter keep = p.names.filter keep := by
    intro values
    rw [Parameters.names_insert]
    split
    · rfl
    · simp [List.filter_append, h]
  have herase : (p.erase c.name).names.filter keep = p.names.filter keep := by
    rw [Parameters.names_erase, p.nodup_names.erase_eq_filter, List.filter_filter]
    apply List.filter_congr
    intro name _
    by_cases hname : name = c.name
    · simp [hname, h]
    · simp [hname]
  cases hv : c.values with
  | none => simpa [apply, hv] using herase
  | some values =>
    by_cases hget : p.get? c.name = some values
    · simp [apply, hv, hget]
    · simpa [apply, hv, hget] using hinsert values

/-! ## A list of changes -/

theorem applyAllNaming_cons_names (c : Change) (rest : List Change) (p : Parameters) :
    (applyAllNaming (c :: rest) p).1 =
      if (c.apply p).1 then c.name :: (applyAllNaming rest (c.apply p).2).1
      else (applyAllNaming rest (c.apply p).2).1 := rfl

theorem applyAllNaming_cons_parameters (c : Change) (rest : List Change) (p : Parameters) :
    (applyAllNaming (c :: rest) p).2 = (applyAllNaming rest (c.apply p).2).2 := rfl

/-- After a list of changes a name has the binding of its last change, or its
previous one. -/
theorem get?_applyAllNaming (changes : List Change) (p : Parameters) (name : String) :
    (applyAllNaming changes p).2.get? name = (last? changes name).getD (p.get? name) := by
  induction changes generalizing p with
  | nil => rfl
  | cons c rest ih =>
    rw [applyAllNaming_cons_parameters, ih, last?_cons, get?_apply]
    by_cases h : name = c.name
    · subst h
      cases last? rest c.name <;> simp
    · have hne : ¬ c.name = name := fun e => h e.symm
      simp [h, hne]

/-- If no name is reported, the container is the same. -/
theorem applyAllNaming_of_silent {changes : List Change} {p : Parameters}
    (h : (applyAllNaming changes p).1 = []) : (applyAllNaming changes p).2 = p := by
  induction changes with
  | nil => rfl
  | cons c rest ih =>
    rw [applyAllNaming_cons_names] at h
    split at h
    · cases h
    · rename_i hunchanged
      have hsame : (c.apply p).2 = p := apply_of_unchanged (by simpa using hunchanged)
      rw [hsame] at h
      rw [applyAllNaming_cons_parameters, hsame, ih h]

/-- The names that are reported are names of changes, in their order. -/
theorem names_applyAllNaming_sublist (changes : List Change) (p : Parameters) :
    (applyAllNaming changes p).1.Sublist (changes.map Change.name) := by
  induction changes generalizing p with
  | nil => exact List.Sublist.refl _
  | cons c rest ih =>
    rw [applyAllNaming_cons_names, List.map_cons]
    split
    · exact (ih _).cons_cons _
    · exact (ih _).cons _

theorem nodup_names_applyAllNaming {changes : List Change}
    (h : (changes.map Change.name).Nodup) (p : Parameters) :
    (applyAllNaming changes p).1.Nodup :=
  h.sublist (names_applyAllNaming_sublist changes p)

/-- Of changes with distinct names, those are reported that differ from the
container before. -/
theorem mem_names_applyAllNaming {changes : List Change}
    (h : (changes.map Change.name).Nodup) (p : Parameters) (name : String) :
    name ∈ (applyAllNaming changes p).1 ↔
      ∃ c ∈ changes, c.name = name ∧ p.get? name ≠ c.values := by
  induction changes generalizing p with
  | nil => simp [applyAllNaming]
  | cons c rest ih =>
    rw [List.map_cons, List.nodup_cons] at h
    have hother : ∀ d ∈ rest, d.name ≠ c.name := fun d hd e =>
      h.1 (e ▸ List.mem_map.mpr ⟨d, hd, rfl⟩)
    -- the head change leaves the bindings of all later changes alone
    have hrest : name ∈ (applyAllNaming rest (c.apply p).2).1 ↔
        ∃ d ∈ rest, d.name = name ∧ p.get? name ≠ d.values := by
      rw [ih h.2]
      refine exists_congr fun d => and_congr_right fun hd => and_congr_right fun hn => ?_
      rw [get?_apply, if_neg (hn ▸ hother d hd)]
    rw [applyAllNaming_cons_names]
    have hmem : name ∈ (if (c.apply p).1 then
          c.name :: (applyAllNaming rest (c.apply p).2).1
        else (applyAllNaming rest (c.apply p).2).1) ↔
        ((c.apply p).1 = true ∧ c.name = name) ∨
          name ∈ (applyAllNaming rest (c.apply p).2).1 := by
      by_cases hc : (c.apply p).1 = true
      · simp [hc, eq_comm]
      · simp [hc]
    rw [hmem, hrest, apply_fst]
    constructor
    · intro hchanged
      rcases hchanged with ⟨hne, hn⟩ | ⟨d, hd, hn, hne⟩
      · exact ⟨c, List.mem_cons_self, hn, hn ▸ hne⟩
      · exact ⟨d, List.mem_cons_of_mem _ hd, hn, hne⟩
    · intro hchange
      obtain ⟨d, hd, hn, hne⟩ := hchange
      rcases List.mem_cons.mp hd with rfl | hd
      · exact Or.inl ⟨hn ▸ hne, hn⟩
      · exact Or.inr ⟨d, hd, hn, hne⟩

end Change

end PortletPage
