import PortletPage.Parameters.Basic

/-!
# Lemmas on render parameters

One equation per operation through the two views of a container: what a name is
bound to (`get?`) and the order of the names (`names`).

* `get?_insert`, `get?_erase`, `get?_empty`: the bindings after an operation.
* `insert_of_get?`: an insertion that changes no binding changes nothing at all.
* `names_insert`, `names_erase`: the names after an operation.
* `remove_fst`, `remove_snd`: a removal hands out what the name was bound to and
  leaves what `erase` leaves.
* `ofEntries_entries`: a container is built from its own entries, in their order.
* `mem_names_iff`: a name is listed exactly when it is bound.
-/

namespace PortletPage

namespace Entries

theorem get?_insert (name other : String) (values : Values) (entries : List Entry) :
    get? other (insert name values entries) =
      if other = name then some values else get? other entries := by
  induction entries with
  | nil => by_cases h : name = other <;> simp [insert, get?, h, eq_comm]
  | cons entry rest ih =>
    obtain ⟨n, v⟩ := entry
    by_cases hn : n = name
    · by_cases ho : other = name
      · simp [insert, get?, hn, ho]
      · have : ¬ name = other := fun e => ho e.symm
        simp [insert, get?, hn, ho, this]
    · by_cases ho : n = other
      · have : ¬ other = name := fun e => hn (ho.trans e)
        simp [insert, get?, ho, this]
      · simp [insert, get?, hn, ho, ih]

/-- To bind a name to the values that it has changes nothing. -/
theorem insert_of_get? {name : String} {values : Values} {entries : List Entry}
    (h : get? name entries = some values) : insert name values entries = entries := by
  induction entries with
  | nil => cases h
  | cons entry rest ih =>
    obtain ⟨n, v⟩ := entry
    rw [get?] at h
    rw [insert]
    split at h
    · rename_i hn
      cases h
      rw [if_pos hn]
    · rename_i hn
      rw [if_neg hn, ih h]

/-- A new name comes last. -/
theorem insert_of_not_mem {name : String} {entries : List Entry}
    (h : name ∉ entries.map Prod.fst) (values : Values) :
    insert name values entries = entries ++ [(name, values)] := by
  induction entries with
  | nil => rfl
  | cons entry rest ih =>
    obtain ⟨n, v⟩ := entry
    rw [List.map_cons, List.mem_cons, not_or] at h
    rw [insert, if_neg fun hn => h.1 hn.symm, ih h.2, List.cons_append]

/-- Entries whose names are new and distinct are stored in their order. -/
theorem foldl_insert {done entries : List Entry}
    (h : ((done ++ entries).map Prod.fst).Nodup) :
    entries.foldl (fun stored entry => insert entry.1 entry.2 stored) done =
      done ++ entries := by
  induction entries generalizing done with
  | nil => rw [List.foldl_nil, List.append_nil]
  | cons entry rest ih =>
    obtain ⟨n, v⟩ := entry
    have hnew : n ∉ done.map Prod.fst := by
      rw [List.map_append, List.map_cons, List.nodup_append] at h
      exact fun hmem => h.2.2 n hmem n List.mem_cons_self rfl
    rw [List.append_cons] at h ⊢
    rw [List.foldl_cons, insert_of_not_mem hnew, ih h]

theorem get?_eq_none_iff (name : String) (entries : List Entry) :
    get? name entries = none ↔ name ∉ entries.map Prod.fst := by
  induction entries with
  | nil => simp [get?]
  | cons entry rest ih =>
    obtain ⟨n, v⟩ := entry
    by_cases h : n = name
    · simp [get?, h]
    · have h' : ¬ name = n := fun e => h e.symm
      simp [get?, h, h', ih]

theorem get?_erase {name : String} (other : String) {entries : List Entry}
    (h : (entries.map Prod.fst).Nodup) :
    get? other (erase name entries) = if other = name then none else get? other entries := by
  induction entries with
  | nil => simp [erase, get?]
  | cons entry rest ih =>
    obtain ⟨n, v⟩ := entry
    rw [List.map_cons, List.nodup_cons] at h
    by_cases hn : n = name
    · by_cases ho : other = name
      · subst ho; subst hn
        simpa [erase] using (get?_eq_none_iff n rest).2 h.1
      · have : ¬ name = other := fun e => ho e.symm
        simp [erase, get?, hn, ho, this]
    · by_cases ho : n = other
      · have : ¬ other = name := fun e => hn (ho.trans e)
        simp [erase, get?, ho, this]
      · simp [erase, get?, hn, ho, ih h.2]

end Entries

namespace Parameters

@[simp] theorem get?_empty (name : String) : empty.get? name = none := rfl

/-- Storing under a name changes the binding of that name only. -/
theorem get?_insert (p : Parameters) (name other : String) (values : Values) :
    (p.insert name values).get? other = if other = name then some values else p.get? other :=
  Entries.get?_insert name other values p.entries

/-- To bind a name to the values that it has changes nothing. -/
theorem insert_of_get? {p : Parameters} {name : String} {values : Values}
    (h : p.get? name = some values) : p.insert name values = p :=
  ext (Entries.insert_of_get? h)

/-- Removing a name unbinds that name only. -/
theorem get?_erase (p : Parameters) (name other : String) :
    (p.erase name).get? other = if other = name then none else p.get? other :=
  Entries.get?_erase other p.nodup

/-- A stored name keeps its place, a new one comes last. -/
theorem names_insert (p : Parameters) (name : String) (values : Values) :
    (p.insert name values).names =
      if name ∈ p.names then p.names else p.names ++ [name] :=
  Entries.map_fst_insert name values p.entries

/-- Removing a name keeps the order of the others. -/
theorem names_erase (p : Parameters) (name : String) :
    (p.erase name).names = p.names.erase name :=
  Entries.map_fst_erase name p.entries

/-- A removal hands out the values that the name was bound to. -/
@[simp] theorem remove_fst (p : Parameters) (name : String) :
    (p.remove name).1 = p.get? name :=
  congrArg Prod.fst (Entries.remove_eq name p.entries)

/-- A removal leaves the container without the name. -/
@[simp] theorem remove_snd (p : Parameters) (name : String) :
    (p.remove name).2 = p.erase name :=
  ext (congrArg Prod.snd (Entries.remove_eq name p.entries))

/-- A name is listed exactly when it is bound. -/
theorem mem_names_iff (p : Parameters) (name : String) :
    name ∈ p.names ↔ p.get? name ≠ none := by
  rw [Ne, get?, Entries.get?_eq_none_iff, Classical.not_not, names]

theorem nodup_names (p : Parameters) : p.names.Nodup := p.nodup

theorem entries_foldl_insert (entries : List Entry) (p : Parameters) :
    (entries.foldl (fun p entry => p.insert entry.1 entry.2) p).entries =
      entries.foldl (fun stored entry => Entries.insert entry.1 entry.2 stored) p.entries := by
  induction entries generalizing p with
  | nil => rfl
  | cons entry rest ih => exact ih (p.insert entry.1 entry.2)

/-- A container is built from its own entries. -/
theorem ofEntries_entries (p : Parameters) : ofEntries p.entries = p :=
  ext ((entries_foldl_insert p.entries empty).trans (Entries.foldl_insert p.nodup))

end Parameters

end PortletPage
