import PortletPage.Proofs.Runs

/-!
# Listeners by the names they were added under

A registry keeps the type of each listener beside the name under which it was
added, and looks listeners up by type.  This module says the same by name.

* `EventType.parse_eq_none_iff` and `EventType.parse_eq_client_iff`: which names
  are acceptable, and what they stand for.
* `Registry.Tidy`: types and names fit together, and no two listeners have the
  same number.  Every registry that a hub comes to is tidy (`Step.tidy`).
* `Registry.addedFor` and `Registry.addedUnder`: the callbacks that were added
  for state changes of a portlet, and those that were added under a name.  In a
  tidy registry they are what the hub looks up.
-/

namespace PortletPage

/-! ## Names of event types -/

namespace EventType

@[simp] theorem parse_onStateChange : parse onStateChange = some .stateChange := rfl

theorem isReserved_onStateChange : isReserved onStateChange = true := by decide

/-- A name that is taken for an event type is the name of that type. -/
theorem name_of_parse {name : String} {type : EventType} (h : parse name = some type) :
    type.name = name := by
  unfold parse at h
  split at h
  · rename_i hname
    cases h
    exact hname.symm
  · split at h
    · cases h
    · cases h
      rfl

/-- A name is refused if it is empty or reserved, with one exception. -/
theorem parse_eq_none_iff (name : String) :
    parse name = none ↔ name ≠ onStateChange ∧ (name = "" ∨ isReserved name = true) := by
  unfold parse
  by_cases hname : name = onStateChange
  · simp [hname]
  · rw [if_neg hname]
    by_cases hbad : name = "" ∨ isReserved name = true <;> simp [hname, hbad]

/-- A name stands for messages if it is neither empty nor reserved. -/
theorem parse_eq_client_iff (name other : String) :
    parse name = some (.client other) ↔
      other = name ∧ name ≠ "" ∧ isReserved name = false := by
  unfold parse
  by_cases hname : name = onStateChange
  · rw [if_pos hname, hname, isReserved_onStateChange]
    simp
  · rw [if_neg hname]
    by_cases hbad : name = "" ∨ isReserved name = true
    · rw [if_pos hbad]
      constructor
      · intro h
        cases h
      · intro h
        obtain ⟨_, hempty, hreserved⟩ := h
        rcases hbad with hbad | hbad
        · exact absurd hbad hempty
        · rw [hbad] at hreserved
          cases hreserved
    · rw [if_neg hbad]
      simp only [Option.some.injEq, EventType.client.injEq]
      rw [not_or, Bool.not_eq_true] at hbad
      constructor
      · intro h
        exact ⟨h.symm, hbad⟩
      · intro h
        exact h.1.symm

theorem parse_eq_stateChange_iff (name : String) :
    parse name = some .stateChange ↔ name = onStateChange := by
  constructor
  · intro h
    exact (name_of_parse h).symm
  · intro h
    rw [h, parse_onStateChange]

end EventType

/-! ## Tidy registries -/

namespace Registry

variable {κ : Type}

/-- What holds of the listeners of every registry that a hub comes to. -/
structure Tidy (r : Registry κ) : Prop where
  /-- Each listener has the type that the name of its handle stands for. -/
  types : ∀ l ∈ r.listeners, EventType.parse l.handle.eventType = some l.type
  /-- No two handles have the same number. -/
  numbers : (r.listeners.map fun l => l.handle.number).Nodup
  /-- The numbers of later handles are greater. -/
  bounded : ∀ l ∈ r.listeners, l.handle.number ≤ r.lastNumber

theorem tidy_empty : (empty : Registry κ).Tidy where
  types := by
    intro l hl
    cases hl
  numbers := List.nodup_nil
  bounded := by
    intro l hl
    cases hl

theorem listeners_add (r : Registry κ) (portlet : String) (type : EventType) (callback : κ) :
    (r.add portlet type callback).2.listeners =
      r.listeners ++ [⟨⟨r.lastNumber + 1, portlet, type.name⟩, type, callback⟩] := rfl

theorem Tidy.add {r : Registry κ} (h : r.Tidy) {name : String} {type : EventType}
    (hname : EventType.parse name = some type) (portlet : String) (callback : κ) :
    (r.add portlet type callback).2.Tidy where
  types := by
    intro l hl
    rw [listeners_add, List.mem_append, List.mem_singleton] at hl
    rcases hl with hl | rfl
    · exact h.types l hl
    · show EventType.parse type.name = some type
      rw [EventType.name_of_parse hname, hname]
  numbers := by
    rw [listeners_add, List.map_append, List.nodup_append]
    refine ⟨h.numbers, List.nodup_singleton _, ?_⟩
    intro number hold number' hnew heq
    obtain ⟨l, hl, rfl⟩ := List.mem_map.mp hold
    have hbound := h.bounded l hl
    rw [heq, List.mem_singleton.mp hnew] at hbound
    exact absurd hbound (Nat.not_succ_le_self _)
  bounded := by
    intro l hl
    rw [listeners_add, List.mem_append, List.mem_singleton] at hl
    show l.handle.number ≤ r.lastNumber + 1
    rcases hl with hl | rfl
    · exact Nat.le_succ_of_le (h.bounded l hl)
    · exact Nat.le_refl _

theorem listeners_remove_sublist (r : Registry κ) (handle : Handle) :
    (r.remove handle).2.listeners.Sublist r.listeners :=
  List.eraseP_sublist

theorem Tidy.remove {r : Registry κ} (h : r.Tidy) (handle : Handle) :
    (r.remove handle).2.Tidy where
  types := fun l hl => h.types l ((listeners_remove_sublist r handle).subset hl)
  numbers := h.numbers.sublist ((listeners_remove_sublist r handle).map _)
  bounded := fun l hl => h.bounded l ((listeners_remove_sublist r handle).subset hl)

/-! ## Look-up by name -/

/-- The callbacks that were added for state changes of the portlet, in the order
in which they were added. -/
def addedFor (r : Registry κ) (portlet : String) : List κ :=
  (r.listeners.filter fun l =>
    l.handle.portlet = portlet ∧ l.handle.eventType = onStateChange).map Listener.callback

/-- The callbacks that were added under exactly that name, on whatever portlet, in
the order in which they were added. -/
def addedUnder (r : Registry κ) (name : String) : List κ :=
  (r.listeners.filter fun l => l.handle.eventType = name).map Listener.callback

theorem Tidy.listenersFor_eq {r : Registry κ} (h : r.Tidy) (portlet : String) :
    r.listenersFor portlet .stateChange = r.addedFor portlet := by
  rw [listenersFor, addedFor]
  congr 1
  apply List.filter_congr
  intro l hl
  have htype : l.type = .stateChange ↔ l.handle.eventType = onStateChange := by
    rw [← EventType.parse_eq_stateChange_iff, h.types l hl, Option.some.injEq]
  rw [Bool.eq_iff_iff]
  simp [Listener.isFor, htype]

theorem Tidy.listenersOfType_eq {r : Registry κ} (h : r.Tidy) {name : String}
    (hname : EventType.parse name = some (.client name)) :
    (r.listenersOfType (.client name)).map Prod.snd = r.addedUnder name := by
  rw [listenersOfType, addedUnder, List.map_map]
  show (r.listeners.filter _).map Listener.callback = _
  congr 1
  apply List.filter_congr
  intro l hl
  have htype : l.type = .client name ↔ l.handle.eventType = name := by
    have hparse := h.types l hl
    constructor
    · intro htype
      rw [htype] at hparse
      exact ((EventType.parse_eq_client_iff _ _).mp hparse).1.symm
    · intro hevent
      rw [hevent, hname, Option.some.injEq] at hparse
      exact hparse.symm
  rw [Bool.eq_iff_iff]
  simp [htype]

end Registry

end PortletPage
