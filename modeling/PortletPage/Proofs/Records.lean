import PortletPage.Proofs.Changes
import PortletPage.Proofs.Pages
import PortletPage.Store

/-!
# The records of a store

How the operations of a store act on the record of each portlet.

* Look-up.  With distinct ids, as a valid page has them, a look-up by id finds a record
  exactly when it is there (`Store.get?_eq_some_iff`).
* `Store.picture` is what a store shows: its portlets with their states, apart
  from the marks of registration.  Registration leaves the picture alone, and
  two stores with the same picture find the same portlets in the same states.
* `Record.follow` is what a commit makes of one record, and `get?_follow` says
  so name by name.
-/

namespace PortletPage

/-- When keys are distinct, there is one element with the key of an element. -/
theorem filter_of_nodup_map {α β : Type} [DecidableEq β] {key : α → β} {elements : List α}
    (h : (elements.map key).Nodup) {a : α} (ha : a ∈ elements) :
    (elements.filter fun b => key b = key a) = [a] := by
  induction elements with
  | nil => cases ha
  | cons b rest ih =>
    rw [List.map_cons, List.nodup_cons] at h
    rcases List.mem_cons.mp ha with rfl | hmem
    · have hrest : (rest.filter fun b => key b = key a) = [] := by
        rw [List.filter_eq_nil_iff]
        intro b hb hkey
        exact h.1 (List.mem_map.mpr ⟨b, hb, by simpa using hkey⟩)
      rw [List.filter_cons_of_pos (by simp), hrest]
    · have hne : key b ≠ key a := by
        intro hkey
        exact h.1 (List.mem_map.mpr ⟨a, hmem, hkey.symm⟩)
      rw [List.filter_cons_of_neg (by simpa using hne), ih h.2 hmem]

/-- When keys are distinct, to drop the first element with a key is to drop all of
them. -/
theorem eraseP_of_nodup_map {α β : Type} [DecidableEq β] {key : α → β} {elements : List α}
    (h : (elements.map key).Nodup) (k : β) :
    (elements.eraseP fun b => key b == k) = elements.filter fun b => key b != k := by
  induction elements with
  | nil => rfl
  | cons a rest ih =>
    rw [List.map_cons, List.nodup_cons] at h
    by_cases ha : key a = k
    · have hrest : ∀ b ∈ rest, (key b != k) = true := by
        intro b hb
        rw [bne_iff_ne]
        intro hkey
        exact h.1 (List.mem_map.mpr ⟨b, hb, hkey.trans ha.symm⟩)
      rw [List.eraseP_cons_of_pos (by simp [ha]), List.filter_cons_of_neg (by simp [ha]),
        List.filter_eq_self.mpr hrest]
    · rw [List.eraseP_cons_of_neg (by simp [ha]), List.filter_cons_of_pos (by simp [ha]),
        ih h.2]

/-! ## Records after a commit -/

namespace Record

/-- The record after an update that was granted to `submitter`. -/
def follow (r : Record) (submitter : String) (update : Update) : Record :=
  if r.portlet.id = submitter then { r with state := update.state }
  else (r.receive update.publicChanges).2

/-- A record that receives changes takes the last change of each name that its
portlet declares public. -/
theorem get?_receive (r : Record) (changes : List Change) (name : String) :
    (r.receive changes).2.state.parameters.get? name =
      if r.isPublic name then (Change.last? changes name).getD (r.state.parameters.get? name)
      else r.state.parameters.get? name := by
  show (Change.applyAllNaming (changes.filter fun c => r.isPublic c.name)
    r.state.parameters).2.get? name = _
  rw [Change.get?_applyAllNaming, Change.last?_filter]
  by_cases h : r.isPublic name <;> simp [h]

@[simp] theorem follow_portlet (r : Record) (submitter : String) (update : Update) :
    (r.follow submitter update).portlet = r.portlet := by
  unfold follow
  split <;> rfl

@[simp] theorem follow_isPublic (r : Record) (submitter : String) (update : Update)
    (name : String) : (r.follow submitter update).isPublic name = r.isPublic name := by
  simp [isPublic]

theorem follow_submitter {r : Record} {submitter : String} (h : r.portlet.id = submitter)
    (update : Update) : (r.follow submitter update).state = update.state := by
  simp [follow, h]

theorem follow_other {r : Record} {submitter : String} (h : r.portlet.id ≠ submitter)
    (update : Update) :
    (r.follow submitter update) = (r.receive update.publicChanges).2 := by
  simp [follow, h]

/-- After an update the submitter has the bindings of the granted state, and
any other portlet the last change of each name that it declares public. -/
theorem get?_follow (r : Record) (submitter : String) (update : Update) (name : String) :
    (r.follow submitter update).state.parameters.get? name =
      if r.portlet.id = submitter then update.state.parameters.get? name
      else if r.isPublic name then
        (Change.last? update.publicChanges name).getD (r.state.parameters.get? name)
      else r.state.parameters.get? name := by
  by_cases h : r.portlet.id = submitter
  · rw [follow_submitter h, if_pos h]
  · rw [follow_other h, get?_receive, if_neg h]

end Record

namespace Store

/-- The portlets of the records. -/
def portlets (s : Store) : List Portlet := s.records.map Record.portlet

/-- What a store shows: its portlets and their states, in page order. -/
def picture (s : Store) : List (Portlet × RenderState) :=
  s.records.map fun r => (r.portlet, r.state)

theorem ids_eq (s : Store) : s.ids = s.portlets.map Portlet.id := by
  simp [ids, portlets]

theorem portlets_eq (s : Store) : s.portlets = s.picture.map Prod.fst := by
  simp [portlets, picture]

@[simp] theorem portlets_ofPage (page : Page) : (ofPage page).portlets = page.portlets := by
  simp [portlets, ofPage, Function.comp_def, Record.start]

/-! ## Look-up -/

/-- A record that is found is there and has the id. -/
theorem mem_of_get? {s : Store} {id : String} {r : Record} (h : s.get? id = some r) :
    r ∈ s.records ∧ r.portlet.id = id :=
  ⟨List.mem_of_find?_eq_some h, by simpa using List.find?_some h⟩

theorem get?_eq_none_iff (s : Store) (id : String) :
    s.get? id = none ↔ ∀ r ∈ s.records, r.portlet.id ≠ id := by
  simp [get?, List.find?_eq_none]

/-- With distinct ids a record is found exactly when it is there. -/
theorem get?_eq_some_iff {s : Store} (h : s.ids.Nodup) (id : String) (r : Record) :
    s.get? id = some r ↔ r ∈ s.records ∧ r.portlet.id = id := by
  refine ⟨mem_of_get?, ?_⟩
  intro hr
  obtain ⟨hmem, rfl⟩ := hr
  cases hget : s.get? r.portlet.id with
  | none => exact absurd rfl ((get?_eq_none_iff s _).mp hget r hmem)
  | some r' =>
    obtain ⟨hmem', hid⟩ := mem_of_get? hget
    rw [List.inj_on_of_nodup_map h hmem' hmem hid]

/-- Stores with the same picture find the same portlets in the same states. -/
theorem get?_of_picture_eq {s s' : Store} (h : s.picture = s'.picture) (id : String) :
    (s.get? id).map (fun r => (r.portlet, r.state)) =
      (s'.get? id).map fun r => (r.portlet, r.state) := by
  have hfind : ∀ t : Store, (t.get? id).map (fun r => (r.portlet, r.state)) =
      t.picture.find? fun p => p.1.id == id := by
    intro t
    rw [picture, List.find?_map]
    rfl
  rw [hfind, hfind, h]

theorem state?_of_picture_eq {s s' : Store} (h : s.picture = s'.picture) (id : String) :
    s.state? id = s'.state? id := by
  have hmap : ∀ t : Store, t.state? id =
      ((t.get? id).map fun r => (r.portlet, r.state)).map Prod.snd := by
    intro t
    simp [state?, Function.comp_def]
  rw [hmap, hmap, get?_of_picture_eq h]

/-! ## Registration -/

/-- Registration leaves the picture alone. -/
@[simp] theorem picture_register (s : Store) (id : String) :
    (s.register id).picture = s.picture := by
  simp only [picture, register, List.map_map]
  apply List.map_congr_left
  intro r _
  simp only [Function.comp]
  split <;> rfl

/-! ## Commits -/

/-- A commit makes every record follow the update. -/
theorem records_commit (s : Store) (submitter : String) (update : Update) (reason : Reason) :
    (s.commit submitter update reason).2.records =
      s.records.map fun r => r.follow submitter update := rfl

@[simp] theorem portlets_commit (s : Store) (submitter : String) (update : Update)
    (reason : Reason) : (s.commit submitter update reason).2.portlets = s.portlets := by
  simp [portlets, records_commit, Function.comp_def]

/-- After a commit a look-up finds what the record before has become. -/
theorem get?_commit (s : Store) (submitter : String) (update : Update) (reason : Reason)
    (id : String) :
    (s.commit submitter update reason).2.get? id =
      (s.get? id).map fun r => r.follow submitter update := by
  simp only [get?, records_commit, List.find?_map, Function.comp_def, Record.follow_portlet]

end Store

end PortletPage
