import Mathlib.Data.List.Nodup
import PortletPage.Page

/-!
# What validation says of a page

Validation goes through the portlets once and remembers the ids that it has seen.  It
stops at the first portlet with a fault.

* `Page.Orderly` is what a page has to be, and `Page.validate_eq_ok_iff` says that
  validation accepts exactly the orderly pages.
* `Page.Reports` is what is reported of one portlet, given the ids before it.  Of several
  faults of a portlet the one that is checked first is reported.
* `Page.validate_eq_error_iff`: what is reported of a page is reported of its first portlet
  that makes it disorderly.
-/

namespace PortletPage

/-- What validation asks of a page. -/
structure Page.Orderly (page : Page) : Prop where
  named : ∀ p ∈ page.portlets, p.id ≠ ""
  distinct : page.ids.Nodup
  disjoint : ∀ p ∈ page.portlets, ∀ name ∈ p.privateNames, p.isPublic name = false

namespace Page

/-- What is reported of a portlet that comes after those with the ids `earlier`: an empty
id before a repeated one, a repeated id before a name that is both private and public, and
of such names the first in the order of the private ones. -/
inductive Reports (earlier : List String) (p : Portlet) : Fault → Prop where
  | emptyId (unnamed : p.id = "") : Reports earlier p .emptyId
  | repeatedId (named : p.id ≠ "") (repeated : p.id ∈ earlier) :
      Reports earlier p (.repeatedId p.id)
  | privateAndPublic (named : p.id ≠ "") (new : p.id ∉ earlier)
      {before : List String} {name : String} {after : List String}
      (split : p.privateNames = before ++ name :: after)
      (first : ∀ n ∈ before, n ∉ p.publicNames) (shared : name ∈ p.publicNames) :
      Reports earlier p (.privateAndPublic name p.id)

/-! ## One portlet -/

theorem faultOf_eq_none_iff (earlier : List String) (p : Portlet) :
    faultOf earlier p = none ↔
      p.id ≠ "" ∧ p.id ∉ earlier ∧ ∀ name ∈ p.privateNames, p.isPublic name = false := by
  unfold faultOf
  by_cases hid : p.id = ""
  · simp [hid]
  · by_cases hrepeated : p.id ∈ earlier
    · simp [hid, hrepeated]
    · simp [hid, hrepeated, List.find?_eq_none]

theorem faultOf_eq_some_iff (earlier : List String) (p : Portlet) (fault : Fault) :
    faultOf earlier p = some fault ↔ Reports earlier p fault := by
  have hpublic : ∀ name, p.isPublic name = true ↔ name ∈ p.publicNames := by
    simp [Portlet.isPublic]
  have hprivate : ∀ name, (!p.isPublic name) = true ↔ name ∉ p.publicNames := by
    simp [Portlet.isPublic]
  constructor
  · intro h
    unfold faultOf at h
    split at h
    · rename_i hid
      cases h
      exact .emptyId hid
    · rename_i hid
      split at h
      · rename_i hrepeated
        cases h
        exact .repeatedId hid hrepeated
      · rename_i hnew
        obtain ⟨name, hfind, rfl⟩ := Option.map_eq_some_iff.mp h
        obtain ⟨hshared, before, after, hsplit, hfirst⟩ :=
          List.find?_eq_some_iff_append.mp hfind
        exact .privateAndPublic hid hnew hsplit
          (fun n hn => (hprivate n).mp (hfirst n hn)) ((hpublic name).mp hshared)
  · intro h
    cases h with
    | emptyId unnamed => exact if_pos unnamed
    | repeatedId named repeated => rw [faultOf, if_neg named, if_pos repeated]
    | @privateAndPublic named new before name after split first shared =>
      have hfind : p.privateNames.find? p.isPublic = some name :=
        List.find?_eq_some_iff_append.mpr ⟨(hpublic name).mpr shared, before, after, split,
          fun n hn => (hprivate n).mpr (first n hn)⟩
      rw [faultOf, if_neg named, if_neg new, hfind]
      rfl

/-- It does not matter in which order the earlier ids are known. -/
theorem faultOf_congr {earlier earlier' : List String}
    (h : ∀ id, id ∈ earlier ↔ id ∈ earlier') (p : Portlet) :
    faultOf earlier p = faultOf earlier' p := by
  simp only [faultOf, h]

/-! ## All portlets -/

/-- The invariant of the search: `earlier` holds the ids of the portlets that have been
passed. -/
theorem firstFault_eq_none_iff (earlier : List String) (portlets : List Portlet) :
    firstFault earlier portlets = none ↔
      Orderly ⟨portlets⟩ ∧ ∀ p ∈ portlets, p.id ∉ earlier := by
  induction portlets generalizing earlier with
  | nil =>
    refine iff_of_true rfl ⟨⟨?_, List.nodup_nil, ?_⟩, ?_⟩ <;> exact List.forall_mem_nil _
  | cons p rest ih =>
    rw [firstFault]
    cases hf : faultOf earlier p with
    | some fault =>
      refine iff_of_false (by simp) ?_
      rintro ⟨orderly, hnew⟩
      have hnone : faultOf earlier p = none := (faultOf_eq_none_iff earlier p).mpr
        ⟨orderly.named p List.mem_cons_self, hnew p List.mem_cons_self,
          orderly.disjoint p List.mem_cons_self⟩
      rw [hf] at hnone
      cases hnone
    | none =>
      obtain ⟨hnamed, hnew, hdisjoint⟩ := (faultOf_eq_none_iff earlier p).mp hf
      show firstFault (p.id :: earlier) rest = none ↔ _
      rw [ih]
      constructor
      · rintro ⟨orderly, hrest⟩
        have hfresh : ∀ q ∈ rest, q.id ≠ p.id ∧ q.id ∉ earlier := fun q hq =>
          not_or.mp fun h => hrest q hq (List.mem_cons.mpr h)
        refine ⟨⟨?_, ?_, ?_⟩, ?_⟩
        · exact List.forall_mem_cons.mpr ⟨hnamed, orderly.named⟩
        · refine List.nodup_cons.mpr ⟨?_, orderly.distinct⟩
          intro hmem
          obtain ⟨q, hq, hid⟩ := List.mem_map.mp hmem
          exact (hfresh q hq).1 hid
        · exact List.forall_mem_cons.mpr ⟨hdisjoint, orderly.disjoint⟩
        · exact List.forall_mem_cons.mpr ⟨hnew, fun q hq => (hfresh q hq).2⟩
      · rintro ⟨orderly, hall⟩
        obtain ⟨hid, hnodup⟩ := List.nodup_cons.mp orderly.distinct
        refine ⟨⟨?_, hnodup, ?_⟩, ?_⟩
        · exact (List.forall_mem_cons.mp orderly.named).2
        · exact (List.forall_mem_cons.mp orderly.disjoint).2
        · intro q hq hmem
          rcases List.mem_cons.mp hmem with heq | hmem
          · exact hid (List.mem_map.mpr ⟨q, hq, heq⟩)
          · exact hall q (List.mem_cons_of_mem p hq) hmem

/-- The first fault is that of a portlet, and no portlet before it has one. -/
theorem firstFault_eq_some_iff (earlier : List String) (portlets : List Portlet)
    (fault : Fault) :
    firstFault earlier portlets = some fault ↔
      ∃ before p after, portlets = before ++ p :: after ∧
        firstFault earlier before = none ∧
        faultOf (before.map Portlet.id ++ earlier) p = some fault := by
  induction portlets generalizing earlier with
  | nil => simp [firstFault]
  | cons q rest ih =>
    rw [firstFault]
    cases hf : faultOf earlier q with
    | some found =>
      constructor
      · intro h
        cases h
        exact ⟨[], q, rest, rfl, rfl, hf⟩
      · rintro ⟨before, p, after, hsplit, hbefore, hfault⟩
        cases before with
        | nil =>
          cases hsplit
          exact hf.symm.trans hfault
        | cons q' before =>
          cases hsplit
          rw [firstFault, hf] at hbefore
          cases hbefore
    | none =>
      -- the id of `q` is known to the portlets after it
      have hknown : ∀ before id, id ∈ before.map Portlet.id ++ q.id :: earlier ↔
          id ∈ (q :: before).map Portlet.id ++ earlier := by
        intro before id
        simp only [List.mem_append, List.mem_cons, List.map_cons]
        tauto
      show firstFault (q.id :: earlier) rest = some fault ↔ _
      rw [ih]
      constructor
      · rintro ⟨before, p, after, rfl, hbefore, hfault⟩
        refine ⟨q :: before, p, after, rfl, ?_, ?_⟩
        · rw [firstFault, hf]
          exact hbefore
        · rw [← faultOf_congr (hknown before)]
          exact hfault
      · rintro ⟨before, p, after, hsplit, hbefore, hfault⟩
        cases before with
        | nil =>
          cases hsplit
          rw [List.map_nil, List.nil_append, hf] at hfault
          cases hfault
        | cons q' before =>
          cases hsplit
          rw [firstFault, hf] at hbefore
          refine ⟨before, p, after, rfl, hbefore, ?_⟩
          rw [faultOf_congr (hknown before)]
          exact hfault

/-! ## Pages -/

/-- Validation accepts exactly the orderly pages, as they are. -/
theorem validate_eq_ok_iff (page page' : Page) :
    page.validate = .ok page' ↔ page' = page ∧ page.Orderly := by
  have hnone := firstFault_eq_none_iff [] page.portlets
  simp only [List.not_mem_nil, not_false_eq_true, implies_true, and_true] at hnone
  unfold validate
  cases hf : firstFault [] page.portlets with
  | none =>
    rw [hf] at hnone
    simp [hnone.mp rfl, eq_comm]
  | some fault =>
    rw [hf] at hnone
    have hdisorderly : ¬ page.Orderly := fun orderly => nomatch hnone.mpr orderly
    simp [hdisorderly]

/-- Validation reports the fault of a portlet before which the page is orderly. -/
theorem validate_eq_error_iff (page : Page) (fault : Fault) :
    page.validate = .error fault ↔
      ∃ before p after, page.portlets = before ++ p :: after ∧ Orderly ⟨before⟩ ∧
        Reports (before.map Portlet.id) p fault := by
  have hvalidate : page.validate = .error fault ↔ firstFault [] page.portlets = some fault := by
    unfold validate
    cases firstFault [] page.portlets <;> simp
  simp [hvalidate, firstFault_eq_some_iff, firstFault_eq_none_iff, faultOf_eq_some_iff]

theorem orderly_of_validate {page page' : Page} (h : page.validate = .ok page') :
    page.Orderly :=
  ((validate_eq_ok_iff page page').mp h).2

/-- The ids of a valid page are distinct. -/
theorem nodup_ids_of_validate {page page' : Page} (h : page.validate = .ok page') :
    page' = page ∧ page.ids.Nodup := by
  obtain ⟨rfl, orderly⟩ := (validate_eq_ok_iff page page').mp h
  exact ⟨rfl, orderly.distinct⟩

end Page

end PortletPage
