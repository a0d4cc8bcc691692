import PortletPage.Proofs.Runs

/-!
# Hubs of valid pages

A hub is made for a page that validation accepts, and for no other page.

* `Page.get?_of_mem`: with distinct ids every portlet of a page is found under its id.
* `Store.get?_ofPage`: the store of a page finds a record for what the page finds.
* `Hub.validation_is_exact` says when there is a hub, what is reported when there is none,
  and what is found when there is one.
-/

namespace PortletPage

/-- With distinct ids a portlet is found under its id. -/
theorem Page.get?_of_mem {page : Page} (distinct : page.ids.Nodup) {p : Portlet}
    (hp : p ∈ page.portlets) : page.get? p.id = some p := by
  have hone : (page.portlets.filter fun q => q.id = p.id) = [p] :=
    filter_of_nodup_map distinct hp
  rw [get?, ← List.head?_filter]
  exact congrArg List.head? hone

/-- The store of a page has a record for each portlet. -/
theorem Store.get?_ofPage (page : Page) (id : String) :
    (Store.ofPage page).get? id = (page.get? id).map Record.start := by
  rw [get?, ofPage, List.find?_map]
  rfl

namespace Hub

variable {κ : Type}

theorem ofPage_of_orderly {page : Page} (orderly : page.Orderly) (config : Config) :
    ofPage page config = .ok (start page config : Hub κ) := by
  rw [ofPage, (Page.validate_eq_ok_iff page page).mpr ⟨rfl, orderly⟩]

theorem ofPage_of_fault {page : Page} {fault : Page.Fault}
    (invalid : page.validate = .error fault) (config : Config) :
    (ofPage page config : Except Failure (Hub κ)) = .error (.invalidPage fault) := by
  rw [ofPage, invalid]

theorem orderly_of_ofPage {page : Page} {config : Config} {h : Hub κ}
    (made : ofPage page config = .ok h) : page.Orderly := by
  cases hvalidate : page.validate with
  | ok page' => exact Page.orderly_of_validate hvalidate
  | error fault =>
    rw [ofPage_of_fault hvalidate] at made
    cases made

/-- Of every page:

* validation accepts the page if every portlet has an id, no two have the same one and none
  declares a name both private and public, and only then;
* otherwise it reports the fault of one portlet, which is the first, in page order, before
  which the page is as it should be;
* a hub is made for the page exactly if validation accepts it, and otherwise the fault is
  handed on;
* when it is made, the id at each position of the page finds the portlet at that position,
  and in the hub its record. -/
theorem validation_is_exact (page : Page) (config : Config) :
    (page.validate = .ok page ↔ page.Orderly) ∧
      (∀ fault, page.validate = .error fault ↔
        ∃ before p after, page.portlets = before ++ p :: after ∧ Page.Orderly ⟨before⟩ ∧
          Page.Reports (before.map Portlet.id) p fault) ∧
      ((∃ h : Hub κ, ofPage page config = .ok h) ↔ page.Orderly) ∧
      (¬page.Orderly → ∃ fault, page.validate = .error fault ∧
        (ofPage page config : Except Failure (Hub κ)) = .error (.invalidPage fault)) ∧
      ∀ h : Hub κ, ofPage page config = .ok h →
        ∀ (i : Nat) p, page.portlets[i]? = some p →
          page.ids[i]? = some p.id ∧ page.get? p.id = some p ∧
            h.store.get? p.id = some (.start p) := by
  refine ⟨?_, page.validate_eq_error_iff, ?_, ?_, ?_⟩
  · rw [Page.validate_eq_ok_iff, eq_self, true_and]
  · constructor
    · rintro ⟨h, made⟩
      exact orderly_of_ofPage made
    · exact fun orderly => ⟨_, ofPage_of_orderly orderly config⟩
  · intro disorderly
    cases hvalidate : page.validate with
    | ok page' => exact absurd (Page.orderly_of_validate hvalidate) disorderly
    | error fault => exact ⟨fault, rfl, ofPage_of_fault hvalidate config⟩
  · intro h made i p hp
    obtain ⟨distinct, rfl⟩ := start_of_ofPage made
    have hget : page.get? p.id = some p :=
      Page.get?_of_mem distinct (List.mem_of_getElem? hp)
    refine ⟨?_, hget, ?_⟩
    · rw [Page.ids, List.getElem?_map, hp, Option.map_some]
    · show (Store.ofPage page).get? p.id = _
      rw [Store.get?_ofPage, hget, Option.map_some]

/-- A page with two maps, of which the second declares the city twice, and a portlet
without an id after them. -/
def crowded : Page where
  portlets := [⟨"map", [], ["city"], .empty⟩, ⟨"map", ["zoom", "city"], ["city"], .empty⟩,
    ⟨"", [], [], .empty⟩]

/-- That the map is there already is what is reported.  On the sample page each of the three
ids finds its portlet. -/
theorem second_map_is_reported :
    crowded.validate = .error (.repeatedId "map") ∧
      (¬∃ h : Hub Unit, ofPage crowded {} = .ok h) ∧
      ∀ (i : Nat) p, Sample.page.portlets[i]? = some p →
        Sample.page.get? p.id = some p ∧ Sample.hub.store.get? p.id = some (.start p) := by
  obtain ⟨_, hfault, hmade, _, _⟩ := validation_is_exact (κ := Unit) crowded {}
  obtain ⟨_, _, _, _, hfound⟩ := validation_is_exact (κ := Unit) Sample.page {}
  have hmap : Page.Orderly ⟨[⟨"map", [], ["city"], .empty⟩]⟩ := Page.orderly_of_validate rfl
  have hreported : crowded.validate = .error (.repeatedId "map") :=
    (hfault _).mpr ⟨_, _, _, rfl, hmap, .repeatedId (by decide) (by decide)⟩
  refine ⟨hreported, ?_, ?_⟩
  · rw [hmade]
    intro orderly
    exact absurd orderly.distinct (by decide)
  · exact fun i p hp => (hfound Sample.hub Sample.hub_of_page i p hp).2

end Hub

end PortletPage
