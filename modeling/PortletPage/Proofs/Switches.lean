import PortletPage.Proofs.Effect

/-!
# News of every switch

A server may pass on any list of changes, also one that changes a name several times.
The changes reach a record one by one, and the record's news lists a name each time its
binding switches.

* `Change.switches` is how often that happens, and `Change.count_applyAllNaming` says
  that the name is listed as often.
* `Change.switches_eq_one_iff`: a binding that switches at most once does so exactly if
  it is another one in the end.
* `Record.ToldExactly`: what is told of a record is what has become of it.
* `Store.told_exactly_iff`: so it is exactly if no name switches twice.  A binding that
  switches and switches back is told of all the same (`Store.change_and_back_is_told`).
-/

namespace PortletPage

/-! ## Switches of a binding -/

namespace Change

/-- How often the binding of a name, first `b`, switches when the changes are applied
one after the other. -/
def switches (name : String) : List Change → Option Values → Nat
  | [], _ => 0
  | c :: rest, b =>
    if c.name = name ∧ c.values ≠ b then switches name rest c.values + 1
    else switches name rest b

/-- A name is listed as often as its binding switches. -/
theorem count_applyAllNaming (changes : List Change) (p : Parameters) (name : String) :
    (applyAllNaming changes p).1.count name = switches name changes (p.get? name) := by
  induction changes generalizing p with
  | nil => rfl
  | cons c rest ih =>
    have hrest := ih (c.apply p).2
    rw [get?_apply] at hrest
    rw [applyAllNaming_cons_names, switches]
    by_cases hname : c.name = name
    · subst hname
      rw [if_pos rfl] at hrest
      by_cases hchanged : (c.apply p).1 = true
      · have hdiffers := (apply_fst c p).mp hchanged
        rw [if_pos hchanged, if_pos ⟨rfl, hdiffers.symm⟩, List.count_cons_self, hrest]
      · have hsame : p.get? c.name = c.values := by
          rwa [apply_fst, not_not] at hchanged
        rw [if_neg hchanged, if_neg fun h => h.2 hsame.symm, hrest, hsame]
    · rw [if_neg fun e => hname e.symm] at hrest
      rw [if_neg (c := c.name = name ∧ _) fun h => hname h.1, ← hrest]
      split
      · exact List.count_cons_of_ne hname
      · rfl

/-- Changes of other names do not matter. -/
theorem switches_filter (p : String → Bool) (changes : List Change) (name : String)
    (b : Option Values) :
    switches name (changes.filter fun c => p c.name) b =
      if p name then switches name changes b else 0 := by
  induction changes generalizing b with
  | nil => simp [switches]
  | cons c rest ih =>
    rw [List.filter_cons]
    by_cases hc : p c.name = true
    · rw [if_pos hc, switches, switches, ih, ih]
      by_cases hname : c.name = name
      · simp [← hname, hc]
      · simp [hname]
    · rw [if_neg hc, ih, switches]
      by_cases hname : c.name = name
      · simp [← hname, hc]
      · simp [hname]

/-- A binding that switches at most once does so exactly if it is another one in the
end. -/
theorem switches_eq_one_iff {changes : List Change} {name : String} {b : Option Values}
    (h : switches name changes b ≤ 1) :
    switches name changes b = 1 ↔ (last? changes name).getD b ≠ b := by
  induction changes generalizing b with
  | nil => simp [switches]
  | cons c rest ih =>
    have hlast : (last? (c :: rest) name).getD b =
        (last? rest name).getD (if c.name = name then c.values else b) := by
      rw [last?_cons]
      cases last? rest name <;> by_cases hname : c.name = name <;> simp [hname]
    rw [switches] at h ⊢
    rw [hlast]
    split at h
    · rename_i hswitch
      -- it has switched now, and will not do so again
      have hzero : switches name rest c.values = 0 := by omega
      have hstays := (ih (b := c.values) (by omega)).not
      rw [hzero, not_not] at hstays
      rw [if_pos hswitch, if_pos hswitch.1, hzero, hstays.mp (by decide)]
      exact iff_of_true rfl hswitch.2
    · rename_i hstays
      rw [if_neg hstays, ih h]
      have hsame : (if c.name = name then c.values else b) = b := by
        split
        · rename_i hname
          by_contra hdiffers
          exact hstays ⟨hname, hdiffers⟩
        · rfl
      rw [hsame]

end Change

/-! ## Records -/

namespace Record

/-- How often changes that another portlet caused switch the binding of a name. -/
def switches (r : Record) (changes : List Change) (name : String) : Nat :=
  if r.isPublic name then Change.switches name changes (r.state.parameters.get? name) else 0

/-- A name is renewed as often as its binding switches. -/
theorem count_renewed (r : Record) (changes : List Change) (name : String) :
    (r.renewed changes).count name = r.switches changes name := by
  rw [renewed, Change.count_applyAllNaming, Change.switches_filter, switches]

/-- A name whose binding switches at most once has another binding in the end exactly if
it switches. -/
theorem switches_eq_one_iff {r : Record} {changes : List Change} {name : String}
    (h : r.switches changes name ≤ 1) :
    r.switches changes name = 1 ↔
      r.state.parameters.get? name ≠ (r.receive changes).2.state.parameters.get? name := by
  rw [get?_receive]
  rw [switches] at h ⊢
  by_cases hpublic : r.isPublic name = true
  · rw [if_pos hpublic] at h ⊢
    rw [if_pos hpublic, Change.switches_eq_one_iff h, ne_comm]
  · simp [hpublic]

/-- What is told of a record is what has become of its state: there is news exactly if
the state is another one, and the news lists the names whose bindings are others, each
of them once. -/
structure ToldExactly (r : Record) (after : RenderState) (news : List StateChange) : Prop where
  told_iff : news ≠ [] ↔ after.agrees r.state = false
  nodup : ∀ change ∈ news, change.changed.Nodup
  mem_iff : ∀ change ∈ news, ∀ name, name ∈ change.changed ↔
    r.state.parameters.get? name ≠ after.parameters.get? name

/-- Changes that another portlet caused leave mode and window state alone. -/
theorem agrees_receive (r : Record) (changes : List Change) :
    (r.receive changes).2.state.agrees r.state = true ↔ ∀ name,
      r.state.parameters.get? name = (r.receive changes).2.state.parameters.get? name := by
  rw [RenderState.agrees_iff]
  constructor
  · intro h name
    exact (h.2.2 name).symm
  · intro h
    exact ⟨rfl, rfl, fun name => (h name).symm⟩

/-- What a record tells of changes is what has become of it exactly if no binding
switches twice. -/
theorem toldExactly_receive_iff (r : Record) (changes : List Change) :
    r.ToldExactly (r.receive changes).2.state (r.receive changes).1.toList ↔
      ∀ name, r.switches changes name ≤ 1 := by
  have hmem : ∀ name, name ∈ r.renewed changes ↔ 0 < r.switches changes name := by
    intro name
    rw [← count_renewed, List.count_pos_iff]
  rw [receive_fst]
  constructor
  · intro told name
    by_cases hsilent : r.renewed changes = []
    · rw [← count_renewed, hsilent]
      exact Nat.zero_le 1
    · have hnodup := told.nodup
      rw [if_neg hsilent] at hnodup
      rw [← count_renewed]
      exact List.nodup_iff_count_le_one.mp (hnodup _ (List.mem_singleton.mpr rfl)) name
  · intro once
    -- then the names that are listed are those whose bindings differ
    have hdiffers : ∀ name, name ∈ r.renewed changes ↔
        r.state.parameters.get? name ≠ (r.receive changes).2.state.parameters.get? name := by
      intro name
      rw [hmem, ← switches_eq_one_iff (once name)]
      have := once name
      omega
    refine ⟨?_, ?_, ?_⟩
    · rw [← Bool.not_eq_true, agrees_receive, not_forall]
      simp only [← hdiffers]
      by_cases hsilent : r.renewed changes = []
      · simp [hsilent]
      · simpa [hsilent] using List.exists_mem_of_ne_nil _ hsilent
    · intro change hchange
      split at hchange
      · cases hchange
      · cases List.mem_singleton.mp hchange
        exact List.nodup_iff_count_le_one.mpr fun name => (count_renewed r changes name) ▸ once name
    · intro change hchange
      split at hchange
      · cases hchange
      · cases List.mem_singleton.mp hchange
        exact hdiffers

end Record

/-! ## Stores -/

namespace Store

/-- What the news of a commit tells of a portlet. -/
def toldOf (id : String) (news : List StateChange) : List StateChange :=
  news.filter fun change => change.portlet = id

/-- Of a portlet that is not the submitter a commit tells what its record tells. -/
theorem toldOf_commit {s : Store} (hids : s.ids.Nodup) {r : Record} (hr : r ∈ s.records)
    {submitter : String} (other : r.portlet.id ≠ submitter) (update : Update)
    (reason : Reason) :
    toldOf r.portlet.id (s.commit submitter update reason).1 =
      (r.receive update.publicChanges).1.toList := by
  have hportlet : ∀ r' : Record, ∀ change ∈ (r'.receive update.publicChanges).1,
      change.portlet = r'.portlet.id := by
    intro r' change hchange
    rw [Record.receive_fst] at hchange
    split at hchange
    · cases hchange
    · cases hchange
      rfl
  -- the submitter's own news is of another portlet
  have hown : toldOf r.portlet.id ((s.records.filter fun r' => r'.portlet.id = submitter).map
      fun r' => (r'.replace update.state reason).1) = [] := by
    rw [toldOf, List.filter_eq_nil_iff]
    intro change hchange
    obtain ⟨r', hr', rfl⟩ := List.mem_map.mp hchange
    have hid : r'.portlet.id = submitter := by simpa using (List.mem_filter.mp hr').2
    simpa [Record.replace, hid] using other.symm
  have hothers : toldOf r.portlet.id (s.newsOfOthers submitter update.publicChanges) =
      ((s.records.filter fun r' => r'.portlet.id = r.portlet.id).filterMap fun r' =>
        (r'.receive update.publicChanges).1) := by
    rw [toldOf, newsOfOthers, List.filter_filterMap, List.filterMap_filter, List.filterMap_filter]
    apply List.filterMap_congr
    intro r' _
    cases hnews : (r'.receive update.publicChanges).1 with
    | none => simp
    | some change =>
      have hportlet := hportlet r' change hnews
      by_cases hid : r'.portlet.id = r.portlet.id
      · simp [hportlet, hid, other]
      · simp [hportlet, hid]
  have hone : (s.records.filter fun r' => r'.portlet.id = r.portlet.id) = [r] :=
    filter_of_nodup_map hids hr
  show toldOf r.portlet.id (_ ++ s.newsOfOthers submitter update.publicChanges) = _
  rw [toldOf, List.filter_append, ← toldOf, ← toldOf, hown, hothers, hone]
  cases hnews : (r.receive update.publicChanges).1 <;> simp [hnews]

/-- Whatever update is granted, what a commit tells of a portlet other than the
submitter is this:

* the name of a public parameter is listed as often as its binding switches while the
  changes are applied one after the other, and there is news if any of them switches;
* the news carries the state that the portlet has then, and there is one at most;
* what is told is exactly what has become of the state if and only if no binding switches
  twice, as it is when the update changes no name twice. -/
theorem told_exactly_iff {page : Page} (valid : page.validate = .ok page) {s : Store}
    (built : s.portlets = page.portlets) (submitter : String) (update : Update)
    (reason : Reason) {r : Record} (hr : r ∈ s.records) (other : r.portlet.id ≠ submitter) :
    ∃ after, (s.commit submitter update reason).2.state? r.portlet.id = some after ∧
      (toldOf r.portlet.id (s.commit submitter update reason).1 ≠ [] ↔
        ∃ name, 0 < r.switches update.publicChanges name) ∧
      (∀ change ∈ toldOf r.portlet.id (s.commit submitter update reason).1,
        change.state = after ∧ change.reason = .publicParameter ∧
          ∀ name, change.changed.count name = r.switches update.publicChanges name) ∧
      (toldOf r.portlet.id (s.commit submitter update reason).1).length ≤ 1 ∧
      (r.ToldExactly after (toldOf r.portlet.id (s.commit submitter update reason).1) ↔
        ∀ name, r.switches update.publicChanges name ≤ 1) ∧
      ((update.publicChanges.map Change.name).Nodup →
        r.ToldExactly after (toldOf r.portlet.id (s.commit submitter update reason).1)) := by
  have hids : s.ids.Nodup := by
    rw [ids_eq, built]
    exact (Page.nodup_ids_of_validate valid).2
  have hexact := r.toldExactly_receive_iff update.publicChanges
  rw [toldOf_commit hids hr other]
  refine ⟨_, state?_commit_other hids hr other update reason, ?_, ?_, ?_, hexact, ?_⟩
  · rw [Record.receive_fst]
    simp only [← Record.count_renewed, List.count_pos_iff]
    by_cases hsilent : r.renewed update.publicChanges = []
    · simp [hsilent]
    · simpa [hsilent] using List.exists_mem_of_ne_nil _ hsilent
  · intro change hchange
    rw [Record.receive_fst] at hchange
    split at hchange
    · cases hchange
    · cases List.mem_singleton.mp hchange
      exact ⟨rfl, rfl, r.count_renewed update.publicChanges⟩
  · exact Option.length_toList_le
  · intro hnodup
    refine hexact.mpr fun name => ?_
    rw [← Record.count_renewed]
    exact List.nodup_iff_count_le_one.mp (r.nodup_renewed hnodup) name

/-- The record of the map on the sample page. -/
def mapRecord : Record :=
  .start ⟨"map", [], ["city", "zoom"], ⟨"VIEW", "NORMAL", .ofEntries [("city", [some "Rome"])]⟩⟩

/-- An update that leaves the weather as it is, with changes for the others. -/
def weatherUpdate (changes : List Change) : Update := ⟨⟨"VIEW", "NORMAL", .empty⟩, changes⟩

/-- An update that binds the city twice to the same values is told as what becomes of it. -/
theorem city_is_told_once :
    let s := Sample.hub.store
    let update := weatherUpdate [⟨"city", some [some "Oslo"]⟩, ⟨"zoom", some [some "3"]⟩,
      ⟨"city", some [some "Oslo"]⟩]
    ∃ after, (s.commit "weather" update .submitted).2.state? "map" = some after ∧
      after = ⟨"VIEW", "NORMAL", .ofEntries [("city", [some "Oslo"]), ("zoom", [some "3"])]⟩ ∧
      mapRecord.ToldExactly after (toldOf "map" (s.commit "weather" update .submitted).1) := by
  intro s update
  have valid : Sample.page.validate = .ok Sample.page := rfl
  have hr : mapRecord ∈ s.records := by decide
  obtain ⟨after, hafter, -, -, -, hexact, -⟩ :=
    told_exactly_iff valid (s := s) rfl "weather" update .submitted hr (by decide)
  have hstate : after =
      ⟨"VIEW", "NORMAL", .ofEntries [("city", [some "Oslo"]), ("zoom", [some "3"])]⟩ :=
    (Option.some.inj hafter).symm
  refine ⟨after, hafter, hstate, hexact.mpr fun name => ?_⟩
  -- apart from the city and the zoom no binding is mentioned
  by_cases hcity : name = "city"
  · subst hcity
    decide
  · by_cases hzoom : name = "zoom"
    · subst hzoom
      decide
    · have hnone : mapRecord.switches update.publicChanges name = 0 := by
        simp [Record.switches, update, weatherUpdate, Change.switches, Ne.symm hcity, Ne.symm hzoom]
      omega

/-- The weather's update takes the map's city from Rome to Oslo and back to Rome.  The
map's state is as it was, and yet there is news for the map, which lists the city
twice. -/
theorem change_and_back_is_told :
    let s := Sample.hub.store
    let news := (s.commit "weather" (weatherUpdate
      [⟨"city", some [some "Oslo"]⟩, ⟨"city", some [some "Rome"]⟩]) .submitted)
    Sample.page.validate = .ok Sample.page ∧ s.portlets = Sample.page.portlets ∧
      news.2.state? "map" = s.state? "map" ∧
      (toldOf "map" news.1).map StateChange.changed = [["city", "city"]] ∧
      ¬mapRecord.ToldExactly mapRecord.state (toldOf "map" news.1) := by
  intro s news
  have htold : toldOf "map" news.1 =
      [⟨"map", .publicParameter, mapRecord.state, ["city", "city"], false, false⟩] := by decide
  refine ⟨rfl, rfl, by decide, by rw [htold]; rfl, ?_⟩
  rw [htold]
  intro told
  exact absurd (told.nodup _ (List.mem_singleton.mpr rfl)) (by decide)

end Store

end PortletPage
