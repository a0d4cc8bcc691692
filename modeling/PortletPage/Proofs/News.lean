import PortletPage.Proofs.Delta
import PortletPage.Proofs.Records

/-!
# What a commit tells

A commit changes the records of a store and lists the news of it.  There are
three groups of facts.

* The news of one record.  `Record.renewed` are the names whose bindings a list
  of changes changes in a record, and there is news exactly if there are any.
* The news of a store.  `Store.commit_fst` puts the submitter's first, and
  `Store.mem_newsOfOthers` and `portlets_newsOfOthers_sublist` say which follow
  and in what order.
* Pictures.  What a commit does and tells depends on the picture of the store
  alone (`Store.commit_of_picture_eq`).

`Record.Publishes` are the names that a submission changes for other portlets.
The last section says what becomes of them in another record.
-/

namespace PortletPage

/-! ## The news of one record -/

namespace Record

/-- The names whose bindings the changes change, among those that the portlet
declares public. -/
def renewed (r : Record) (changes : List Change) : List String :=
  (Change.applyAllNaming (changes.filter fun c => r.isPublic c.name) r.state.parameters).1

/-- There is news if some binding changes. -/
theorem receive_fst (r : Record) (changes : List Change) :
    (r.receive changes).1 =
      if r.renewed changes = [] then none
      else some ⟨r.portlet.id, .publicParameter, (r.receive changes).2.state,
        r.renewed changes, false, false⟩ := rfl

/-- Changes with distinct names still have them when some are dropped. -/
theorem nodup_names_filter {changes : List Change} (h : (changes.map Change.name).Nodup)
    (p : Change → Bool) : ((changes.filter p).map Change.name).Nodup :=
  h.sublist (List.filter_sublist.map Change.name)

theorem nodup_renewed (r : Record) {changes : List Change}
    (h : (changes.map Change.name).Nodup) : (r.renewed changes).Nodup :=
  Change.nodup_names_applyAllNaming (nodup_names_filter h _) r.state.parameters

/-- A name is renewed if the portlet declares it public and a change asks for
another binding. -/
theorem mem_renewed (r : Record) {changes : List Change}
    (h : (changes.map Change.name).Nodup) (name : String) :
    name ∈ r.renewed changes ↔
      r.isPublic name = true ∧
        ∃ c ∈ changes, c.name = name ∧ r.state.parameters.get? name ≠ c.values := by
  rw [renewed, Change.mem_names_applyAllNaming (nodup_names_filter h _)]
  constructor
  · intro hchange
    obtain ⟨c, hc, hname, hne⟩ := hchange
    rw [List.mem_filter] at hc
    exact ⟨hname ▸ hc.2, c, hc.1, hname, hne⟩
  · intro hpublic
    obtain ⟨hpublic, c, hc, hname, hne⟩ := hpublic
    refine ⟨c, ?_, hname, hne⟩
    rw [List.mem_filter, hname]
    exact ⟨hc, hpublic⟩

/-- A portlet of which there is no news keeps its state. -/
theorem receive_of_silent {r : Record} {changes : List Change}
    (h : r.renewed changes = []) : (r.receive changes).2.state = r.state := by
  have hsame := Change.applyAllNaming_of_silent h
  show ({ r.state with parameters := (Change.applyAllNaming _ _).2 } : RenderState) = r.state
  rw [hsame]

end Record

/-! ## The news of a store -/

namespace Store

/-- The news of the portlets that are not the submitter. -/
def newsOfOthers (s : Store) (submitter : String) (changes : List Change) :
    List StateChange :=
  (s.records.filter fun r => r.portlet.id ≠ submitter).filterMap fun r =>
    (r.receive changes).1

variable {s : Store} {submitter : String} {own : Record}

/-- The submitter's news comes first. -/
theorem commit_fst (hids : s.ids.Nodup) (hown : s.get? submitter = some own)
    (update : Update) (reason : Reason) :
    (s.commit submitter update reason).1 =
      (own.replace update.state reason).1 ::
        s.newsOfOthers submitter update.publicChanges := by
  obtain ⟨hmem, rfl⟩ := mem_of_get? hown
  show (s.records.filter fun r => r.portlet.id = own.portlet.id).map _ ++ _ = _
  have hone : (s.records.filter fun r => r.portlet.id = own.portlet.id) = [own] :=
    filter_of_nodup_map hids hmem
  rw [hone]
  rfl

/-- The news of the others are of their renewed names. -/
theorem mem_newsOfOthers (changes : List Change) (news : StateChange) :
    news ∈ s.newsOfOthers submitter changes ↔
      ∃ r ∈ s.records, r.portlet.id ≠ submitter ∧ r.renewed changes ≠ [] ∧
        news = ⟨r.portlet.id, .publicParameter, (r.receive changes).2.state,
          r.renewed changes, false, false⟩ := by
  simp only [newsOfOthers, List.mem_filterMap, List.mem_filter, decide_eq_true_eq,
    Record.receive_fst]
  constructor
  · intro hnews
    obtain ⟨r, ⟨hr, hid⟩, hnews⟩ := hnews
    split at hnews
    · cases hnews
    · rename_i hrenewed
      cases hnews
      exact ⟨r, hr, hid, hrenewed, rfl⟩
  · intro hrecord
    obtain ⟨r, hr, hid, hrenewed, rfl⟩ := hrecord
    exact ⟨r, ⟨hr, hid⟩, if_neg hrenewed⟩

/-- The news of the others come in the order of the page, one for a portlet. -/
theorem portlets_newsOfOthers_sublist (s : Store) (submitter : String)
    (changes : List Change) :
    ((s.newsOfOthers submitter changes).map StateChange.portlet).Sublist s.ids := by
  have hsub : ∀ records : List Record,
      ((records.filterMap fun r => (r.receive changes).1).map StateChange.portlet).Sublist
        (records.map fun r => r.portlet.id) := by
    intro records
    induction records with
    | nil => exact List.Sublist.refl _
    | cons r rest ih =>
      rw [List.map_cons]
      by_cases hrenewed : r.renewed changes = []
      · rw [List.filterMap_cons_none (by rw [Record.receive_fst, if_pos hrenewed])]
        exact ih.cons _
      · rw [List.filterMap_cons_some (by rw [Record.receive_fst, if_neg hrenewed]),
          List.map_cons]
        exact ih.cons_cons _
  exact (hsub _).trans (List.filter_sublist.map fun r : Record => r.portlet.id)

/-! ## Pictures -/

/-- What a commit does and tells depends on the picture of the store alone. -/
theorem commit_of_picture_eq {s s' : Store} (h : s.picture = s'.picture)
    (submitter : String) (update : Update) (reason : Reason) :
    (s.commit submitter update reason).1 = (s'.commit submitter update reason).1 ∧
      (s.commit submitter update reason).2.picture =
        (s'.commit submitter update reason).2.picture := by
  -- a pair of the picture, taken as a record
  have hnews : ∀ t : Store, (t.commit submitter update reason).1 =
      ((⟨t.picture.map fun p => ⟨p.1, p.2, false⟩⟩ : Store).commit
        submitter update reason).1 := by
    intro t
    simp only [commit, picture, List.map_map, List.filter_map, List.filterMap_map,
      Function.comp_def]
    rfl
  have hpicture : ∀ t : Store, (t.commit submitter update reason).2.picture =
      ((⟨t.picture.map fun p => ⟨p.1, p.2, false⟩⟩ : Store).commit
        submitter update reason).2.picture := by
    intro t
    simp only [picture, records_commit, List.map_map]
    apply List.map_congr_left
    intro r _
    show ((r.follow submitter update).portlet, (r.follow submitter update).state) =
      (((⟨r.portlet, r.state, false⟩ : Record).follow submitter update).portlet,
        ((⟨r.portlet, r.state, false⟩ : Record).follow submitter update).state)
    unfold Record.follow
    split <;> rfl
  rw [hnews s, hnews s', hpicture s, hpicture s', h]
  exact ⟨rfl, rfl⟩

end Store

/-! ## What a submission changes for others -/

namespace Record

/-- The portlet declares the name public and the submitted state binds it
otherwise. -/
def Publishes (own : Record) (submitted : RenderState) (name : String) : Prop :=
  own.isPublic name = true ∧
    own.state.parameters.get? name ≠ submitted.parameters.get? name

instance (own : Record) (submitted : RenderState) (name : String) :
    Decidable (own.Publishes submitted name) :=
  inferInstanceAs (Decidable (_ ∧ _))

variable (own : Record) (submitted : RenderState)

/-- The changes that the server passes on when it grants the submitted state. -/
def publicChanges : List Change :=
  (Delta.between own.state submitted own.isPublic).publicChanges

theorem last?_publicChanges (name : String) :
    Change.last? (own.publicChanges submitted) name =
      if own.Publishes submitted name then some (submitted.parameters.get? name)
      else none :=
  Delta.last?_publicChanges own.state submitted own.isPublic name

theorem nodup_names_publicChanges :
    ((own.publicChanges submitted).map Change.name).Nodup :=
  Delta.nodup_names_publicChanges own.state submitted own.isPublic

/-- Another portlet takes over the submitted bindings of the published names
that it declares public. -/
theorem get?_receive_publicChanges (r : Record) (name : String) :
    (r.receive (own.publicChanges submitted)).2.state.parameters.get? name =
      if own.Publishes submitted name ∧ r.isPublic name = true then
        submitted.parameters.get? name
      else r.state.parameters.get? name := by
  rw [get?_receive, last?_publicChanges]
  by_cases hpublic : r.isPublic name = true
  · by_cases hpublishes : own.Publishes submitted name
    · rw [if_pos hpublic, if_pos hpublishes, if_pos ⟨hpublishes, hpublic⟩]
      rfl
    · rw [if_pos hpublic, if_neg hpublishes, if_neg fun h => hpublishes h.1]
      rfl
  · rw [if_neg hpublic, if_neg fun h => hpublic h.2]

/-- Of these names those are news to it that it has bound otherwise. -/
theorem mem_renewed_publicChanges (r : Record) (name : String) :
    name ∈ r.renewed (own.publicChanges submitted) ↔
      own.Publishes submitted name ∧ r.isPublic name = true ∧
        r.state.parameters.get? name ≠ submitted.parameters.get? name := by
  rw [mem_renewed r (own.nodup_names_publicChanges submitted)]
  constructor
  · intro hrenewed
    obtain ⟨hpublic, c, hc, rfl, hne⟩ := hrenewed
    obtain ⟨hown, hdiffers, hvalues⟩ := (Delta.mem_publicChanges _ _ _ c).mp hc
    rw [hvalues] at hne
    exact ⟨⟨hown, hdiffers⟩, hpublic, hne⟩
  · intro hpublishes
    obtain ⟨⟨hown, hdiffers⟩, hpublic, hne⟩ := hpublishes
    refine ⟨hpublic, ⟨name, submitted.parameters.get? name⟩, ?_, rfl, hne⟩
    exact (Delta.mem_publicChanges _ _ _ _).mpr ⟨hown, hdiffers, rfl⟩

theorem nodup_renewed_publicChanges (r : Record) :
    (r.renewed (own.publicChanges submitted)).Nodup :=
  nodup_renewed r (own.nodup_names_publicChanges submitted)

end Record

end PortletPage
