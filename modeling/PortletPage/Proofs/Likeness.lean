import PortletPage.Proofs.News
import PortletPage.Proofs.Simulated

/-!
# Likeness

Two stores of one page are alike but for the private matters of a portlet `X` if
they show the same to everyone else: every other portlet's states agree, and the
states of `X` bind alike the names that `X` shares.  Nothing is said of the mode,
the window state and the other bindings of `X`.

* `Change.Same`: two lists ask for the same changes, in whatever order.  What a
  server passes on is known up to order only, as it depends on the order in which
  a submitted state lists its parameters.
* `Record.Alike` and `Store.Alike`: the relation, for records and for stores.
* `Store.Alike.commit`: updates that are alike keep stores alike, and what the
  others are told of them is alike as well.
-/

namespace PortletPage

/-! ## Lists of changes -/

namespace Change

/-- Two lists ask for the same, and for nothing twice. -/
structure Same (changes changes' : List Change) : Prop where
  nodup : (changes.map Change.name).Nodup
  nodup_right : (changes'.map Change.name).Nodup
  mem_iff : ∀ c, c ∈ changes ↔ c ∈ changes'

theorem Same.last?_eq {changes changes' : List Change} (h : Same changes changes')
    (name : String) : last? changes name = last? changes' name := by
  apply Option.ext
  intro values
  rw [last?_eq_some_iff h.nodup, last?_eq_some_iff h.nodup_right, h.mem_iff]

end Change

/-! ## Records and stores -/

/-- Two records of a portlet are alike but for what is private to `X`. -/
structure Record.Alike (X : Portlet) (r r' : Record) : Prop where
  portlet : r'.portlet = r.portlet
  known : r.portlet.id = X.id → r.portlet = X
  /-- What `X` shares is alike. -/
  shared : r.portlet.id = X.id → ∀ name, X.isPublic name = true →
    r.state.parameters.get? name = r'.state.parameters.get? name
  /-- The states of other portlets agree. -/
  whole : r.portlet.id ≠ X.id → r.state.agrees r'.state = true

/-- Two stores are alike but for what is private to `X`. -/
def Store.Alike (X : Portlet) (s s' : Store) : Prop :=
  List.Forall₂ (Record.Alike X) s.records s'.records

/-- Two news of a portlet are alike: the names that they list may come in another
order. -/
structure StateChange.Alike (c c' : StateChange) : Prop where
  portlet : c.portlet = c'.portlet
  reason : c.reason = c'.reason
  state : c.state.agrees c'.state = true
  changed : ∀ name, name ∈ c.changed ↔ name ∈ c'.changed
  modeChanged : c.modeChanged = c'.modeChanged
  windowChanged : c.windowChanged = c'.windowChanged

/-- The news of portlets other than `X`. -/
def StateChange.ofOthers (X : Portlet) (news : List StateChange) : List StateChange :=
  news.filter fun c => c.portlet ≠ X.id

/-- Two updates for the portlet `submitter` are alike but for what is private to
`X`. -/
structure Update.Alike (X : Portlet) (submitter : String) (update update' : Update) : Prop where
  changes : Change.Same update.publicChanges update'.publicChanges
  shared : submitter = X.id → ∀ name, X.isPublic name = true →
    update.state.parameters.get? name = update'.state.parameters.get? name
  whole : submitter ≠ X.id → update.state.agrees update'.state = true

namespace Record.Alike

variable {X : Portlet} {r r' : Record}

theorem isPublic_eq (h : r.Alike X r') (name : String) : r'.isPublic name = r.isPublic name := by
  rw [Record.isPublic, Record.isPublic, h.portlet]

/-- Whatever a portlet declares public is bound alike. -/
theorem get?_eq (h : r.Alike X r') {name : String} (hpublic : r.isPublic name = true) :
    r.state.parameters.get? name = r'.state.parameters.get? name := by
  by_cases hid : r.portlet.id = X.id
  · rw [Record.isPublic, h.known hid] at hpublic
    exact h.shared hid name hpublic
  · exact ((RenderState.agrees_iff _ _).mp (h.whole hid)).2.2 name

/-- The same changes leave records alike. -/
theorem receive (h : r.Alike X r') {changes changes' : List Change}
    (hsame : Change.Same changes changes') :
    (r.receive changes).2.Alike X (r'.receive changes').2 := by
  have hpublic : ∀ name, r.isPublic name = true →
      (r.receive changes).2.state.parameters.get? name =
        (r'.receive changes').2.state.parameters.get? name := by
    intro name hpublic
    rw [get?_receive, get?_receive, h.isPublic_eq, if_pos hpublic, if_pos hpublic,
      hsame.last?_eq, h.get?_eq hpublic]
  refine ⟨h.portlet, h.known, ?_, ?_⟩
  · intro hid name hname
    exact hpublic name (by rw [Record.isPublic, h.known hid]; exact hname)
  · intro hid
    obtain ⟨hmode, hwindow, hget⟩ := (RenderState.agrees_iff _ _).mp (h.whole hid)
    refine (RenderState.agrees_iff _ _).mpr ⟨hmode, hwindow, ?_⟩
    intro name
    by_cases hname : r.isPublic name = true
    · exact hpublic name hname
    · rw [get?_receive, get?_receive, h.isPublic_eq, if_neg hname, if_neg hname]
      exact hget name

/-- The same changes are news to both. -/
theorem mem_renewed_iff (h : r.Alike X r') {changes changes' : List Change}
    (hsame : Change.Same changes changes') (name : String) :
    name ∈ r.renewed changes ↔ name ∈ r'.renewed changes' := by
  rw [mem_renewed r hsame.nodup, mem_renewed r' hsame.nodup_right, h.isPublic_eq]
  apply and_congr_right
  intro hpublic
  rw [h.get?_eq hpublic]
  simp only [hsame.mem_iff]

/-- Updates that are alike leave records alike. -/
theorem follow (h : r.Alike X r') {submitter : String} {update update' : Update}
    (halike : update.Alike X submitter update') :
    (r.follow submitter update).Alike X (r'.follow submitter update') := by
  by_cases hid : r.portlet.id = submitter
  · have hid' : r'.portlet.id = submitter := by rw [h.portlet, hid]
    rw [Record.follow, Record.follow, if_pos hid, if_pos hid']
    exact ⟨h.portlet, h.known, fun hX => halike.shared (hid ▸ hX),
      fun hX => halike.whole (hid ▸ hX)⟩
  · have hid' : r'.portlet.id ≠ submitter := by rw [h.portlet]; exact hid
    rw [follow_other hid, follow_other hid']
    exact h.receive halike.changes

/-- What a submitter other than `X` is told is alike. -/
theorem replace (h : r.Alike X r') (hid : r.portlet.id ≠ X.id) {state state' : RenderState}
    (hstate : state.agrees state' = true) (reason : Reason) :
    (r.replace state reason).1.Alike (r'.replace state' reason).1 := by
  obtain ⟨hmode, hwindow, hget⟩ := (RenderState.agrees_iff _ _).mp (h.whole hid)
  obtain ⟨hmode', hwindow', hget'⟩ := (RenderState.agrees_iff _ _).mp hstate
  refine ⟨?_, rfl, hstate, ?_, ?_, ?_⟩
  · show r.portlet.id = r'.portlet.id
    rw [h.portlet]
  · intro name
    show name ∈ r.state.parameters.changedNames state.parameters ↔
      name ∈ r'.state.parameters.changedNames state'.parameters
    rw [Parameters.mem_changedNames, Parameters.mem_changedNames, hget, hget']
  · show (r.state.mode != state.mode) = (r'.state.mode != state'.mode)
    rw [hmode, hmode']
  · show (r.state.window != state.window) = (r'.state.window != state'.window)
    rw [hwindow, hwindow']

end Record.Alike

namespace Store

variable {X : Portlet}

/-- What the submitter is told is alike, unless it is `X`. -/
theorem alike_replace {records records' : List Record}
    (h : List.Forall₂ (Record.Alike X) records records') {submitter : String}
    {update update' : Update} (halike : update.Alike X submitter update') (reason : Reason) :
    List.Forall₂ StateChange.Alike
      (StateChange.ofOthers X ((records.filter fun r => r.portlet.id = submitter).map fun r =>
        (r.replace update.state reason).1))
      (StateChange.ofOthers X ((records'.filter fun r => r.portlet.id = submitter).map fun r =>
        (r.replace update'.state reason).1)) := by
  induction h with
  | nil => exact .nil
  | @cons r r' records records' hr _ ih =>
    have hid : r'.portlet.id = r.portlet.id := by rw [hr.portlet]
    by_cases hsubmitter : r.portlet.id = submitter
    · rw [List.filter_cons_of_pos (by simpa using hsubmitter),
        List.filter_cons_of_pos (by simpa [hid] using hsubmitter), List.map_cons, List.map_cons]
      by_cases hX : r.portlet.id = X.id
      · rw [StateChange.ofOthers, StateChange.ofOthers,
          List.filter_cons_of_neg (by simp [Record.replace, hX]),
          List.filter_cons_of_neg (by simp [Record.replace, hid, hX])]
        exact ih
      · rw [StateChange.ofOthers, StateChange.ofOthers,
          List.filter_cons_of_pos (by simp [Record.replace, hX]),
          List.filter_cons_of_pos (by simp [Record.replace, hid, hX])]
        exact .cons (hr.replace hX (halike.whole (hsubmitter ▸ hX)) reason) ih
    · rw [List.filter_cons_of_neg (by simpa using hsubmitter),
        List.filter_cons_of_neg (by simpa [hid] using hsubmitter)]
      exact ih

/-- What the others are told is alike. -/
theorem alike_receive {records records' : List Record}
    (h : List.Forall₂ (Record.Alike X) records records') {changes changes' : List Change}
    (hsame : Change.Same changes changes') :
    List.Forall₂ StateChange.Alike
      (StateChange.ofOthers X (records.filterMap fun r => (r.receive changes).1))
      (StateChange.ofOthers X (records'.filterMap fun r => (r.receive changes').1)) := by
  induction h with
  | nil => exact .nil
  | @cons r r' records records' hr _ ih =>
    have hid : r'.portlet.id = r.portlet.id := by rw [hr.portlet]
    have hrenewed := hr.mem_renewed_iff hsame
    by_cases hsilent : r.renewed changes = []
    · have hsilent' : r'.renewed changes' = [] := by
        rw [List.eq_nil_iff_forall_not_mem]
        intro name hname
        rw [← hrenewed, hsilent] at hname
        cases hname
      rw [List.filterMap_cons_none (by rw [Record.receive_fst, if_pos hsilent]),
        List.filterMap_cons_none (by rw [Record.receive_fst, if_pos hsilent'])]
      exact ih
    · have hsilent' : r'.renewed changes' ≠ [] := by
        obtain ⟨name, hname⟩ := List.exists_mem_of_ne_nil _ hsilent
        exact List.ne_nil_of_mem ((hrenewed name).mp hname)
      rw [List.filterMap_cons_some (by rw [Record.receive_fst, if_neg hsilent]),
        List.filterMap_cons_some (by rw [Record.receive_fst, if_neg hsilent'])]
      by_cases hX : r.portlet.id = X.id
      · rw [StateChange.ofOthers, StateChange.ofOthers,
          List.filter_cons_of_neg (by simpa using hX),
          List.filter_cons_of_neg (by simpa [hid] using hX)]
        exact ih
      · rw [StateChange.ofOthers, StateChange.ofOthers,
          List.filter_cons_of_pos (by simpa using hX),
          List.filter_cons_of_pos (by simpa [hid] using hX)]
        exact .cons ⟨hid.symm, rfl, (hr.receive hsame).whole hX, hrenewed, rfl, rfl⟩ ih

/-- Updates that are alike keep stores alike, and so is what the portlets other
than `X` are told of them. -/
theorem Alike.commit {s s' : Store} (h : s.Alike X s') {submitter : String}
    {update update' : Update} (halike : update.Alike X submitter update') (reason : Reason) :
    (s.commit submitter update reason).2.Alike X (s'.commit submitter update' reason).2 ∧
      List.Forall₂ StateChange.Alike
        (StateChange.ofOthers X (s.commit submitter update reason).1)
        (StateChange.ofOthers X (s'.commit submitter update' reason).1) := by
  refine ⟨?_, ?_⟩
  · rw [Store.Alike, records_commit, records_commit, List.forall₂_map_left_iff,
      List.forall₂_map_right_iff]
    exact h.imp fun r r' hr => hr.follow halike
  · have hothers : List.Forall₂ (Record.Alike X)
        (s.records.filter fun r => r.portlet.id ≠ submitter)
        (s'.records.filter fun r => r.portlet.id ≠ submitter) :=
      List.rel_filter (fun r r' hr => by simp [hr.portlet]) h
    have hnews : ∀ (t : Store) (u : Update),
        StateChange.ofOthers X (t.commit submitter u reason).1 =
          StateChange.ofOthers X ((t.records.filter fun r => r.portlet.id = submitter).map
            fun r => (r.replace u.state reason).1) ++
            StateChange.ofOthers X (t.newsOfOthers submitter u.publicChanges) :=
      fun t u => List.filter_append _ _
    rw [hnews, hnews]
    exact List.rel_append (alike_replace h halike reason) (alike_receive hothers halike.changes)

end Store

end PortletPage
