import PortletPage.Proofs.Rewording

/-!
# Readers of other words

Every reader of a record reads it in other words, and refuses it if a field stands twice.

* For each type one lemma says what its reader does (`Update.read_eq_some_iff` and the
  like): it finds the fields of a record and reads them one by one.  Both directions are
  used: with the fields that show, the value is read; and from a record that was read, each
  part was read.
* So the reader is tolerant (`Update.tolerant` and the like).  A reader of larger records
  is made of those of their parts.
* `WireType.tolerant` puts the types together.
-/

namespace PortletPage

open Json

/-! ## States and changes -/

theorem Parameters.tolerant : Tolerant .plain Parameters.toJson Document.parameters :=
  .plain Parameters.lossless

namespace RenderState

theorem read_eq_some_iff {j : Json} {s : RenderState} :
    Document.renderState j = some s ↔
      ∃ f, (Document.fields Form.renderState.names j : Option (Fields Json)) = some f ∧
        f.withDefault "portletMode" "" Document.text = some s.mode ∧
        f.withDefault "windowState" "" Document.text = some s.window ∧
        f.withDefault "parameters" .empty Document.parameters = some s.parameters := by
  obtain ⟨mode, window, parameters⟩ := s
  simp [Document.renderState, Form.names, Option.bind_eq_some_iff]

theorem tolerant : Tolerant (.record .renderState) RenderState.toJson Document.renderState where
  toLossless := RenderState.lossless
  read_of_rewords s j h := by
    obtain ⟨f, hf, -, hshows, -⟩ := h.shows (List.Sublist.refl _)
    simp only [List.forall_mem_cons] at hshows
    obtain ⟨hmode, hwindow, hparameters, -⟩ := hshows
    refine read_eq_some_iff.mpr ⟨f, hf, ?_, ?_, ?_⟩
    · exact (Tolerant.plain .text).withDefault hmode rfl rfl
    · exact (Tolerant.plain .text).withDefault hwindow rfl rfl
    · exact Parameters.tolerant.withDefault hparameters rfl rfl
  read_of_doubled := read_of_doubled_of_parts fun j s h => by
    obtain ⟨f, hf, -⟩ := read_eq_some_iff.mp h
    exact ⟨f, hf, List.forall_mem_nil _⟩

end RenderState

namespace Change

theorem read_eq_some_iff {j : Json} {c : Change} :
    toChange? j = some c ↔
      ∃ f, (Document.fields Form.change.names j : Option (Fields Json)) = some f ∧
        f.required "name" Document.text = some c.name ∧
        f.optional "values" toValuesOrNull? = some c.values := by
  obtain ⟨name, values⟩ := c
  simp [toChange?, Form.names, Option.bind_eq_some_iff]

theorem tolerant : Tolerant (.record .change) Change.toJson toChange? where
  toLossless := Change.lossless
  read_of_rewords c j h := by
    rw [toJson_eq] at h
    obtain ⟨f, hf, hnamed, hshows, -⟩ := h.shows (List.Sublist.refl _)
    simp only [List.forall_mem_cons] at hshows
    obtain ⟨hname, hvalues, -⟩ := hshows
    refine read_eq_some_iff.mpr ⟨f, hf, ?_, ?_⟩
    · exact (Tolerant.plain .text).required hname rfl rfl
    · exact (Tolerant.plain .valuesOrNull).optional hvalues rfl hnamed rfl
  read_of_doubled := read_of_doubled_of_parts fun j c h => by
    obtain ⟨f, hf, -⟩ := read_eq_some_iff.mp h
    exact ⟨f, hf, List.forall_mem_nil _⟩

theorem tolerant_list : Tolerant (.list .change) ofChanges toChanges? := tolerant.list

end Change

namespace Delta

theorem read_eq_some_iff {j : Json} {d : Delta} :
    toDelta? j = some d ↔
      ∃ f, (Document.fields Form.delta.names j : Option (Fields Json)) = some f ∧
        f.withDefault "portlet_mode" none Document.textOrNull = some d.mode ∧
        f.withDefault "window_state" none Document.textOrNull = some d.window ∧
        f.withDefault "private_parameters" [] toChanges? = some d.privateChanges ∧
        f.withDefault "public_parameters" [] toChanges? = some d.publicChanges := by
  obtain ⟨mode, window, privateChanges, publicChanges⟩ := d
  simp [toDelta?, Form.names, Option.bind_eq_some_iff]

/-- The members of a field that is written only if it has a value. -/
def given (name : String) : Option String → List (String × Json)
  | some s => [(name, .str s)]
  | none => []

theorem toJson_eq (d : Delta) :
    d.toJson = .record (given "portlet_mode" d.mode ++ (given "window_state" d.window ++
      [("private_parameters", ofChanges d.privateChanges),
        ("public_parameters", ofChanges d.publicChanges)])) := by
  obtain ⟨mode, window, privateChanges, publicChanges⟩ := d
  cases mode <;> cases window <;> rfl

theorem names_given (name : String) (v : Option String) :
    ((given name v).map Prod.fst).Sublist [name] := by
  cases v with
  | none => exact List.nil_sublist _
  | some s => exact List.Sublist.refl _

/-- A mode or window state that is not changed is not written, and shows as a null. -/
theorem shows_of_given {f : Fields Json} {name : String} {v : Option String}
    (hdefault : Form.delta.default? name = some .null)
    (hshows : ∀ m ∈ given name v, Shows .delta f m.1 m.2)
    (habsent : v = none → f.find name = none) : Shows .delta f name (ofTextOrNull v) := by
  cases v with
  | none => exact .inr ⟨habsent rfl, hdefault⟩
  | some s => exact hshows (name, .str s) (List.mem_singleton_self _)

theorem tolerant : Tolerant (.record .delta) Delta.toJson toDelta? where
  toLossless := Delta.lossless
  read_of_rewords d j h := by
    rw [toJson_eq] at h
    obtain ⟨f, hf, -, hshows, habsent⟩ := h.shows (by
      rw [List.map_append, List.map_append]
      exact (names_given _ _).append ((names_given _ _).append (List.Sublist.refl _)))
    simp only [List.forall_mem_append, List.forall_mem_cons] at hshows
    obtain ⟨hmode, hwindow, hprivate, hpublic, -⟩ := hshows
    have hnomode : d.mode = none → f.find "portlet_mode" = none := by
      intro hnone
      refine habsent _ (by decide) ?_
      cases d.window <;> simp [hnone, given]
    have hnowindow : d.window = none → f.find "window_state" = none := by
      intro hnone
      refine habsent _ (by decide) ?_
      cases d.mode <;> simp [hnone, given]
    refine read_eq_some_iff.mpr ⟨f, hf, ?_, ?_, ?_, ?_⟩
    · exact (Tolerant.plain .textOrNull).withDefault (shows_of_given rfl hmode hnomode) rfl rfl
    · exact (Tolerant.plain .textOrNull).withDefault (shows_of_given rfl hwindow hnowindow) rfl rfl
    · exact Change.tolerant_list.withDefault hprivate rfl rfl
    · exact Change.tolerant_list.withDefault hpublic rfl rfl
  read_of_doubled := read_of_doubled_of_parts fun j d h => by
    obtain ⟨f, hf, -, -, hprivate, hpublic⟩ := read_eq_some_iff.mp h
    refine ⟨f, hf, ?_⟩
    simp only [Form.parts, List.forall_mem_cons]
    exact ⟨Change.tolerant_list.not_doubled_of_withDefault hprivate,
      Change.tolerant_list.not_doubled_of_withDefault hpublic, List.forall_mem_nil _⟩

end Delta

/-! ## Submissions and answers -/

namespace StateSubmission

theorem read_eq_some_iff {j : Json} {s : StateSubmission} :
    toStateSubmission? j = some s ↔
      ∃ f, (Document.fields Form.stateSubmission.names j : Option (Fields Json)) = some f ∧
        f.required "portlet_id" Document.text = some s.portlet ∧
        f.required "delta" toDelta? = some s.delta ∧
        f.required "state" toRenderState? = some s.state := by
  obtain ⟨portlet, delta, state⟩ := s
  simp [toStateSubmission?, Form.names, Option.bind_eq_some_iff]

theorem tolerant :
    Tolerant (.record .stateSubmission) StateSubmission.toJson toStateSubmission? where
  toLossless := StateSubmission.lossless
  read_of_rewords s j h := by
    obtain ⟨f, hf, -, hshows, -⟩ := h.shows (List.Sublist.refl _)
    simp only [List.forall_mem_cons] at hshows
    obtain ⟨hportlet, hdelta, hstate, -⟩ := hshows
    refine read_eq_some_iff.mpr ⟨f, hf, ?_, ?_, ?_⟩
    · exact (Tolerant.plain .text).required hportlet rfl rfl
    · exact Delta.tolerant.required hdelta rfl rfl
    · exact RenderState.tolerant.required hstate rfl rfl
  read_of_doubled := read_of_doubled_of_parts fun j s h => by
    obtain ⟨f, hf, -, hdelta, hstate⟩ := read_eq_some_iff.mp h
    refine ⟨f, hf, ?_⟩
    simp only [Form.parts, List.forall_mem_cons]
    exact ⟨Delta.tolerant.not_doubled_of_required hdelta,
      RenderState.tolerant.not_doubled_of_required hstate, List.forall_mem_nil _⟩

end StateSubmission

namespace ActionSubmission

theorem read_eq_some_iff {j : Json} {a : ActionSubmission} :
    toActionSubmission? j = some a ↔
      ∃ f, (Document.fields Form.actionSubmission.names j : Option (Fields Json)) = some f ∧
        f.required "portlet_id" Document.text = some a.portlet ∧
        f.required "action_parameters" toParameters? = some a.parameters ∧
        f.required "state" toRenderState? = some a.state ∧
        f.required "public_parameters" toNames? = some a.publicNames := by
  obtain ⟨portlet, parameters, state, publicNames⟩ := a
  simp [toActionSubmission?, Form.names, Option.bind_eq_some_iff]

theorem tolerant :
    Tolerant (.record .actionSubmission) ActionSubmission.toJson toActionSubmission? where
  toLossless := ActionSubmission.lossless
  read_of_rewords a j h := by
    obtain ⟨f, hf, -, hshows, -⟩ := h.shows (List.Sublist.refl _)
    simp only [List.forall_mem_cons] at hshows
    obtain ⟨hportlet, hparameters, hstate, hnames, -⟩ := hshows
    refine read_eq_some_iff.mpr ⟨f, hf, ?_, ?_, ?_, ?_⟩
    · exact (Tolerant.plain .text).required hportlet rfl rfl
    · exact Parameters.tolerant.required hparameters rfl rfl
    · exact RenderState.tolerant.required hstate rfl rfl
    · exact (Tolerant.plain .names).required hnames rfl rfl
  read_of_doubled := read_of_doubled_of_parts fun j a h => by
    obtain ⟨f, hf, -, -, hstate, -⟩ := read_eq_some_iff.mp h
    refine ⟨f, hf, ?_⟩
    simp only [Form.parts, List.forall_mem_cons]
    exact ⟨RenderState.tolerant.not_doubled_of_required hstate, List.forall_mem_nil _⟩

end ActionSubmission

namespace Update

theorem read_eq_some_iff {j : Json} {u : Update} :
    toUpdate? j = some u ↔
      ∃ f, (Document.fields Form.update.names j : Option (Fields Json)) = some f ∧
        f.required "state" toRenderState? = some u.state ∧
        f.withDefault "public_parameters" [] toChanges? = some u.publicChanges := by
  obtain ⟨state, publicChanges⟩ := u
  simp [toUpdate?, Form.names, Option.bind_eq_some_iff]

theorem tolerant : Tolerant (.record .update) Update.toJson toUpdate? where
  toLossless := Update.lossless
  read_of_rewords u j h := by
    obtain ⟨f, hf, -, hshows, -⟩ := h.shows (List.Sublist.refl _)
    simp only [List.forall_mem_cons] at hshows
    obtain ⟨hstate, hpublic, -⟩ := hshows
    refine read_eq_some_iff.mpr ⟨f, hf, ?_, ?_⟩
    · exact RenderState.tolerant.required hstate rfl rfl
    · exact Change.tolerant_list.withDefault hpublic rfl rfl
  read_of_doubled := read_of_doubled_of_parts fun j u h => by
    obtain ⟨f, hf, hstate, hpublic⟩ := read_eq_some_iff.mp h
    refine ⟨f, hf, ?_⟩
    simp only [Form.parts, List.forall_mem_cons]
    exact ⟨RenderState.tolerant.not_doubled_of_required hstate,
      Change.tolerant_list.not_doubled_of_withDefault hpublic, List.forall_mem_nil _⟩

end Update

namespace Outcome

theorem read_eq_some_iff {j : Json} {o : Outcome} :
    toOutcome? j = some o ↔
      ∃ f, (Document.fields Form.outcome.names j : Option (Fields Json)) = some f ∧
        f.required "state" toRenderState? = some o.state ∧
        f.required "notified_portlets" toNames? = some o.notified := by
  obtain ⟨state, notified⟩ := o
  simp [toOutcome?, Form.names, Option.bind_eq_some_iff]

theorem tolerant : Tolerant (.record .outcome) Outcome.toJson toOutcome? where
  toLossless := Outcome.lossless
  read_of_rewords o j h := by
    obtain ⟨f, hf, -, hshows, -⟩ := h.shows (List.Sublist.refl _)
    simp only [List.forall_mem_cons] at hshows
    obtain ⟨hstate, hnotified, -⟩ := hshows
    refine read_eq_some_iff.mpr ⟨f, hf, ?_, ?_⟩
    · exact RenderState.tolerant.required hstate rfl rfl
    · exact (Tolerant.plain .names).required hnotified rfl rfl
  read_of_doubled := read_of_doubled_of_parts fun j o h => by
    obtain ⟨f, hf, hstate, -⟩ := read_eq_some_iff.mp h
    refine ⟨f, hf, ?_⟩
    simp only [Form.parts, List.forall_mem_cons]
    exact ⟨RenderState.tolerant.not_doubled_of_required hstate, List.forall_mem_nil _⟩

end Outcome

/-! ## Pages and configurations -/

namespace Portlet

theorem read_eq_some_iff {j : Json} {p : Portlet} :
    Document.portlet j = some p ↔
      ∃ f, (Document.fields Form.portlet.names j : Option (Fields Json)) = some f ∧
        f.required "id" Document.text = some p.id ∧
        f.withDefault "private_parameters" [] Document.nameList = some p.privateNames ∧
        f.withDefault "public_parameters" [] Document.nameList = some p.publicNames ∧
        f.withDefault "state" .empty Document.renderState = some p.state := by
  obtain ⟨id, privateNames, publicNames, state⟩ := p
  simp [Document.portlet, Form.names, Option.bind_eq_some_iff]

theorem tolerant : Tolerant (.record .portlet) Portlet.toJson Document.portlet where
  toLossless := Portlet.lossless
  read_of_rewords p j h := by
    obtain ⟨f, hf, -, hshows, -⟩ := h.shows (List.Sublist.refl _)
    simp only [List.forall_mem_cons] at hshows
    obtain ⟨hid, hprivate, hpublic, hstate, -⟩ := hshows
    refine read_eq_some_iff.mpr ⟨f, hf, ?_, ?_, ?_, ?_⟩
    · exact (Tolerant.plain .text).required hid rfl rfl
    · exact (Tolerant.plain .names).withDefault hprivate rfl rfl
    · exact (Tolerant.plain .names).withDefault hpublic rfl rfl
    · exact RenderState.tolerant.withDefault hstate rfl rfl
  read_of_doubled := read_of_doubled_of_parts fun j p h => by
    obtain ⟨f, hf, -, -, -, hstate⟩ := read_eq_some_iff.mp h
    refine ⟨f, hf, ?_⟩
    simp only [Form.parts, List.forall_mem_cons]
    exact ⟨RenderState.tolerant.not_doubled_of_withDefault hstate,
      List.forall_mem_nil _⟩

end Portlet

namespace Page

theorem read_eq_some_iff {j : Json} {p : Page} :
    Document.page j = some p ↔
      ∃ f, (Document.fields Form.page.names j : Option (Fields Json)) = some f ∧
        (f.withDefault "portlets" [] fun j => do (← Document.items j).mapM Document.portlet) =
          some p.portlets := by
  obtain ⟨portlets⟩ := p
  simp [Document.page, Form.names, Option.bind_eq_some_iff]

theorem tolerant : Tolerant (.record .page) Page.toJson Document.page where
  toLossless := Page.lossless
  read_of_rewords p j h := by
    obtain ⟨f, hf, -, hshows, -⟩ := h.shows (List.Sublist.refl _)
    simp only [List.forall_mem_cons] at hshows
    exact read_eq_some_iff.mpr ⟨f, hf, Portlet.tolerant.list.withDefault hshows.1 rfl rfl⟩
  read_of_doubled := read_of_doubled_of_parts fun j p h => by
    obtain ⟨f, hf, hportlets⟩ := read_eq_some_iff.mp h
    refine ⟨f, hf, ?_⟩
    simp only [Form.parts, List.forall_mem_cons]
    exact ⟨Portlet.tolerant.list.not_doubled_of_withDefault hportlets,
      List.forall_mem_nil _⟩

end Page

namespace Config

theorem read_eq_some_iff {j : Json} {c : Config} :
    Document.config j = some c ↔
      ∃ f, (Document.fields Form.config.names j : Option (Fields Json)) = some f ∧
        f.withDefault "default_portlet_mode" "" Document.text = some c.mode ∧
        f.withDefault "default_window_state" "" Document.text = some c.window ∧
        f.withDefault "emit_initial_state" true Document.flag = some c.announceInitial := by
  obtain ⟨mode, window, announceInitial⟩ := c
  cases announceInitial <;> simp [Document.config, Form.names, Option.bind_eq_some_iff]

theorem tolerant : Tolerant (.record .config) Config.toJson Document.config where
  toLossless := Config.lossless
  read_of_rewords c j h := by
    obtain ⟨f, hf, -, hshows, -⟩ := h.shows (List.Sublist.refl _)
    simp only [List.forall_mem_cons] at hshows
    obtain ⟨hmode, hwindow, hannounce, -⟩ := hshows
    refine read_eq_some_iff.mpr ⟨f, hf, ?_, ?_, ?_⟩
    · exact (Tolerant.plain .text).withDefault hmode rfl rfl
    · exact (Tolerant.plain .text).withDefault hwindow rfl rfl
    · exact (Tolerant.plain .flag).withDefault hannounce rfl rfl
  read_of_doubled := read_of_doubled_of_parts fun j c h => by
    obtain ⟨f, hf, -⟩ := read_eq_some_iff.mp h
    exact ⟨f, hf, List.forall_mem_nil _⟩

end Config

/-! ## All types together -/

namespace WireType

/-- What stands where a value of the type is written. -/
def slot : WireType → Slot
  | .parameters | .eventType | .reason => .plain
  | .renderState => .record .renderState
  | .change => .record .change
  | .delta => .record .delta
  | .stateSubmission => .record .stateSubmission
  | .actionSubmission => .record .actionSubmission
  | .update => .record .update
  | .outcome => .record .outcome
  | .portlet => .record .portlet
  | .page => .record .page
  | .config => .record .config

theorem tolerant (t : WireType) : Tolerant t.slot t.toJson t.ofJson? := by
  cases t with
  | parameters => exact Parameters.tolerant
  | renderState => exact RenderState.tolerant
  | change => exact Change.tolerant
  | delta => exact Delta.tolerant
  | stateSubmission => exact StateSubmission.tolerant
  | actionSubmission => exact ActionSubmission.tolerant
  | update => exact Update.tolerant
  | outcome => exact Outcome.tolerant
  | portlet => exact Portlet.tolerant
  | page => exact Page.tolerant
  | config => exact Config.tolerant
  | eventType => exact .plain EventType.lossless
  | reason => exact .plain Reason.lossless

end WireType

end PortletPage
