import PortletPage.Json.Decode
import PortletPage.Json.Encode
import PortletPage.Load
import PortletPage.Proofs.JsonText
import PortletPage.Proofs.Records

/-!
# Values on the wire

Whatever is sent or stored as JSON is read back as it was.  That a value is equal says
that nothing is lost: the order of parameters is part of a container, and an absent name,
a name bound to the empty sequence and a name bound to a null are three different things.

* `Json.Lossless`: a writer and a reader belong together.  Lossless writers and readers
  of items make lossless ones of lists (`Lossless.list`), and the fields of a record are
  found under their names (`Json.fields_record`).
* One theorem for each type says that its writer and reader are lossless.
* `WireType` lists the types, and `WireType.written_values_are_read_back` puts the
  theorems together with `Json.parse_print`.
-/

namespace PortletPage

namespace Json

/-! ## Writers and readers -/

/-- What is written of a value is legible, and the reader makes the value of it. -/
structure Lossless {α : Type} (write : α → Json) (read : Json → Option α) : Prop where
  legible : ∀ v, (write v).isLegible = true
  read_write : ∀ v, read (write v) = some v

theorem isLegibleItems_iff (items : List Json) :
    isLegibleItems items = true ↔ ∀ j ∈ items, j.isLegible = true := by
  induction items with
  | nil => simp [isLegibleItems]
  | cons j items ih => simp [isLegibleItems, ih]

theorem isLegibleMembers_iff (members : List (Option String × Json)) :
    isLegibleMembers members = true ↔ ∀ m ∈ members, m.2.isLegible = true := by
  induction members with
  | nil => simp [isLegibleMembers]
  | cons m members ih => simp [isLegibleMembers, ih]

@[simp] theorem isLegible_array (items : List Json) :
    (array items).isLegible = true ↔ ∀ j ∈ items, j.isLegible = true := by
  rw [isLegible, isLegibleItems_iff]

@[simp] theorem isLegible_record (members : List (String × Json)) :
    (record members).isLegible = true ↔ ∀ m ∈ members, m.2.isLegible = true := by
  rw [record, isLegible, isLegibleMembers_iff]
  simp only [List.forall_mem_map]

/-- Written values are read one after the other. -/
theorem mapM_map_of_read {α β : Type} {write : α → β} {read : β → Option α}
    (h : ∀ v, read (write v) = some v) (values : List α) :
    (values.map write).mapM read = some values := by
  induction values with
  | nil => rfl
  | cons v values ih => simp [h, ih]

namespace Lossless

variable {α : Type} {write : α → Json} {read : Json → Option α}

theorem list (h : Lossless write read) :
    Lossless (fun values => array (values.map write))
      (fun j => do (← Document.items j).mapM read) where
  legible values := by
    rw [isLegible_array, List.forall_mem_map]
    exact fun v _ => h.legible v
  read_write := mapM_map_of_read h.read_write

/-- Different values are written differently. -/
theorem injective (h : Lossless write read) : Function.Injective write := by
  intro v v' hsame
  have hread := h.read_write v
  rw [hsame, h.read_write v'] at hread
  exact (Option.some.inj hread).symm

theorem text : Lossless str Document.text := ⟨fun _ => rfl, fun _ => rfl⟩

theorem flag : Lossless bool Document.flag := ⟨fun _ => rfl, fun _ => rfl⟩

theorem textOrNull : Lossless ofTextOrNull Document.textOrNull where
  legible s := by cases s <;> rfl
  read_write s := by cases s <;> rfl

theorem names : Lossless ofNames Document.nameList := text.list

theorem values : Lossless ofValues Document.values := textOrNull.list

end Lossless

/-- Names that denote texts are taken as those texts. -/
theorem namedMembers_record (members : List (String × Json)) :
    namedMembers (members.map fun member => (some member.1, member.2)) = some members := by
  let write : String × Json → Option String × Json := fun member => (some member.1, member.2)
  let read : Option String × Json → Option (String × Json) :=
    fun member => member.1.map fun name => (name, member.2)
  have hread : ∀ member, read (write member) = some member := fun _ => rfl
  exact mapM_map_of_read hread members

/-- Members are counted by their names. -/
theorem length_filter_name (members : List (String × Json)) (name : String) :
    (members.filter fun member => member.1 == name).length = (members.map Prod.fst).count name := by
  rw [← List.countP_eq_length_filter, List.count, List.countP_map]
  rfl

/-- A record has fields if none of their names stands twice.  A field is then what is found
first under its name. -/
theorem fields_record_eq (names : List String) (members : List (String × Json)) :
    (Document.fields names (record members) : Option (Fields Json)) =
      if ∀ name ∈ names, (members.map Prod.fst).count name ≤ 1 then
        some ⟨true, fun name => (members.find? fun member => member.1 == name).map Prod.snd⟩
      else none := by
  show (namedMembers _ >>= fieldsNamed names) = _
  rw [namedMembers_record]
  show fieldsNamed names members = _
  simp only [fieldsNamed, length_filter_name, List.all_eq_true, decide_eq_true_eq]

/-- The fields of a record with distinct names are found under their names. -/
theorem fields_record (names : List String) {members : List (String × Json)}
    (h : (members.map Prod.fst).Nodup) :
    (Document.fields names (record members) : Option (Fields Json)) =
      some ⟨true, fun name => (members.find? fun member => member.1 == name).map Prod.snd⟩ := by
  rw [fields_record_eq, if_pos]
  exact fun name _ => List.nodup_iff_count_le_one.mp h name

end Json

/-! ## Parameters and states -/

section Types

open Json

theorem Parameters.lossless : Lossless Parameters.toJson Document.parameters where
  legible p := by
    rw [Parameters.toJson, isLegible_record, List.forall_mem_map]
    exact fun entry _ => Lossless.values.legible entry.2
  read_write p := by
    let read : String × Json → Option Entry := fun member => do
      return (member.1, ← Document.values member.2)
    have hentries : (p.entries.map fun entry => (entry.1, ofValues entry.2)).mapM read =
        some p.entries := by
      refine mapM_map_of_read ?_ p.entries
      intro entry
      simp [read, Lossless.values.read_write]
    have htable : (Document.table p.toJson : Option (List (String × Json))) =
        some (p.entries.map fun entry => (entry.1, ofValues entry.2)) := namedMembers_record _
    show ((Document.table p.toJson : Option _) >>= fun table =>
      table.mapM read >>= fun entries => pure (.ofEntries entries)) = some p
    rw [htable]
    show ((p.entries.map _).mapM read >>= fun entries => pure (.ofEntries entries)) = some p
    rw [hentries]
    show some (Parameters.ofEntries p.entries) = some p
    rw [p.ofEntries_entries]

theorem RenderState.lossless : Lossless RenderState.toJson Document.renderState where
  legible s := by simp [RenderState.toJson, Lossless.text.legible, Parameters.lossless.legible]
  read_write s := by
    simp [Document.renderState, RenderState.toJson, fields_record, Fields.withDefault,
      Lossless.text.read_write, Parameters.lossless.read_write]

/-- Values, or null for none. -/
def Json.ofValuesOrNull : Option Values → Json
  | some values => .ofValues values
  | none => .null

theorem Json.Lossless.valuesOrNull : Lossless ofValuesOrNull toValuesOrNull? where
  legible values := by
    cases values with
    | none => rfl
    | some values => exact Lossless.values.legible values
  read_write values := by
    cases values with
    | none => rfl
    | some values =>
      show some <$> Document.values (ofValues values) = some (some values)
      rw [Lossless.values.read_write]
      rfl

theorem Change.toJson_eq (c : Change) :
    c.toJson = .record [("name", .str c.name), ("values", ofValuesOrNull c.values)] := by
  obtain ⟨name, values⟩ := c
  cases values <;> rfl

theorem Change.lossless : Lossless Change.toJson toChange? where
  legible c := by
    simp [Change.toJson_eq, Lossless.text.legible, Lossless.valuesOrNull.legible]
  read_write c := by
    simp [toChange?, Change.toJson_eq, fields_record, Fields.required, Fields.optional,
      Lossless.text.read_write, Lossless.valuesOrNull.read_write]

theorem Change.lossless_list : Lossless ofChanges toChanges? := Change.lossless.list

theorem Delta.lossless : Lossless Delta.toJson toDelta? where
  legible d := by
    obtain ⟨mode, window, privateChanges, publicChanges⟩ := d
    cases mode <;> cases window <;>
      simp [Delta.toJson, Lossless.text.legible, Change.lossless_list.legible]
  read_write d := by
    have htext : ∀ s, (Document.textOrNull (str s) : Option (Option String)) = some (some s) :=
      fun s => rfl
    obtain ⟨mode, window, privateChanges, publicChanges⟩ := d
    cases mode <;> cases window <;>
      simp [toDelta?, Delta.toJson, fields_record, Fields.withDefault, htext,
        Change.lossless_list.read_write]

theorem StateSubmission.lossless : Lossless StateSubmission.toJson toStateSubmission? where
  legible s := by
    simp [StateSubmission.toJson, Lossless.text.legible, Delta.lossless.legible,
      RenderState.lossless.legible]
  read_write s := by
    simp [toStateSubmission?, StateSubmission.toJson, fields_record, Fields.required,
      toRenderState?, Lossless.text.read_write, Delta.lossless.read_write,
      RenderState.lossless.read_write]

theorem ActionSubmission.lossless : Lossless ActionSubmission.toJson toActionSubmission? where
  legible a := by
    simp [ActionSubmission.toJson, Lossless.text.legible, Parameters.lossless.legible,
      RenderState.lossless.legible, Lossless.names.legible]
  read_write a := by
    simp [toActionSubmission?, ActionSubmission.toJson, fields_record, Fields.required,
      toParameters?, toRenderState?, toNames?, Lossless.text.read_write,
      Parameters.lossless.read_write, RenderState.lossless.read_write, Lossless.names.read_write]

theorem Update.lossless : Lossless Update.toJson toUpdate? where
  legible u := by
    simp [Update.toJson, RenderState.lossless.legible, Change.lossless_list.legible]
  read_write u := by
    simp [toUpdate?, Update.toJson, fields_record, Fields.required, Fields.withDefault,
      toRenderState?, RenderState.lossless.read_write, Change.lossless_list.read_write]

theorem Outcome.lossless : Lossless Outcome.toJson toOutcome? where
  legible o := by
    simp [Outcome.toJson, RenderState.lossless.legible, Lossless.names.legible]
  read_write o := by
    simp [toOutcome?, Outcome.toJson, fields_record, Fields.required, toRenderState?, toNames?,
      RenderState.lossless.read_write, Lossless.names.read_write]

/-! ## Pages and configurations -/

theorem Portlet.lossless : Lossless Portlet.toJson Document.portlet where
  legible p := by
    simp [Portlet.toJson, Lossless.text.legible, Lossless.names.legible,
      RenderState.lossless.legible]
  read_write p := by
    simp [Document.portlet, Portlet.toJson, fields_record, Fields.required, Fields.withDefault,
      Lossless.text.read_write, Lossless.names.read_write, RenderState.lossless.read_write]

theorem Page.lossless : Lossless Page.toJson Document.page where
  legible p := by
    simp [Page.toJson, Portlet.lossless.legible]
  read_write p := by
    have hportlets : ((Document.items (array (p.portlets.map Portlet.toJson)) : Option _).bind
        fun items => items.mapM Document.portlet) = some p.portlets :=
      Portlet.lossless.list.read_write p.portlets
    simp [Document.page, Page.toJson, fields_record, Fields.withDefault, hportlets]

theorem Config.lossless : Lossless Config.toJson Document.config where
  legible c := by
    simp [Config.toJson, Lossless.text.legible, Lossless.flag.legible]
  read_write c := by
    simp [Document.config, Config.toJson, fields_record, Fields.withDefault,
      Lossless.text.read_write, Lossless.flag.read_write]

/-! ## Words -/

theorem EventType.lossless : Lossless EventType.toJson toEventType? where
  legible e := by cases e <;> rfl
  read_write e := by cases e <;> rfl

theorem Reason.lossless : Lossless Reason.toJson (toReason? false) where
  legible r := by cases r <;> rfl
  read_write r := by cases r <;> rfl

end Types

/-! ## All types together -/

/-- The types of what is sent or stored as JSON. -/
inductive WireType where
  | parameters
  | renderState
  | change
  | delta
  | stateSubmission
  | actionSubmission
  | update
  | outcome
  | portlet
  | page
  | config
  | eventType
  | reason
  deriving DecidableEq, Repr

namespace WireType

/-- The values of a type. -/
abbrev Value : WireType → Type
  | .parameters => Parameters
  | .renderState => RenderState
  | .change => Change
  | .delta => Delta
  | .stateSubmission => StateSubmission
  | .actionSubmission => ActionSubmission
  | .update => Update
  | .outcome => Outcome
  | .portlet => Portlet
  | .page => Page
  | .config => Config
  | .eventType => EventType
  | .reason => Reason

/-- The tree that is written for a value. -/
def toJson : (t : WireType) → t.Value → Json
  | .parameters => Parameters.toJson
  | .renderState => RenderState.toJson
  | .change => Change.toJson
  | .delta => Delta.toJson
  | .stateSubmission => StateSubmission.toJson
  | .actionSubmission => ActionSubmission.toJson
  | .update => Update.toJson
  | .outcome => Outcome.toJson
  | .portlet => Portlet.toJson
  | .page => Page.toJson
  | .config => Config.toJson
  | .eventType => EventType.toJson
  | .reason => Reason.toJson

/-- The value that a tree describes. -/
def ofJson? : (t : WireType) → Json → Option t.Value
  | .parameters => Json.toParameters?
  | .renderState => Json.toRenderState?
  | .change => Json.toChange?
  | .delta => Json.toDelta?
  | .stateSubmission => Json.toStateSubmission?
  | .actionSubmission => Json.toActionSubmission?
  | .update => Json.toUpdate?
  | .outcome => Json.toOutcome?
  | .portlet => Json.toPortlet?
  | .page => Json.toPage?
  | .config => Json.toConfig?
  | .eventType => Json.toEventType?
  | .reason => Json.toReason? false

/-- The text of a value. -/
def write (t : WireType) (v : t.Value) : String := (t.toJson v).print

/-- The value that a text describes. -/
def read? (t : WireType) (text : String) : Option t.Value := Json.parse text >>= t.ofJson?

theorem lossless (t : WireType) : Json.Lossless t.toJson t.ofJson? := by
  cases t with
  | parameters => exact Parameters.lossless
  | renderState => exact RenderState.lossless
  | change => exact Change.lossless
  | delta => exact Delta.lossless
  | stateSubmission => exact StateSubmission.lossless
  | actionSubmission => exact ActionSubmission.lossless
  | update => exact Update.lossless
  | outcome => exact Outcome.lossless
  | portlet => exact Portlet.lossless
  | page => exact Page.lossless
  | config => exact Config.lossless
  | eventType => exact EventType.lossless
  | reason => exact Reason.lossless

/-- A written value is read back. -/
theorem read?_write (t : WireType) (v : t.Value) : t.read? (t.write v) = some v := by
  rw [read?, write, Json.parse_print (t.lossless.legible v)]
  exact t.lossless.read_write v

/-- The page that is read back is checked once more. -/
theorem ofJson_write_page (p : Page) : Page.ofJson (page.write p) = p.checked := by
  have hread : Json.parse (page.write p) >>= Json.toPage? = some p := page.read?_write p
  rw [Page.ofJson, hread]

/-- For every type of what is sent or stored:

* a value is read back as it was, so that different values have different texts;
* whatever text a value has been read from, to write the value, to read that and to write
  it again gives the text that was written first;
* the text of a page is accepted and gives that page if the page is valid, and otherwise
  is refused for a fault of the page. -/
theorem written_values_are_read_back :
    (∀ (t : WireType) (v : t.Value), t.read? (t.write v) = some v) ∧
      (∀ (t : WireType) (v v' : t.Value), t.write v = t.write v' → v = v') ∧
      (∀ (t : WireType) (text : String) (v : t.Value), t.read? text = some v →
        ∃ v', t.read? (t.write v) = some v' ∧ t.write v' = t.write v) ∧
      ∀ p : Page, (Page.ofJson (page.write p) = .ok p ↔ p.validate = .ok p) ∧
        (p.validate ≠ .ok p → ∃ fault, p.validate = .error fault ∧
          Page.ofJson (page.write p) = .error (.invalidPage fault)) := by
  refine ⟨read?_write, ?_, ?_, ?_⟩
  · intro t v v' hsame
    have hread := t.read?_write v
    rw [hsame, t.read?_write v'] at hread
    exact (Option.some.inj hread).symm
  · intro t text v _
    exact ⟨v, t.read?_write v, rfl⟩
  · intro p
    rw [ofJson_write_page, Page.checked]
    cases hvalid : p.validate with
    | ok p' =>
      obtain ⟨rfl, _⟩ := Page.nodup_ids_of_validate hvalid
      exact ⟨iff_of_true rfl rfl, fun h => absurd rfl h⟩
    | error fault =>
      refine ⟨iff_of_false ?_ ?_, fun _ => ⟨fault, rfl, rfl⟩⟩
      · intro h; cases h
      · intro h; cases h

/-- Parameters in which a name is bound twice, to a null and to a sequence. -/
def looseParameters : Json := .record [("a", .ofValues [none]), ("b", .ofValues []),
  ("a", .ofValues [some "\"é\"", none])]

/-- Of the two bindings the later one counts, at the place of the earlier one.  The empty
sequence is kept, and so is the null in the sequence. -/
theorem loose_text_is_tidied :
    parameters.read? looseParameters.print =
        some (.ofEntries [("a", [some "\"é\"", none]), ("b", [])]) ∧
      ∃ v', parameters.read? (parameters.write (.ofEntries
          [("a", [some "\"é\"", none]), ("b", [])])) = some v' ∧
        parameters.write v' = parameters.write (.ofEntries
          [("a", [some "\"é\"", none]), ("b", [])]) := by
  have hread : parameters.read? looseParameters.print =
      some (.ofEntries [("a", [some "\"é\"", none]), ("b", [])]) := by
    rw [read?, Json.parse_print rfl]
    rfl
  obtain ⟨_, _, htidied, _⟩ := written_values_are_read_back
  exact ⟨hread, htidied parameters looseParameters.print _ hread⟩

end WireType

end PortletPage
