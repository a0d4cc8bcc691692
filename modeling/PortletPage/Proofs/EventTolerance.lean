import PortletPage.Proofs.Tolerance

/-!
# Events in other words

The fields of an event may stand in other words, and its kind anywhere among them.  This is
so whether the event is read as an event of unknown kind or as what it is.

* `Event.Rewords` and `Event.Doubled` say of a whole event what `Json.Rewords` and
  `Json.Doubled` say of a record.
* `Event.read_eq_some_iff`: an event is sound and not nested too deeply, has one kind, and
  what is left without the kind is read as that kind says.
* `Json.reading_is_tolerant` puts together what holds of every type and of events, for all
  texts of a tree.
-/

namespace PortletPage

open Json

/-! ## Stamps -/

namespace Json

/-- The tree after a record is put in other words is a record. -/
theorem Rewords.exists_members {form : Form} {j j' : Json} (h : Rewords (.record form) j j') :
    ∃ members, j' = .record members := by
  cases h with
  | record => exact ⟨_, rfl⟩

/-- What has no fields and is never left out stands as it is. -/
theorem Shows.find_eq {form : Form} {f : Fields Json} {name : String} {j : Json}
    (shows : Shows form f name j) (hslot : form.slot name = .plain)
    (always : form.default? name = none) : f.find name = some j := by
  rcases shows with ⟨j', hfind, hwords⟩ | ⟨-, hdefault⟩
  · rw [hslot] at hwords
    rw [hfind, hwords.eq_of_plain]
  · cases always.symm.trans hdefault

theorem stampOf?_eq_some_iff {f : Fields Json} {stamp : Stamp} :
    stampOf? f = some stamp ↔
      f.required "event_id" Document.text = some stamp.id ∧
        (f.required "timestamp" fun j => Document.text j >>= Timestamp.parse) =
          some stamp.time := by
  obtain ⟨id, time⟩ := stamp
  simp [stampOf?, Option.bind_eq_some_iff]

/-- A stamp that is found is read. -/
theorem stampOf?_of_find {f : Fields Json} {stamp : Stamp}
    (read : Timestamp.parse stamp.time.print = some stamp.time)
    (hid : f.find "event_id" = some (.str stamp.id))
    (htime : f.find "timestamp" = some (.str stamp.time.print)) :
    stampOf? f = some stamp := by
  rw [stampOf?_eq_some_iff, Fields.required, hid, Fields.required, htime]
  refine ⟨rfl, ?_⟩
  show (some stamp.time.print).bind Timestamp.parse = some stamp.time
  rw [Option.bind_some, read]

end Json

/-! ## State changes and messages -/

namespace StateChange

variable {emptyIsNull : Bool} {j : Json} {stamp : Stamp} {c : StateChange}

theorem read_eq_some_iff :
    toStateChange? emptyIsNull j = some (stamp, c) ↔
      ∃ f, (Document.fields Form.stateChange.names j : Option (Fields Json)) = some f ∧
        stampOf? f = some stamp ∧
        f.required "portlet_id" Document.text = some c.portlet ∧
        f.required "reason" (toReason? emptyIsNull) = some c.reason ∧
        f.required "state" toRenderState? = some c.state ∧
        f.required "changed_parameters" toNames? = some c.changed ∧
        f.required "portlet_mode_changed" Document.flag = some c.modeChanged ∧
        f.required "window_state_changed" Document.flag = some c.windowChanged := by
  obtain ⟨portlet, reason, state, changed, modeChanged, windowChanged⟩ := c
  cases modeChanged <;> cases windowChanged <;>
    simp [toStateChange?, Form.names, Option.bind_eq_some_iff]

theorem read_of_rewords (read : Timestamp.parse stamp.time.print = some stamp.time)
    (h : Rewords (.record .stateChange) (c.toJson stamp) j) :
    toStateChange? emptyIsNull j = some (stamp, c) := by
  obtain ⟨f, hf, -, hshows, -⟩ := h.shows (List.Sublist.refl _)
  simp only [StateChange.members, List.forall_mem_cons] at hshows
  obtain ⟨hid, htime, hportlet, hreason, hstate, hchanged, hmode, hwindow, -⟩ := hshows
  have hword : Lossless Reason.toJson (toReason? emptyIsNull) :=
    ⟨Reason.lossless.legible, Reason.toReason?_toJson emptyIsNull⟩
  refine read_eq_some_iff.mpr ⟨f, hf, ?_, ?_, ?_, ?_, ?_, ?_, ?_⟩
  · exact stampOf?_of_find read (hid.find_eq rfl rfl) (htime.find_eq rfl rfl)
  · exact (Tolerant.plain .text).required hportlet rfl rfl
  · exact (Tolerant.plain hword).required hreason rfl rfl
  · exact RenderState.tolerant.required hstate rfl rfl
  · exact (Tolerant.plain .names).required hchanged rfl rfl
  · exact (Tolerant.plain .flag).required hmode rfl rfl
  · exact (Tolerant.plain .flag).required hwindow rfl rfl

theorem read_of_doubled (h : Doubled (.record .stateChange) j) :
    toStateChange? emptyIsNull j = none := by
  refine read_of_doubled_of_parts (fun j v hread => ?_) j h
  obtain ⟨f, hf, -, -, -, hstate, -⟩ := read_eq_some_iff.mp hread
  refine ⟨f, hf, ?_⟩
  simp only [Form.parts, List.forall_mem_cons]
  exact ⟨RenderState.tolerant.not_doubled_of_required hstate, List.forall_mem_nil _⟩

end StateChange

namespace Message

variable {outside : Nat} {j : Json} {stamp : Stamp} {m : Message}

theorem read_eq_some_iff :
    toMessage? outside j = some (stamp, m) ↔
      ∃ f, (Document.fields Form.message.names j : Option (Fields Json)) = some f ∧
        stampOf? f = some stamp ∧
        f.required "event_type" Document.text = some m.eventType ∧
        f.required "source_portlet_id" Document.text = some m.source ∧
        f.required "payload" (toPayload? outside) = some m.payload := by
  obtain ⟨eventType, source, payload⟩ := m
  simp [toMessage?, Form.names, Option.bind_eq_some_iff]

/-- The payload stands one level below the message. -/
theorem read_of_rewords (read : Timestamp.parse stamp.time.print = some stamp.time)
    (payload : m.payload.IsPayload) (h : Rewords (.record .message) (m.toJson stamp) j)
    (depth : j.depth ≤ maxDepth) : toMessage? 1 j = some (stamp, m) := by
  obtain ⟨members, rfl⟩ := h.exists_members
  obtain ⟨f, hf, -, hshows, -⟩ := h.shows (List.Sublist.refl _)
  simp only [Message.members, List.forall_mem_cons] at hshows
  obtain ⟨hid, htime, htype, hsource, hpayload, -⟩ := hshows
  have hfind := hpayload.find_eq rfl rfl
  have hdepth : m.payload.depth + 1 ≤ maxDepth := Nat.le_trans (depth_of_find hf hfind) depth
  refine read_eq_some_iff.mpr ⟨f, hf, ?_, ?_, ?_, ?_⟩
  · exact stampOf?_of_find read (hid.find_eq rfl rfl) (htime.find_eq rfl rfl)
  · exact (Tolerant.plain .text).required htype rfl rfl
  · exact (Tolerant.plain .text).required hsource rfl rfl
  · rw [Fields.required, hfind]
    exact payload.toPayload?_eq hdepth

theorem read_of_doubled (h : Doubled (.record .message) j) : toMessage? outside j = none := by
  refine read_of_doubled_of_parts (fun j v hread => ?_) j h
  obtain ⟨f, hf, -⟩ := read_eq_some_iff.mp hread
  exact ⟨f, hf, List.forall_mem_nil _⟩

end Message

/-! ## Events -/

namespace Event

/-- The tree says in other words what is written of the event: the fields are in other
words, and the kind stands anywhere among them. -/
inductive Rewords : Event Stamp → Json → Prop where
  | stateChange {stamp : Stamp} {c : StateChange} {fields members : List (String × Json)}
      (words : Json.Rewords (.record .stateChange) (c.toJson stamp) (.record fields))
      (apart : "kind" ∉ fields.map Prod.fst)
      (order : members.Perm (("kind", .str "state_change") :: fields)) :
      Rewords ⟨stamp, .stateChange c⟩ (.record members)
  | message {stamp : Stamp} {m : Message} {fields members : List (String × Json)}
      (words : Json.Rewords (.record .message) (m.toJson stamp) (.record fields))
      (apart : "kind" ∉ fields.map Prod.fst)
      (order : members.Perm (("kind", .str "client") :: fields)) :
      Rewords ⟨stamp, .message m⟩ (.record members)

/-- The kind stands more than once, or some field of what the kind says does. -/
inductive Doubled : Json → Prop where
  | kind {members : List (String × Json)} (twice : 2 ≤ (members.map Prod.fst).count "kind") :
      Doubled (.record members)
  | stateChange {members : List (String × Json)} (there : ("kind", .str "state_change") ∈ members)
      (field : Json.Doubled (.record .stateChange) (.record members)) : Doubled (.record members)
  | message {members : List (String × Json)} (there : ("kind", .str "client") ∈ members)
      (field : Json.Doubled (.record .message) (.record members)) : Doubled (.record members)

/-- What a text can carry: a point in time, and in a message a value. -/
structure Proper (e : Event Stamp) : Prop where
  time : e.stamp.time.isValid = true
  payload : ∀ m, e.news = .message m → m.payload.IsPayload

theorem read_eq_some_iff {j : Json} {e : Event Stamp} :
    toEvent? j = some e ↔
      (j.isSound = true ∧ j.depth ≤ maxDepth) ∧
        ((∃ fields c, splitKind? j = some ("state_change", fields) ∧
            toStateChange? true fields = some (e.stamp, c) ∧ e.news = .stateChange c) ∨
          ∃ fields m, splitKind? j = some ("client", fields) ∧
            toMessage? 1 fields = some (e.stamp, m) ∧ e.news = .message m) := by
  obtain ⟨stamp, news⟩ := e
  rw [toEvent?]
  by_cases hwhole : j.isSound = true ∧ j.depth ≤ maxDepth
  · rw [if_pos hwhole]
    cases hsplit : splitKind? j with
    | none => simp
    | some split =>
      obtain ⟨kind, fields⟩ := split
      by_cases hstate : kind = "state_change"
      · simp [hwhole, hstate, Option.bind_eq_some_iff, @eq_comm _ news]
      · by_cases hclient : kind = "client"
        · simp [hwhole, hclient, Option.bind_eq_some_iff, @eq_comm _ news]
        · simp [hstate, hclient]
  · rw [if_neg hwhole]
    simp [hwhole]

/-- What holds of the kind and of the record of the fields holds of the whole record. -/
theorem holds_of_perm {P : Json → Prop}
    (hrecord : ∀ members, P (.record members) ↔ ∀ m ∈ members, P m.2)
    {members fields : List (String × Json)} {kind : String}
    (order : members.Perm (("kind", .str kind) :: fields)) (hkind : P (.str kind))
    (hfields : P (.record fields)) : P (.record members) := by
  rw [hrecord]
  intro m hm
  rcases List.mem_cons.mp (order.mem_iff.mp hm) with rfl | hmem
  · exact hkind
  · exact (hrecord fields).mp hfields m hmem

variable {e : Event Stamp} {j : Json}

/-- As `Json.Rewords.keeps`. -/
theorem Rewords.keeps {P : Json → Prop} (harray : ∀ items, P (.array items) ↔ ∀ j ∈ items, P j)
    (hrecord : ∀ members, P (.record members) ↔ ∀ m ∈ members, P m.2)
    (hfree : ∀ j, j.IsFree → P j) (h : e.Rewords j) (hold : P e.toJson) : P j := by
  cases h with
  | stateChange words _ order =>
    obtain ⟨hkind, hmembers⟩ := List.forall_mem_cons.mp ((hrecord _).mp hold)
    exact holds_of_perm hrecord order hkind
      (words.keeps harray hrecord hfree ((hrecord _).mpr hmembers))
  | message words _ order =>
    obtain ⟨hkind, hmembers⟩ := List.forall_mem_cons.mp ((hrecord _).mp hold)
    exact holds_of_perm hrecord order hkind
      (words.keeps harray hrecord hfree ((hrecord _).mpr hmembers))

theorem Rewords.isSound (proper : e.Proper) (h : e.Rewords j) : j.isSound = true :=
  h.keeps isSound_array isSound_record (fun _ => IsFree.isSound) (isSound_toJson proper.payload)

theorem Rewords.isLegible (proper : e.Proper) (h : e.Rewords j) : j.isLegible = true :=
  h.keeps isLegible_array isLegible_record (fun _ => IsFree.isLegible)
    (isLegible_toJson proper.payload)

/-- A record with fewer members is not nested more deeply. -/
theorem depth_le_of_subset {fields members : List (String × Json)} (h : fields ⊆ members) :
    (Json.record fields).depth ≤ (Json.record members).depth := by
  obtain ⟨n, hn⟩ : ∃ n, (Json.record members).depth = n + 1 := ⟨_, rfl⟩
  have hmembers := (depth_record_le_iff members n).mp (Nat.le_of_eq hn)
  rw [hn, depth_record_le_iff]
  exact fun m hm => hmembers m (h hm)

/-- An event in other words is read as what it is. -/
theorem Rewords.toEvent?_eq (proper : e.Proper) (h : e.Rewords j) (depth : j.depth ≤ maxDepth) :
    toEvent? j = some e := by
  have hwhole := And.intro (h.isSound proper) depth
  have read := Timestamp.parse_print_of_isValid proper.time
  cases h with
  | @stateChange stamp c fields members words apart order =>
    obtain ⟨fields', hfields, hsplit⟩ := splitKind?_of_perm order apart
    have hread : toStateChange? true (.record fields') = some (stamp, c) :=
      StateChange.read_of_rewords read (words.of_perm hfields)
    exact read_eq_some_iff.mpr ⟨hwhole, .inl ⟨_, c, hsplit, hread, rfl⟩⟩
  | @message stamp m fields members words apart order =>
    obtain ⟨fields', hfields, hsplit⟩ := splitKind?_of_perm order apart
    have hsubset : fields' ⊆ members := fun member hmember =>
      order.mem_iff.mpr (List.mem_cons_of_mem _ (hfields.mem_iff.mp hmember))
    have hread : toMessage? 1 (.record fields') = some (stamp, m) :=
      Message.read_of_rewords read (proper.payload m rfl) (words.of_perm hfields)
        (Nat.le_trans (depth_le_of_subset hsubset) depth)
    exact read_eq_some_iff.mpr ⟨hwhole, .inr ⟨_, m, hsplit, hread, rfl⟩⟩

/-- A field that stands twice beside the kind stands twice without it. -/
theorem doubled_of_split {form : Form} {members : List (String × Json)} {kind : String}
    {fields : Json} (h : Json.Doubled (.record form) (.record members))
    (hkind : "kind" ∉ form.names) (hsplit : splitKind? (.record members) = some (kind, fields)) :
    Json.Doubled (.record form) fields := by
  obtain ⟨-, rfl⟩ := splitKind?_record_eq_some_iff.mp hsplit
  generalize hrecord : Json.record members = whole at h
  cases h with
  | @here _ _ name field twice =>
    cases record_injective hrecord
    have hne : name ≠ "kind" := fun heq => hkind (heq ▸ field)
    have hsame : ∀ m ∈ members, (m.1 == name && m.1 != "kind") = (m.1 == name) := by
      intro m _
      by_cases hname : m.1 = name
      · simp [hname, hne]
      · simp [hname]
    refine .here field ?_
    rwa [← length_filter_name, List.filter_filter, List.filter_congr hsame, length_filter_name]
  | @field _ _ name j there inner =>
    cases record_injective hrecord
    obtain ⟨slot, hpart, -⟩ := inner.exists_part
    have hne : name ≠ "kind" := fun heq => hkind (heq ▸ Form.mem_names_of_parts hpart)
    exact .field (List.mem_filter.mpr ⟨there, by simpa using hne⟩) inner

/-- What stands under the name is the kind. -/
theorem kind_of_split {members : List (String × Json)} {kind kind' : String} {fields : Json}
    (there : ("kind", .str kind') ∈ members)
    (hsplit : splitKind? (.record members) = some (kind, fields)) : kind = kind' := by
  obtain ⟨honly, -⟩ := splitKind?_record_eq_some_iff.mp hsplit
  have hmem : ("kind", .str kind') ∈ members.filter fun m => m.1 == "kind" :=
    List.mem_filter.mpr ⟨there, rfl⟩
  rw [honly, List.mem_singleton] at hmem
  cases hmem
  rfl

/-- Of an event with something twice the fields have something twice, once it has a kind. -/
theorem Doubled.fields {kind : String} {fields : Json} (h : Doubled j)
    (hsplit : splitKind? j = some (kind, fields)) :
    kind = "state_change" ∧ Json.Doubled (.record .stateChange) fields ∨
      kind = "client" ∧ Json.Doubled (.record .message) fields := by
  cases h with
  | kind twice =>
    obtain ⟨honly, -⟩ := splitKind?_record_eq_some_iff.mp hsplit
    rw [← length_filter_name, honly] at twice
    exact absurd twice (Nat.not_le_of_lt Nat.one_lt_two)
  | stateChange there field =>
    exact .inl ⟨kind_of_split there hsplit, doubled_of_split field (by decide) hsplit⟩
  | message there field =>
    exact .inr ⟨kind_of_split there hsplit, doubled_of_split field (by decide) hsplit⟩

/-- An event with something twice is not read. -/
theorem Doubled.toEvent?_eq (h : Doubled j) : toEvent? j = none := by
  rw [Option.eq_none_iff_forall_ne_some]
  intro e hread
  obtain ⟨-, ⟨fields, c, hsplit, hc, -⟩ | ⟨fields, m, hsplit, hm, -⟩⟩ := read_eq_some_iff.mp hread
  · rcases h.fields hsplit with ⟨-, hdoubled⟩ | ⟨hkind, -⟩
    · rw [StateChange.read_of_doubled hdoubled] at hc
      cases hc
    · exact absurd hkind (by decide)
  · rcases h.fields hsplit with ⟨hkind, -⟩ | ⟨-, hdoubled⟩
    · exact absurd hkind (by decide)
    · rw [Message.read_of_doubled hdoubled] at hm
      cases hm

end Event

/-! ## All texts of a tree -/

namespace Json

variable {α : Type}

/-- The tree has a text, and every text that has it is read as the value. -/
def IsReadAs (read : Json → Option α) (v : α) (j : Json) : Prop :=
  Json.parse j.print = some j ∧
    ∀ text, Json.parse text = some j → Json.parse text >>= read = some v

/-- No text that has the tree is read. -/
def IsRefused (read : Json → Option α) (j : Json) : Prop :=
  ∀ text, Json.parse text = some j → Json.parse text >>= read = none

theorem isReadAs_of_read {read : Json → Option α} {v : α} {j : Json}
    (legible : j.isLegible = true) (hread : read j = some v) : j.IsReadAs read v := by
  refine ⟨Json.parse_print legible, ?_⟩
  intro text htext
  rw [htext]
  exact hread

theorem isRefused_of_read {read : Json → Option α} {j : Json} (hread : read j = none) :
    j.IsRefused read := by
  intro text htext
  rw [htext]
  exact hread

/-- How records are worded makes no difference, as long as no field stands twice:

* every value of every type is read from each text of its tree in other words;
* a tree of a type in which some record has a field twice is refused;
* the same holds of events, with the kind anywhere among the fields, and of state changes
  and messages on their own, as long as a text is not nested too deeply;
* an event with two kinds, or with a field twice, is refused, and so are state changes and
  messages with a field twice. -/
theorem reading_is_tolerant :
    (∀ (t : WireType) (v : t.Value) (j : Json), Rewords t.slot (t.toJson v) j →
        j.IsReadAs t.ofJson? v) ∧
      (∀ (t : WireType) (j : Json), Doubled t.slot j → j.IsRefused t.ofJson?) ∧
      (∀ (e : Event Stamp) (j : Json), e.Proper → j.depth ≤ maxDepth →
        (e.Rewords j → j.IsReadAs toEvent? e) ∧
        (∀ c, e.news = .stateChange c → Rewords (.record .stateChange) (c.toJson e.stamp) j →
          j.IsReadAs (toStateChange? false) (e.stamp, c)) ∧
        ∀ m, e.news = .message m → Rewords (.record .message) (m.toJson e.stamp) j →
          j.IsReadAs (toMessage? 1) (e.stamp, m)) ∧
      ∀ j : Json, (Event.Doubled j → j.IsRefused toEvent?) ∧
        (Doubled (.record .stateChange) j → j.IsRefused (toStateChange? false)) ∧
        (Doubled (.record .message) j → j.IsRefused (toMessage? 1)) := by
  refine ⟨?_, ?_, ?_, ?_⟩
  · intro t v j hwords
    exact isReadAs_of_read (hwords.isLegible (t.lossless.legible v))
      (t.tolerant.read_of_rewords v j hwords)
  · intro t j hdoubled
    exact isRefused_of_read (t.tolerant.read_of_doubled j hdoubled)
  · intro e j proper depth
    have read := Timestamp.parse_print_of_isValid proper.time
    refine ⟨?_, ?_, ?_⟩
    · intro hwords
      exact isReadAs_of_read (hwords.isLegible proper) (hwords.toEvent?_eq proper depth)
    · intro c _ hwords
      have hwritten := (isLegible_record _).mpr (c.isLegible_members e.stamp)
      exact isReadAs_of_read (hwords.isLegible hwritten) (StateChange.read_of_rewords read hwords)
    · intro m hm hwords
      have payload := proper.payload m hm
      have hwritten := (isLegible_record _).mpr (Message.isLegible_members e.stamp payload)
      exact isReadAs_of_read (hwords.isLegible hwritten)
        (Message.read_of_rewords read payload hwords depth)
  · intro j
    refine ⟨?_, ?_, ?_⟩
    · exact fun hdoubled => isRefused_of_read hdoubled.toEvent?_eq
    · exact fun hdoubled => isRefused_of_read (StateChange.read_of_doubled hdoubled)
    · exact fun hdoubled => isRefused_of_read (Message.read_of_doubled hdoubled)

/-- A removal, granted together with an empty state. -/
def removal : Update := ⟨.empty, [⟨"a", none⟩]⟩

/-- The removal without anything that may be left out, with the changes before the state and
with members that nobody knows. -/
def looseRemoval : Json := .record [
  ("public_parameters", .array [.record [("name", .str "a"), ("kind", .bool true)]]),
  ("state", .record [("mode", .str "view"), ("mode", .null)]),
  ("name", .int (-1)),
  ("name", .array [.int 18446744073709551615])]

theorem looseRemoval_rewords : Rewords (.record .update) removal.toJson looseRemoval := by
  have hchange : Rewords (.record .change) (Change.toJson ⟨"a", none⟩)
      (.record [("name", .str "a"), ("kind", .bool true)]) := by
    refine @Rewords.record .change _ _ [("values", .null)] [("kind", .bool true)]
      [⟨"name", .str "a", .str "a"⟩] (.swap _ _ _) ?_ ?_ ?_ (.refl _)
    · exact List.forall_mem_singleton.mpr rfl
    · exact List.forall_mem_singleton.mpr (.plain _)
    · exact List.forall_mem_singleton.mpr ⟨by decide, .bool true⟩
  have hstate : Rewords (.record .renderState) RenderState.empty.toJson
      (.record [("mode", .str "view"), ("mode", .null)]) := by
    refine @Rewords.record .renderState _ _ Form.renderState.defaults
      [("mode", .str "view"), ("mode", .null)] [] (.refl _) ?_ (List.forall_mem_nil _) ?_ (.refl _)
    · simp only [Form.defaults, List.forall_mem_cons]
      exact ⟨rfl, rfl, rfl, List.forall_mem_nil _⟩
    · simp only [List.forall_mem_cons]
      exact ⟨⟨by decide, .text "view"⟩, ⟨by decide, .null⟩, List.forall_mem_nil _⟩
  refine @Rewords.record .update _ _ []
    [("name", .int (-1)), ("name", .array [.int 18446744073709551615])]
    [⟨"public_parameters", ofChanges [⟨"a", none⟩], _⟩, ⟨"state", RenderState.empty.toJson, _⟩]
    (.swap _ _ _) (List.forall_mem_nil _) ?_ ?_ (.refl _)
  · simp only [List.forall_mem_cons]
    exact ⟨@Rewords.list .change [(_, _)] (List.forall_mem_singleton.mpr hchange), hstate,
      List.forall_mem_nil _⟩
  · simp only [List.forall_mem_cons]
    exact ⟨⟨by decide, .int (by decide)⟩,
      ⟨by decide, .array (List.forall_mem_singleton.mpr (.int (by decide)))⟩,
      List.forall_mem_nil _⟩

/-- A stamp from the year before 0. -/
def remoteStamp : Stamp := ⟨"client", ⟨-1, 2, 28, 23, 59, 59, 0⟩⟩

/-- A message whose payload speaks of kinds. -/
def remoteMessage : Message := ⟨"kind", "state", .record [("kind", .str "state_change")]⟩

/-- The event of the message. -/
def remote : Event Stamp := ⟨remoteStamp, .message remoteMessage⟩

/-- Members that no message knows. -/
def strangers : List (String × Json) :=
  [("state", .null), ("reason", .str "kind"), ("state", .record [])]

/-- The message behind strangers, with its kind at the end. -/
def looseRemote : Json :=
  .record ((strangers ++ remoteMessage.members remoteStamp) ++ [("kind", .str "client")])

theorem looseRemote_rewords : remote.Rewords looseRemote := by
  have hwords : Rewords (.record .message) (remoteMessage.toJson remoteStamp)
      (.record (strangers ++ remoteMessage.members remoteStamp)) := by
    refine @Rewords.record .message _ _ [] strangers
      ((remoteMessage.members remoteStamp).map fun m => ⟨m.1, m.2, m.2⟩)
      (.refl _) (List.forall_mem_nil _) ?_ ?_ List.perm_append_comm
    · simp only [Message.members, List.map_cons, List.map_nil, List.forall_mem_cons]
      exact ⟨.plain _, .plain _, .plain _, .plain _, .plain _, List.forall_mem_nil _⟩
    · simp only [strangers, List.forall_mem_cons]
      exact ⟨⟨by decide, .null⟩, ⟨by decide, .text "kind"⟩,
        ⟨by decide, .object (List.forall_mem_nil _)⟩, List.forall_mem_nil _⟩
  exact .message hwords (by decide) (List.perm_append_singleton _ _)

/-- A page with a portlet that has two ids. -/
def twoIds : Json :=
  .record [("portlets", .array [.record [("id", .str "a"), ("id", .str "a")]])]

/-- The removal and the message are read, the page is refused, and so is the message if it is
told its kind once more. -/
theorem loose_trees_are_read_alike :
    (Rewords WireType.update.slot removal.toJson looseRemoval ∧
        looseRemoval.IsReadAs WireType.update.ofJson? removal) ∧
      ((remote.Proper ∧ looseRemote.depth ≤ maxDepth ∧ remote.Rewords looseRemote) ∧
        looseRemote.IsReadAs toEvent? remote) ∧
      (Doubled WireType.page.slot twoIds ∧ twoIds.IsRefused WireType.page.ofJson?) ∧
      Event.Doubled (.record [("kind", .str "client"), ("kind", .str "client")]) ∧
        IsRefused toEvent? (.record [("kind", .str "client"), ("kind", .str "client")]) := by
  obtain ⟨hwire, hdoubled, hevents, hrefused⟩ := reading_is_tolerant
  have hpayload : IsValue (.record [("kind", .str "state_change")]) :=
    .object (List.pairwise_singleton _ _) (List.forall_mem_singleton.mpr (.text "state_change"))
  have proper : remote.Proper := by
    refine ⟨rfl, ?_⟩
    intro m hm
    cases hm
    exact hpayload.isPayload
  have depth : looseRemote.depth ≤ maxDepth := by decide
  have hportlet : Doubled (.record .portlet) (.record [("id", .str "a"), ("id", .str "a")]) :=
    @Doubled.here .portlet _ "id" (by decide) (by decide)
  have htwo : Doubled WireType.page.slot twoIds :=
    @Doubled.field .page _ "portlets" _ List.mem_cons_self (.item List.mem_cons_self hportlet)
  have hkinds : Event.Doubled (.record [("kind", .str "client"), ("kind", .str "client")]) :=
    .kind (by decide)
  exact ⟨⟨looseRemoval_rewords, hwire .update removal looseRemoval looseRemoval_rewords⟩,
    ⟨⟨proper, depth, looseRemote_rewords⟩,
      (hevents remote looseRemote proper depth).1 looseRemote_rewords⟩,
    ⟨htwo, hdoubled .page twoIds htwo⟩, hkinds, (hrefused _).1 hkinds⟩

end Json

end PortletPage
