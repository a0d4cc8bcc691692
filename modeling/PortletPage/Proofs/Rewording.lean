import PortletPage.Proofs.Events

/-!
# Records in other words

A record may be written in other words: with its fields in another order, with members
between them that it does not know, and without those fields that have the value which
they get when they are left out.  The same holds of every record inside it.

* `Form` lists the records among what is sent or stored: the names of their fields
  (`Form.names`), the fields that are records in turn (`Form.parts`) and the values of
  fields that are left out (`Form.defaults`).
* `Json.Rewords` says of two trees that the second one is the first in other words.
* `Json.Doubled`: some record of the tree has a field twice.
* `Json.Shows` is what the reader of a record finds of each field, and `Rewords.shows`
  that in other words it finds no less.
* `Json.Tolerant` puts together what holds of the reader of a type, with one lemma for
  each way in which a field is read.
-/

namespace PortletPage

/-! ## Forms of records -/

/-- The records among what is sent or stored. -/
inductive Form where
  | renderState
  | change
  | delta
  | stateSubmission
  | actionSubmission
  | update
  | outcome
  | portlet
  | page
  | config
  | stateChange
  | message
  deriving DecidableEq, Repr

/-- What stands under the name of a field. -/
inductive Slot where
  /-- Something that has no fields. -/
  | plain
  | record (form : Form)
  | list (form : Form)
  deriving DecidableEq, Repr

namespace Form

/-- The names of the fields. -/
def names : Form → List String
  | .renderState => ["portletMode", "windowState", "parameters"]
  | .change => ["name", "values"]
  | .delta => ["portlet_mode", "window_state", "private_parameters", "public_parameters"]
  | .stateSubmission => ["portlet_id", "delta", "state"]
  | .actionSubmission => ["portlet_id", "action_parameters", "state", "public_parameters"]
  | .update => ["state", "public_parameters"]
  | .outcome => ["state", "notified_portlets"]
  | .portlet => ["id", "private_parameters", "public_parameters", "state"]
  | .page => ["portlets"]
  | .config => ["default_portlet_mode", "default_window_state", "emit_initial_state"]
  | .stateChange => Json.stateChangeNames
  | .message => Json.messageNames

/-- The fields that are records or lists of records. -/
def parts : Form → List (String × Slot)
  | .renderState | .change | .config | .message => []
  | .delta => [("private_parameters", .list .change), ("public_parameters", .list .change)]
  | .stateSubmission => [("delta", .record .delta), ("state", .record .renderState)]
  | .actionSubmission | .outcome | .portlet | .stateChange => [("state", .record .renderState)]
  | .update => [("state", .record .renderState), ("public_parameters", .list .change)]
  | .page => [("portlets", .list .portlet)]

/-- What stands under a name. -/
def slot (form : Form) (name : String) : Slot := (form.parts.lookup name).getD .plain

/-- The fields that may be left out, with the values that they then have. -/
def defaults : Form → List (String × Json)
  | .renderState =>
    [("portletMode", .str ""), ("windowState", .str ""), ("parameters", Parameters.empty.toJson)]
  | .change => [("values", .null)]
  | .delta => [("portlet_mode", .null), ("window_state", .null),
    ("private_parameters", .ofChanges []), ("public_parameters", .ofChanges [])]
  | .update => [("public_parameters", .ofChanges [])]
  | .portlet => [("private_parameters", .ofNames []), ("public_parameters", .ofNames []),
    ("state", RenderState.empty.toJson)]
  | .page => [("portlets", .array [])]
  | .config => [("default_portlet_mode", .str ""), ("default_window_state", .str ""),
    ("emit_initial_state", .bool true)]
  | .stateSubmission | .actionSubmission | .outcome | .stateChange | .message => []

/-- The value that a field has when it is left out, if it may be. -/
def default? (form : Form) (name : String) : Option Json := form.defaults.lookup name

theorem nodup_names (form : Form) : form.names.Nodup := by
  cases form <;> decide

theorem mem_names_of_parts {form : Form} {part : String × Slot} (h : part ∈ form.parts) :
    part.1 ∈ form.names := by
  have hsubset : form.parts.map Prod.fst ⊆ form.names := by
    cases form <;> decide
  exact hsubset (List.mem_map.mpr ⟨part, h, rfl⟩)

end Form

namespace Json

/-! ## Other words -/

theorem record_injective {members members' : List (String × Json)}
    (h : record members = record members') : members = members' := by
  have hinjective : Function.Injective fun member : String × Json =>
      ((some member.1, member.2) : Option String × Json) := by
    rintro ⟨name, j⟩ ⟨name', j'⟩ heq
    cases heq
    rfl
  exact List.map_injective_iff.mpr hinjective (Json.object.inj h)

/-- A field that is kept, with the tree under its name before and after. -/
structure Restated where
  name : String
  before : Json
  after : Json

namespace Restated

/-- The member before. -/
def old (r : Restated) : String × Json := (r.name, r.before)

/-- The member after. -/
def new (r : Restated) : String × Json := (r.name, r.after)

end Restated

/-- The second tree says in other words what the first one says.

In a record some of the fields are left out, as far as they have the values that they get
when they are left out.  All others are kept, in other words themselves if they are
records.  Free trees are put under names that are not the names of fields.  Then the
members are put in any order. -/
inductive Rewords : Slot → Json → Json → Prop where
  | plain (j : Json) : Rewords .plain j j
  | list {form : Form} {items : List (Json × Json)}
      (each : ∀ item ∈ items, Rewords (.record form) item.1 item.2) :
      Rewords (.list form) (.array (items.map Prod.fst)) (.array (items.map Prod.snd))
  | record {form : Form} {members members' left extra : List (String × Json)}
      {kept : List Restated} (before : members.Perm (left ++ kept.map Restated.old))
      (omitted : ∀ m ∈ left, form.default? m.1 = some m.2)
      (each : ∀ r ∈ kept, Rewords (form.slot r.name) r.before r.after)
      (foreign : ∀ m ∈ extra, m.1 ∉ form.names ∧ m.2.IsFree)
      (after : members'.Perm (kept.map Restated.new ++ extra)) :
      Rewords (.record form) (.record members) (.record members')

/-- In some record of the tree the name of a field stands more than once, whatever else
there may be. -/
inductive Doubled : Slot → Json → Prop where
  | here {form : Form} {members : List (String × Json)} {name : String}
      (field : name ∈ form.names) (twice : 2 ≤ (members.map Prod.fst).count name) :
      Doubled (.record form) (.record members)
  | field {form : Form} {members : List (String × Json)} {name : String} {j : Json}
      (there : (name, j) ∈ members) (inner : Doubled (form.slot name) j) :
      Doubled (.record form) (.record members)
  | item {form : Form} {items : List Json} {j : Json} (there : j ∈ items)
      (inner : Doubled (.record form) j) : Doubled (.list form) (.array items)

/-- Only a part can have a field twice. -/
theorem Doubled.exists_part {form : Form} {name : String} {j : Json}
    (h : Doubled (form.slot name) j) :
    ∃ slot, (name, slot) ∈ form.parts ∧ form.slot name = slot := by
  cases hlookup : form.parts.lookup name with
  | none =>
    rw [Form.slot, hlookup] at h
    cases h
  | some slot =>
    obtain ⟨before, after, hsplit, -⟩ := List.lookup_eq_some_iff.mp hlookup
    refine ⟨slot, hsplit ▸ List.mem_append_right before List.mem_cons_self, ?_⟩
    rw [Form.slot, hlookup]
    rfl

/-- What has no fields is left as it is. -/
theorem Rewords.eq_of_plain {j j' : Json} (h : Rewords .plain j j') : j' = j := by
  cases h
  rfl

/-- The order of members is free. -/
theorem Rewords.of_perm {form : Form} {j : Json} {members members' : List (String × Json)}
    (h : Rewords (.record form) j (.record members)) (order : members'.Perm members) :
    Rewords (.record form) j (.record members') := by
  generalize hrecord : Json.record members = j' at h
  cases h with
  | record before omitted each foreign after =>
    cases record_injective hrecord
    exact .record before omitted each foreign (order.trans after)

/-- What holds of a tree exactly if it holds of all parts, and of free trees, is kept. -/
theorem Rewords.keeps {P : Json → Prop} (harray : ∀ items, P (array items) ↔ ∀ j ∈ items, P j)
    (hrecord : ∀ members, P (.record members) ↔ ∀ m ∈ members, P m.2)
    (hfree : ∀ j, j.IsFree → P j) {slot : Slot} {j j' : Json} (h : Rewords slot j j') :
    P j → P j' := by
  induction h with
  | plain j => exact id
  | list each ih =>
    simp only [harray, List.forall_mem_map]
    exact fun hold item hitem => ih item hitem (hold item hitem)
  | record before omitted each foreign after ih =>
    simp only [hrecord]
    intro hold m hm
    rcases List.mem_append.mp (after.mem_iff.mp hm) with hkept | hextra
    · obtain ⟨r, hr, rfl⟩ := List.mem_map.mp hkept
      have hold : P r.before := hold r.old
        (before.mem_iff.mpr (List.mem_append_right _ (List.mem_map.mpr ⟨r, hr, rfl⟩)))
      exact ih r hr hold
    · exact hfree m.2 (foreign m hextra).2

theorem Rewords.isLegible {slot : Slot} {j j' : Json} (h : Rewords slot j j')
    (legible : j.isLegible = true) : j'.isLegible = true :=
  h.keeps isLegible_array isLegible_record (fun _ => IsFree.isLegible) legible

/-! ## Fields that are found -/

/-- A member is found under its name if no other has that name. -/
theorem find?_of_once {members : List (String × Json)} {name : String} {j : Json}
    (there : (name, j) ∈ members) (once : (members.map Prod.fst).count name ≤ 1) :
    (members.find? fun member => member.1 == name).map Prod.snd = some j := by
  obtain ⟨before, after, rfl⟩ := List.append_of_mem there
  have hbefore : name ∉ before.map Prod.fst := by
    rw [← List.count_eq_zero]
    simp only [List.map_append, List.map_cons, List.count_append, List.count_cons_self] at once
    omega
  have hnone : before.find? (fun member => member.1 == name) = none := by
    rw [List.find?_eq_none]
    intro m hm hname
    exact hbefore (List.mem_map.mpr ⟨m, hm, beq_iff_eq.mp hname⟩)
  rw [List.find?_append, hnone, Option.none_or]
  simp

/-- A name that no member has is not found. -/
theorem find?_of_absent {members : List (String × Json)} {name : String}
    (absent : name ∉ members.map Prod.fst) :
    (members.find? fun member => member.1 == name).map Prod.snd = none := by
  rw [Option.map_eq_none_iff, List.find?_eq_none]
  intro m hm hname
  exact absent (List.mem_map.mpr ⟨m, hm, beq_iff_eq.mp hname⟩)

/-- The fields show the tree under a name: in other words, or not at all if it is what the
field has when it is left out. -/
def Shows (form : Form) (f : Fields Json) (name : String) (j : Json) : Prop :=
  (∃ j', f.find name = some j' ∧ Rewords (form.slot name) j j') ∨
    (f.find name = none ∧ form.default? name = some j)

/-- In other words every field of a record shows, and no other field does. -/
theorem Rewords.shows {form : Form} {members : List (String × Json)} {j : Json}
    (h : Rewords (.record form) (.record members) j)
    (fields : (members.map Prod.fst).Sublist form.names) :
    ∃ f, (Document.fields form.names j : Option (Fields Json)) = some f ∧ f.named = true ∧
      (∀ m ∈ members, Shows form f m.1 m.2) ∧
      ∀ name ∈ form.names, name ∉ members.map Prod.fst → f.find name = none := by
  generalize hrecord : Json.record members = j₀ at h
  cases h with
  | @record _ _ members' left extra kept before omitted each foreign after =>
    cases record_injective hrecord
    have hold : (members.map Prod.fst).Perm (left.map Prod.fst ++ kept.map Restated.name) := by
      have hmap := before.map Prod.fst
      rwa [List.map_append, List.map_map] at hmap
    have hnew : (members'.map Prod.fst).Perm (kept.map Restated.name ++ extra.map Prod.fst) := by
      have hmap := after.map Prod.fst
      rwa [List.map_append, List.map_map] at hmap
    have hnodup : (left.map Prod.fst ++ kept.map Restated.name).Nodup :=
      hold.nodup_iff.mp (form.nodup_names.sublist fields)
    obtain ⟨-, hkept, hapart⟩ := List.nodup_append.mp hnodup
    have hforeign : ∀ name ∈ form.names, name ∉ extra.map Prod.fst := by
      intro name hname hmem
      obtain ⟨m, hm, rfl⟩ := List.mem_map.mp hmem
      exact (foreign m hm).1 hname
    have honce : ∀ name ∈ form.names, (members'.map Prod.fst).count name ≤ 1 := by
      intro name hname
      rw [hnew.count_eq, List.count_append, List.count_eq_zero.mpr (hforeign name hname)]
      exact List.nodup_iff_count_le_one.mp hkept name
    refine ⟨_, (fields_record_eq form.names members').trans (if_pos honce), rfl, ?_, ?_⟩
    · intro m hm
      have hname : m.1 ∈ form.names := fields.subset (List.mem_map.mpr ⟨m, hm, rfl⟩)
      rcases List.mem_append.mp (before.mem_iff.mp hm) with hleft | hstays
      · -- what is left out is neither kept nor put back
        refine .inr ⟨find?_of_absent ?_, omitted m hleft⟩
        rw [hnew.mem_iff, List.mem_append]
        rintro (hmem | hmem)
        · exact hapart m.1 (List.mem_map.mpr ⟨m, hleft, rfl⟩) m.1 hmem rfl
        · exact hforeign m.1 hname hmem
      · obtain ⟨r, hr, rfl⟩ := List.mem_map.mp hstays
        have hthere : r.new ∈ members' :=
          after.mem_iff.mpr (List.mem_append_left _ (List.mem_map.mpr ⟨r, hr, rfl⟩))
        exact .inl ⟨r.after, find?_of_once hthere (honce r.name hname), each r hr⟩
    · intro name hname hmissing
      refine find?_of_absent ?_
      rw [hnew.mem_iff, List.mem_append]
      rintro (hmem | hmem)
      · exact hmissing (hold.mem_iff.mpr (List.mem_append_right _ hmem))
      · exact hforeign name hname hmem

/-- What is found under a name stands one level below the record. -/
theorem depth_of_find {names : List String} {members : List (String × Json)} {f : Fields Json}
    (hf : (Document.fields names (record members) : Option (Fields Json)) = some f)
    {name : String} {j : Json} (hfind : f.find name = some j) :
    j.depth + 1 ≤ (record members).depth := by
  rw [fields_record_eq] at hf
  split at hf
  · cases hf
    obtain ⟨m, hm, rfl⟩ := Option.map_eq_some_iff.mp hfind
    obtain ⟨n, hn⟩ : ∃ n, (record members).depth = n + 1 := ⟨_, rfl⟩
    rw [hn, Nat.add_le_add_iff_right]
    exact (depth_record_le_iff members n).mp (Nat.le_of_eq hn) m (List.mem_of_find?_eq_some hm)
  · cases hf

/-! ## Fields that are read -/

/-- Reading in other words gives what was written, and reading fails where a field stands
twice. -/
structure Tolerant {α : Type} (slot : Slot) (write : α → Json) (read : Json → Option α) : Prop
    extends Lossless write read where
  read_of_rewords : ∀ v j, Rewords slot (write v) j → read j = some v
  read_of_doubled : ∀ j, Doubled slot j → read j = none

namespace Tolerant

variable {α : Type} {slot : Slot} {form : Form} {write : α → Json} {read : Json → Option α}

/-- Whatever has no fields is read as before. -/
theorem plain (h : Lossless write read) : Tolerant .plain write read where
  toLossless := h
  read_of_rewords v j hwords := by rw [hwords.eq_of_plain, h.read_write]
  read_of_doubled j hdoubled := by cases hdoubled

/-- Items are read one after the other. -/
theorem list (h : Tolerant (.record form) write read) :
    Tolerant (.list form) (fun values => array (values.map write))
      (fun j => do (← Document.items j).mapM read) where
  toLossless := h.toLossless.list
  read_of_rewords values j hwords := by
    generalize hitems : array (values.map write) = j₀ at hwords
    cases hwords with
    | @list _ items each =>
      have hwritten : values.map write = items.map Prod.fst := Json.array.inj hitems
      show (items.map Prod.snd).mapM read = some values
      clear hitems
      induction items generalizing values with
      | nil =>
        cases List.map_eq_nil_iff.mp hwritten
        rfl
      | cons item items ih =>
        obtain ⟨v, values, rfl, hv, hvalues⟩ := List.map_eq_cons_iff.mp hwritten
        obtain ⟨hitem, hrest⟩ := List.forall_mem_cons.mp each
        rw [← hv] at hitem
        rw [List.map_cons, List.mapM_cons, h.read_of_rewords v item.2 hitem,
          ih values hrest hvalues]
        rfl
  read_of_doubled j hdoubled := by
    cases hdoubled with
    | @item _ items j there inner =>
      have hnone := h.read_of_doubled j inner
      show items.mapM read = none
      induction items with
      | nil => cases there
      | cons j' items ih =>
        rcases List.mem_cons.mp there with rfl | hmem
        · simp [hnone]
        · simp [ih hmem]

variable {f : Fields Json} {name : String} {v : α} (h : Tolerant slot write read)
include h

/-- A part that is read has no field twice. -/
theorem not_doubled {j : Json} (hread : read j = some v) : ¬ Doubled slot j := by
  intro hdoubled
  rw [h.read_of_doubled j hdoubled] at hread
  cases hread

theorem not_doubled_of_required (hread : f.required name read = some v) (j : Json)
    (hfind : f.find name = some j) : ¬ Doubled slot j := by
  rw [Fields.required, hfind] at hread
  exact h.not_doubled hread

theorem not_doubled_of_withDefault {fallback : α}
    (hread : f.withDefault name fallback read = some v) (j : Json)
    (hfind : f.find name = some j) : ¬ Doubled slot j := by
  rw [Fields.withDefault, hfind] at hread
  exact h.not_doubled hread

variable (shows : Shows form f name (write v)) (hslot : form.slot name = slot)
include shows hslot

/-- A field that is found is read, and one that is left out has the value it then gets. -/
theorem read_of_shows :
    (∃ j, f.find name = some j ∧ read j = some v) ∨
      (f.find name = none ∧ form.default? name = some (write v)) := by
  rcases shows with ⟨j, hfind, hwords⟩ | hleft
  · exact .inl ⟨j, hfind, h.read_of_rewords v j (hslot ▸ hwords)⟩
  · exact .inr hleft

theorem required (always : form.default? name = none) : f.required name read = some v := by
  rw [Fields.required]
  rcases h.read_of_shows shows hslot with ⟨j, hfind, hread⟩ | ⟨-, hdefault⟩
  · rw [hfind]
    exact hread
  · cases always.symm.trans hdefault

theorem withDefault {fallback : α} (left : form.default? name = some (write fallback)) :
    f.withDefault name fallback read = some v := by
  rw [Fields.withDefault]
  rcases h.read_of_shows shows hslot with ⟨j, hfind, hread⟩ | ⟨hfind, hdefault⟩
  · rw [hfind]
    exact hread
  · have hsame : fallback = v := h.toLossless.injective (Option.some.inj (left.symm.trans hdefault))
    rw [hfind, hsame]
    rfl

end Tolerant

/-- A field that counts as null when its name is left out. -/
theorem Tolerant.optional {α : Type} {slot : Slot} {form : Form} {write : Option α → Json}
    {read : Json → Option (Option α)} {f : Fields Json} {name : String} {v : Option α}
    (h : Tolerant slot write read) (shows : Shows form f name (write v))
    (hslot : form.slot name = slot) (named : f.named = true)
    (left : form.default? name = some (write none)) : f.optional name read = some v := by
  rw [Fields.optional]
  rcases h.read_of_shows shows hslot with ⟨j, hfind, hread⟩ | ⟨hfind, hdefault⟩
  · rw [hfind]
    exact hread
  · have hsame : none = v := h.toLossless.injective (Option.some.inj (left.symm.trans hdefault))
    rw [hfind, ← hsame, named]
    rfl

/-- A reader that finds the fields of a record, and reads no part that has a field twice,
reads no record that has. -/
theorem read_of_doubled_of_parts {α : Type} {form : Form} {read : Json → Option α}
    (h : ∀ j v, read j = some v →
      ∃ f, (Document.fields form.names j : Option (Fields Json)) = some f ∧
        ∀ part ∈ form.parts, ∀ j', f.find part.1 = some j' → ¬ Doubled part.2 j')
    (j : Json) (doubled : Doubled (.record form) j) : read j = none := by
  rw [Option.eq_none_iff_forall_ne_some]
  intro v hread
  obtain ⟨f, hf, hparts⟩ := h j v hread
  cases doubled with
  | @here _ members name field twice =>
    rw [fields_record_eq] at hf
    split at hf
    · rename_i honce
      have hone := honce name field
      omega
    · cases hf
  | @field _ members name j' there inner =>
    obtain ⟨slot, hpart, hslot⟩ := inner.exists_part
    rw [fields_record_eq] at hf
    split at hf
    · rename_i honce
      cases hf
      have hfind := find?_of_once there (honce name (Form.mem_names_of_parts hpart))
      exact hparts _ hpart j' hfind (hslot ▸ inner)
    · cases hf

end Json

end PortletPage
