import PortletPage.Proofs.Timestamps
import PortletPage.Proofs.Wire

/-!
# Events on the wire

An event of either kind is written as one record, its kind first, and is read back as it
was.  The payload of a message is free: it may use the words that say what an event is.

* `Json.IsFree` are the trees whose numbers are integers, and `Json.IsValue` the values
  among them.  In a value the members of an object stand in the order of their names, so
  that sorting them changes nothing (`IsValue.normalize_eq`).
  What a payload has to be is `Json.IsPayload`.
* `Json.splitKind?_record_eq_some_iff`: the kind is found among the fields of the event,
  wherever it stands there, and nowhere else.
* `Event.Fits` says what a text can carry, and `Event.written_events_are_read_back` that
  it is carried.
-/

namespace PortletPage

namespace Json

/-! ## Free trees and values -/

/-- The trees whose strings denote texts and whose numbers are integers of 64 bits, signed
or not.  Members may stand in any order, and a name may stand twice. -/
inductive IsFree : Json → Prop where
  | null : IsFree .null
  | bool (b : Bool) : IsFree (.bool b)
  | int {n : Int} (h : -9223372036854775808 ≤ n ∧ n ≤ 18446744073709551615) : IsFree (.int n)
  | text (s : String) : IsFree (.str s)
  | array {items : List Json} (h : ∀ j ∈ items, IsFree j) : IsFree (.array items)
  | object {members : List (String × Json)} (h : ∀ m ∈ members, IsFree m.2) :
      IsFree (.record members)

/-- The values whose numbers are integers of 64 bits, signed or not.  The members of an
object stand in the order of their names, and no name stands twice. -/
inductive IsValue : Json → Prop where
  | null : IsValue .null
  | bool (b : Bool) : IsValue (.bool b)
  | int {n : Int} (h : -9223372036854775808 ≤ n ∧ n ≤ 18446744073709551615) : IsValue (.int n)
  | text (s : String) : IsValue (.str s)
  | array {items : List Json} (h : ∀ j ∈ items, IsValue j) : IsValue (.array items)
  | object {members : List (String × Json)} (sorted : members.Pairwise fun a b => a.1 < b.1)
      (h : ∀ m ∈ members, IsValue m.2) : IsValue (.record members)

theorem isSoundItems_iff (items : List Json) :
    isSoundItems items = true ↔ ∀ j ∈ items, j.isSound = true := by
  induction items with
  | nil => simp [isSoundItems]
  | cons j items ih => simp [isSoundItems, ih]

theorem isSoundMembers_iff (members : List (Option String × Json)) :
    isSoundMembers members = true ↔ ∀ m ∈ members, m.1.isSome = true ∧ m.2.isSound = true := by
  induction members with
  | nil => simp [isSoundMembers]
  | cons m members ih => simp [isSoundMembers, ih, and_assoc]

@[simp] theorem isSound_array (items : List Json) :
    (array items).isSound = true ↔ ∀ j ∈ items, j.isSound = true := by
  rw [isSound, isSoundItems_iff]

@[simp] theorem isSound_record (members : List (String × Json)) :
    (record members).isSound = true ↔ ∀ m ∈ members, m.2.isSound = true := by
  rw [record, isSound, isSoundMembers_iff]
  simp only [List.forall_mem_map, Option.isSome_some, true_and]

/-- Rounding to the nearest number at most doubles a number. -/
theorem rounded_le (n : Nat) (h : n ≠ 0) : rounded n ≤ 2 * n := by
  have hunit : Nat.pow 2 (n.log2 - 52) ≤ n :=
    Nat.le_trans (Nat.pow_le_pow_right (by decide) (Nat.sub_le _ _)) (Nat.log2_self_le h)
  have hbelow : n / Nat.pow 2 (n.log2 - 52) * Nat.pow 2 (n.log2 - 52) ≤ n :=
    Nat.div_mul_le_self _ _
  rw [rounded]
  split
  · omega
  · rw [Nat.add_mul, Nat.one_mul]
    omega

/-- An integer of 64 bits has a finite value. -/
theorem isFinite_of_lt {n : Nat} (h : n < 18446744073709551616) : isFinite n 0 = true := by
  rcases Nat.eq_zero_or_pos n with rfl | hpos
  · rfl
  have hleading : leading n = (n, 0) := by
    rw [leading, if_pos h]
  have hbound : 36893488147419103232 ≤ finiteBound := by decide +kernel
  have hrounded := rounded_le n (by omega)
  have hone : rounded 1 = 1 := rounded_of_log2_le (by decide)
  have hfinite : rounded n * rounded 1 < finiteBound := by
    rw [hone]
    omega
  simp [isFinite, hleading, hfinite]

namespace IsFree

theorem isSound {j : Json} (h : j.IsFree) : j.isSound = true := by
  induction h with
  | null => rfl
  | bool b => rfl
  | int h => exact isFinite_of_lt (by omega)
  | text s => rfl
  | array _ ih => exact (isSound_array _).mpr ih
  | object _ ih => exact (isSound_record _).mpr ih

theorem isLegible {j : Json} (h : j.IsFree) : j.isLegible = true := by
  induction h with
  | null => rfl
  | bool b => rfl
  | @int n h =>
    -- zero is written without a sign
    have hzero : 0 ≤ n ∨ ¬n = 0 := by omega
    simpa [Json.int, Json.isLegible] using hzero
  | text s => rfl
  | array _ ih => exact (isLegible_array _).mpr ih
  | object _ ih => exact (isLegible_record _).mpr ih

end IsFree

namespace IsValue

theorem isFree {j : Json} (h : j.IsValue) : j.IsFree := by
  induction h with
  | null => exact .null
  | bool b => exact .bool b
  | int h => exact .int h
  | text s => exact .text s
  | array _ ih => exact .array ih
  | object _ _ ih => exact .object ih

theorem isSound {j : Json} (h : j.IsValue) : j.isSound = true := h.isFree.isSound

theorem isLegible {j : Json} (h : j.IsValue) : j.isLegible = true := h.isFree.isLegible

end IsValue

/-- A member whose name is later than all others comes last. -/
theorem insertMember_of_later {name : String} {sorted : List (String × Json)}
    (later : ∀ m ∈ sorted, m.1 < name) (j : Json) :
    insertMember (some name) j (sorted.map fun m => (some m.1, m.2)) =
      (sorted ++ [(name, j)]).map fun m => (some m.1, m.2) := by
  induction sorted with
  | nil => rfl
  | cons m sorted ih =>
    have hm := later m List.mem_cons_self
    have hrest := ih fun m' hm' => later m' (List.mem_cons_of_mem m hm')
    have hother : some name ≠ some m.1 := fun h => String.ne_of_lt hm (Option.some.inj h).symm
    have hnot : ¬ (some name).getD "" < (some m.1).getD "" := String.lt_asymm hm
    rw [List.map_cons, insertMember, if_neg hother, if_neg hnot, hrest]
    rfl

/-- Sorting leaves sorted members where they are. -/
theorem normalizeMembers_of_sorted {done members : List (String × Json)}
    (sorted : (done ++ members).Pairwise fun a b => a.1 < b.1)
    (h : ∀ m ∈ members, m.2.normalize = m.2) :
    normalizeMembers (done.map fun m => (some m.1, m.2)) (members.map fun m => (some m.1, m.2)) =
      (done ++ members).map fun m => (some m.1, m.2) := by
  induction members generalizing done with
  | nil => rw [List.append_nil]; rfl
  | cons m members ih =>
    have later : ∀ m' ∈ done, m'.1 < m.1 := fun m' hm' =>
      (List.pairwise_append.mp sorted).2.2 m' hm' m List.mem_cons_self
    have hsplit : done ++ m :: members = (done ++ [m]) ++ members := by simp
    rw [List.map_cons, normalizeMembers, h m List.mem_cons_self, insertMember_of_later later,
      hsplit]
    exact ih (hsplit ▸ sorted) fun m' hm' => h m' (List.mem_cons_of_mem m hm')

theorem normalizeItems_of_forall {items : List Json} (h : ∀ j ∈ items, j.normalize = j) :
    normalizeItems items = items := by
  induction items with
  | nil => rfl
  | cons j items ih =>
    rw [normalizeItems, h j List.mem_cons_self,
      ih fun j' hj' => h j' (List.mem_cons_of_mem j hj')]

/-- A value is sorted already. -/
theorem IsValue.normalize_eq {j : Json} (h : j.IsValue) : j.normalize = j := by
  induction h with
  | null => rfl
  | bool b => rfl
  | int h => rfl
  | text s => rfl
  | array _ ih => exact congrArg Json.array (normalizeItems_of_forall ih)
  | @object members sorted _ ih =>
    have hsorted : ([] ++ members : List (String × Json)).Pairwise fun a b => a.1 < b.1 := sorted
    exact congrArg Json.object (normalizeMembers_of_sorted hsorted ih)

/-- A free value as it is kept when it has been read. -/
structure IsPayload (j : Json) : Prop where
  sound : j.isSound = true
  legible : j.isLegible = true
  sorted : j.normalize = j

theorem IsValue.isPayload {j : Json} (h : j.IsValue) : j.IsPayload :=
  ⟨h.isSound, h.isLegible, h.normalize_eq⟩

/-- A value that is not nested too deeply is taken as it is. -/
theorem IsPayload.toPayload?_eq {j : Json} (h : j.IsPayload) {outside : Nat}
    (hdepth : j.depth + outside ≤ maxDepth) : toPayload? outside j = some j := by
  rw [toPayload?, if_pos ⟨h.sound, hdepth⟩, h.sorted]

/-! ## Nesting -/

theorem depthItems_le_iff (items : List Json) (n : Nat) :
    depthItems items ≤ n ↔ ∀ j ∈ items, j.depth ≤ n := by
  induction items with
  | nil => simp [depthItems]
  | cons j items ih => rw [depthItems, Nat.max_le, ih, List.forall_mem_cons]

theorem depthMembers_le_iff (members : List (Option String × Json)) (n : Nat) :
    depthMembers members ≤ n ↔ ∀ m ∈ members, m.2.depth ≤ n := by
  induction members with
  | nil => simp [depthMembers]
  | cons m members ih => rw [depthMembers, Nat.max_le, ih, List.forall_mem_cons]

theorem depth_array_le_iff (items : List Json) (n : Nat) :
    (array items).depth ≤ n + 1 ↔ ∀ j ∈ items, j.depth ≤ n := by
  rw [depth, Nat.add_le_add_iff_right, depthItems_le_iff]

theorem depth_record_le_iff (members : List (String × Json)) (n : Nat) :
    (record members).depth ≤ n + 1 ↔ ∀ m ∈ members, m.2.depth ≤ n := by
  rw [record, depth, Nat.add_le_add_iff_right, depthMembers_le_iff]
  simp only [List.forall_mem_map]

/-! ## Kinds -/

/-- The kind is the one member of that name, wherever it stands, and all others are fields. -/
theorem splitKind?_record_eq_some_iff {members : List (String × Json)} {kind : String}
    {fields : Json} :
    splitKind? (record members) = some (kind, fields) ↔
      (members.filter fun m => m.1 == "kind") = [("kind", str kind)] ∧
        fields = record (members.filter fun m => m.1 != "kind") := by
  have hkind : (members.map fun m => ((some m.1, m.2) : Option String × Json)).filter
      (fun m => m.1 == some "kind") =
        (members.filter fun m => m.1 == "kind").map fun m => (some m.1, m.2) :=
    List.filter_map
  have hothers : (members.map fun m => ((some m.1, m.2) : Option String × Json)).filter
      (fun m => m.1 != some "kind") =
        (members.filter fun m => m.1 != "kind").map fun m => (some m.1, m.2) :=
    List.filter_map
  have hname : ∀ m ∈ members.filter fun m => m.1 == "kind", m.1 = "kind" := fun m hm =>
    beq_iff_eq.mp (List.mem_filter.mp hm).2
  rw [record, splitKind?, hkind, hothers, ← record]
  generalize (members.filter fun m => m.1 == "kind") = kinds at hname ⊢
  rcases kinds with _ | ⟨⟨name, j⟩, _ | ⟨m, kinds⟩⟩
  · simp
  · cases hname (name, j) List.mem_cons_self
    cases j with
    | text s => cases s <;> simp [str, eq_comm]
    | _ => simp [str]
  · simp

/-- Without a kind there is nothing to split off. -/
theorem filter_of_no_kind {members : List (String × Json)} (h : "kind" ∉ members.map Prod.fst) :
    (members.filter fun m => m.1 == "kind") = [] ∧
      (members.filter fun m => m.1 != "kind") = members := by
  have hne : ∀ m ∈ members, m.1 ≠ "kind" := fun m hm heq =>
    h (heq ▸ List.mem_map_of_mem hm)
  constructor
  · rw [List.filter_eq_nil_iff]
    exact fun m hm => by simpa using hne m hm
  · rw [List.filter_eq_self]
    exact fun m hm => by simpa using hne m hm

/-- The kind is found at the front of a record that has no other field of that name. -/
theorem splitKind?_record (kind : String) {members : List (String × Json)}
    (h : "kind" ∉ members.map Prod.fst) :
    splitKind? (record (("kind", str kind) :: members)) = some (kind, record members) := by
  obtain ⟨hnone, hall⟩ := filter_of_no_kind h
  rw [splitKind?_record_eq_some_iff, List.filter_cons_of_pos (by simp), hnone,
    List.filter_cons_of_neg (by simp), hall]
  exact ⟨rfl, rfl⟩

/-- The kind is found among the fields, wherever it stands. -/
theorem splitKind?_of_perm {kind : String} {members rest : List (String × Json)}
    (order : members.Perm (("kind", str kind) :: rest)) (h : "kind" ∉ rest.map Prod.fst) :
    ∃ rest', rest'.Perm rest ∧ splitKind? (record members) = some (kind, record rest') := by
  obtain ⟨hnone, hall⟩ := filter_of_no_kind h
  have honly := order.filter fun m => m.1 == "kind"
  rw [List.filter_cons_of_pos (by simp), hnone, List.perm_singleton] at honly
  have hrest := order.filter fun m => m.1 != "kind"
  rw [List.filter_cons_of_neg (by simp), hall] at hrest
  exact ⟨_, hrest, splitKind?_record_eq_some_iff.mpr ⟨honly, rfl⟩⟩

end Json

/-! ## Fields -/

section Fields

open Json

/-- What the writer makes of domain values is sound. -/
theorem Json.isSound_ofNames (names : List String) : (ofNames names).isSound = true := by
  rw [ofNames, isSound_array, List.forall_mem_map]
  exact fun _ _ => rfl

theorem RenderState.isSound_toJson (s : RenderState) : s.toJson.isSound = true := by
  have hvalues : ∀ values, (ofValues values).isSound = true := by
    intro values
    rw [ofValues, isSound_array, List.forall_mem_map]
    intro value _
    cases value <;> rfl
  have hparameters : s.parameters.toJson.isSound = true := by
    rw [Parameters.toJson, isSound_record, List.forall_mem_map]
    exact fun entry _ => hvalues entry.2
  simp [RenderState.toJson, hparameters, Json.str, Json.isSound]

theorem Json.depth_ofNames_le (names : List String) : (ofNames names).depth ≤ 1 := by
  rw [ofNames, depth_array_le_iff, List.forall_mem_map]
  exact fun _ _ => Nat.le_refl 0

/-- The values of a parameter stand in the third level of a state. -/
theorem RenderState.depth_toJson_le (s : RenderState) : s.toJson.depth ≤ 3 := by
  have hvalues : ∀ values, (ofValues values).depth ≤ 1 := by
    intro values
    rw [ofValues, depth_array_le_iff, List.forall_mem_map]
    intro value _
    cases value <;> exact Nat.le_refl 0
  have hparameters : s.parameters.toJson.depth ≤ 2 := by
    rw [Parameters.toJson, depth_record_le_iff, List.forall_mem_map]
    exact fun entry _ => hvalues entry.2
  rw [RenderState.toJson, depth_record_le_iff]
  simp [hparameters, Json.str, Json.depth]

variable (stamp : Stamp)

theorem StateChange.isSound_members (c : StateChange) :
    ∀ m ∈ c.members stamp, m.2.isSound = true := by
  simp [StateChange.members, Json.str, Json.isSound, Reason.toJson, RenderState.isSound_toJson,
    isSound_ofNames]

theorem StateChange.isLegible_members (c : StateChange) :
    ∀ m ∈ c.members stamp, m.2.isLegible = true := by
  simp [StateChange.members, Lossless.text.legible, Reason.lossless.legible,
    RenderState.lossless.legible, Lossless.names.legible, Lossless.flag.legible]

theorem StateChange.depth_members_le (c : StateChange) : ∀ m ∈ c.members stamp, m.2.depth ≤ 3 := by
  have hnames : (ofNames c.changed).depth ≤ 3 :=
    Nat.le_trans (Json.depth_ofNames_le c.changed) (by decide)
  simp [StateChange.members, Json.str, Json.depth, Reason.toJson, c.state.depth_toJson_le, hnames]

theorem Message.isSound_members {m : Message} (payload : m.payload.IsPayload) :
    ∀ member ∈ m.members stamp, member.2.isSound = true := by
  simp [Message.members, Json.str, Json.isSound, payload.sound]

theorem Message.isLegible_members {m : Message} (payload : m.payload.IsPayload) :
    ∀ member ∈ m.members stamp, member.2.isLegible = true := by
  simp [Message.members, Lossless.text.legible, payload.legible]

/-- A word for a reason is read in either way. -/
theorem Reason.toReason?_toJson (emptyIsNull : Bool) (r : Reason) :
    toReason? emptyIsNull r.toJson = some r := by
  cases r <;> rfl

variable {stamp} (read : Timestamp.parse stamp.time.print = some stamp.time)
include read

/-- The fields of a state change are read back, whether or not a kind stands before them. -/
theorem StateChange.toStateChange?_members (emptyIsNull : Bool) (kind : Option Json)
    (c : StateChange) :
    toStateChange? emptyIsNull
        (.record ((kind.map fun kind => ("kind", kind)).toList ++ c.members stamp)) =
      some (stamp, c) := by
  have htext : ∀ s, (Document.text (str s) : Option String) = some s := fun _ => rfl
  cases kind <;>
    simp [toStateChange?, stateChangeNames, StateChange.members, fields_record, Fields.required,
      stampOf?, htext, read, toRenderState?, toNames?, RenderState.lossless.read_write,
      Lossless.names.read_write, Lossless.flag.read_write, Reason.toReason?_toJson]

/-- The fields of a message are read back, whether or not a kind stands before them. -/
theorem Message.toMessage?_members {outside : Nat} (kind : Option Json) {m : Message}
    (payload : toPayload? outside m.payload = some m.payload) :
    toMessage? outside
        (.record ((kind.map fun kind => ("kind", kind)).toList ++ m.members stamp)) =
      some (stamp, m) := by
  have htext : ∀ s, (Document.text (str s) : Option String) = some s := fun _ => rfl
  cases kind <;>
    simp [toMessage?, messageNames, Message.members, fields_record, Fields.required, stampOf?,
      htext, read, payload]

end Fields

/-! ## Events -/

namespace Event

/-- The text of an event. -/
def text (e : Event Stamp) : String := e.toJson.print

/-- What a text can carry: a point in time of the years 0 to 9999 and, in a message, a
value that is not nested too deeply. -/
structure Fits (e : Event Stamp) : Prop where
  time : e.stamp.time.isValid = true
  year : 0 ≤ e.stamp.time.year ∧ e.stamp.time.year ≤ 9999
  payload : ∀ m, e.news = .message m → m.payload.IsValue
  depth : ∀ m, e.news = .message m → e.toJson.depth ≤ Json.maxDepth

/-- An event is sound if its payload is. -/
theorem isSound_toJson {e : Event Stamp}
    (payload : ∀ m, e.news = .message m → m.payload.IsPayload) : e.toJson.isSound = true := by
  obtain ⟨stamp, news⟩ := e
  cases news with
  | stateChange c =>
    rw [toJson, Json.isSound_record, List.forall_mem_cons]
    exact ⟨rfl, c.isSound_members stamp⟩
  | message m =>
    rw [toJson, Json.isSound_record, List.forall_mem_cons]
    exact ⟨rfl, m.isSound_members stamp (payload m rfl)⟩

theorem isLegible_toJson {e : Event Stamp}
    (payload : ∀ m, e.news = .message m → m.payload.IsPayload) : e.toJson.isLegible = true := by
  obtain ⟨stamp, news⟩ := e
  cases news with
  | stateChange c =>
    rw [toJson, Json.isLegible_record, List.forall_mem_cons]
    exact ⟨rfl, c.isLegible_members stamp⟩
  | message m =>
    rw [toJson, Json.isLegible_record, List.forall_mem_cons]
    exact ⟨rfl, m.isLegible_members stamp (payload m rfl)⟩

variable {stamp : Stamp}

/-- The text of a state change, read as an event and read as a state change. -/
theorem read_stateChange (read : Timestamp.parse stamp.time.print = some stamp.time)
    (c : StateChange) :
    Json.parse (text ⟨stamp, .stateChange c⟩) >>= Json.toEvent? =
        some ⟨stamp, .stateChange c⟩ ∧
      Json.parse (text ⟨stamp, .stateChange c⟩) >>= Json.toStateChange? false =
        some (stamp, c) := by
  have hlegible : (toJson ⟨stamp, .stateChange c⟩).isLegible = true :=
    isLegible_toJson fun m hm => by cases hm
  have hsound : (toJson ⟨stamp, .stateChange c⟩).isSound = true :=
    isSound_toJson fun m hm => by cases hm
  have hdepth : (toJson ⟨stamp, .stateChange c⟩).depth ≤ 3 + 1 := by
    rw [toJson, Json.depth_record_le_iff, List.forall_mem_cons]
    exact ⟨Nat.zero_le 3, c.depth_members_le stamp⟩
  have hsplit : Json.splitKind? (toJson ⟨stamp, .stateChange c⟩) =
      some ("state_change", .record (c.members stamp)) :=
    Json.splitKind?_record "state_change" (by simp [StateChange.members])
  have hfields : Json.toStateChange? true (.record (c.members stamp)) = some (stamp, c) :=
    c.toStateChange?_members read true none
  have hwhole : Json.toStateChange? false (toJson ⟨stamp, .stateChange c⟩) = some (stamp, c) :=
    c.toStateChange?_members read false (some (.str "state_change"))
  rw [text, Json.parse_print hlegible, Option.bind_eq_bind, Option.bind_some,
    Option.bind_eq_bind, Option.bind_some]
  refine ⟨?_, hwhole⟩
  rw [Json.toEvent?, if_pos ⟨hsound, Nat.le_trans hdepth (by decide)⟩, hsplit]
  simp [hfields]

/-- The text of a message, read as an event and read as a message. -/
theorem read_message (read : Timestamp.parse stamp.time.print = some stamp.time) {m : Message}
    (payload : m.payload.IsPayload)
    (depth : (toJson ⟨stamp, .message m⟩).depth ≤ Json.maxDepth) :
    Json.parse (text ⟨stamp, .message m⟩) >>= Json.toEvent? = some ⟨stamp, .message m⟩ ∧
      Json.parse (text ⟨stamp, .message m⟩) >>= Json.toMessage? 1 = some (stamp, m) := by
  have hpayloads : ∀ m', (Event.mk stamp (.message m)).news = .message m' →
      m'.payload.IsPayload := by
    intro m' hm
    cases hm
    exact payload
  have hlegible : (toJson ⟨stamp, .message m⟩).isLegible = true := isLegible_toJson hpayloads
  have hsound : (toJson ⟨stamp, .message m⟩).isSound = true := isSound_toJson hpayloads
  have hsplit : Json.splitKind? (toJson ⟨stamp, .message m⟩) =
      some ("client", .record (m.members stamp)) :=
    Json.splitKind?_record "client" (by simp [Message.members])
  -- the payload stands one level below the event
  have hpayload : Json.toPayload? 1 m.payload = some m.payload := by
    have hmembers := depth
    rw [toJson, show Json.maxDepth = 126 + 1 from rfl, Json.depth_record_le_iff] at hmembers
    have hdepth : m.payload.depth ≤ 126 :=
      hmembers ("payload", m.payload) (by simp [Message.members])
    exact payload.toPayload?_eq (Nat.add_le_add_right hdepth 1)
  have hfields : Json.toMessage? 1 (.record (m.members stamp)) = some (stamp, m) :=
    m.toMessage?_members read none hpayload
  have hwhole : Json.toMessage? 1 (toJson ⟨stamp, .message m⟩) = some (stamp, m) :=
    m.toMessage?_members read (some (.str "client")) hpayload
  rw [text, Json.parse_print hlegible, Option.bind_eq_bind, Option.bind_some,
    Option.bind_eq_bind, Option.bind_some]
  refine ⟨?_, hwhole⟩
  rw [Json.toEvent?, if_pos ⟨hsound, depth⟩, hsplit]
  simp [hfields]

/-- An event that fits is read back from its text as it was, whatever its texts, names and
payload are:

* read as an event of unknown kind, it is the same event of the same kind;
* the text of a state change, read as a state change, gives the stamp and the change;
* the text of a message, read as a message, gives the stamp and the message. -/
theorem written_events_are_read_back {e : Event Stamp} (fits : e.Fits) :
    Json.parse e.text >>= Json.toEvent? = some e ∧
      (∀ c, e.news = .stateChange c →
        Json.parse e.text >>= Json.toStateChange? false = some (e.stamp, c)) ∧
      ∀ m, e.news = .message m →
        Json.parse e.text >>= Json.toMessage? 1 = some (e.stamp, m) := by
  obtain ⟨stamp, news⟩ := e
  have read := Timestamp.parse_print fits.time fits.year
  cases news with
  | stateChange c =>
    obtain ⟨hevent, hchange⟩ := read_stateChange read c
    refine ⟨hevent, ?_⟩
    constructor
    · intro c' h
      cases h
      exact hchange
    · intro m h
      cases h
  | message m =>
    obtain ⟨hevent, hmessage⟩ := read_message read (fits.payload m rfl).isPayload (fits.depth m rfl)
    refine ⟨hevent, ?_⟩
    constructor
    · intro c h
      cases h
    · intro m' h
      cases h
      exact hmessage

/-- A message that speaks of kinds wherever it can, from a leap second in the year 0. -/
def misleading : Event Stamp where
  stamp := ⟨"state_change", ⟨0, 2, 29, 23, 59, 60, 120000000⟩⟩
  news := .message ⟨"kind", "client", .record [
    ("client", .record [("kind", .array [.str "state_change", .int (-9223372036854775808)])]),
    ("kind", .int 18446744073709551615)]⟩

/-- It is read back as the message that it is. -/
theorem misleading_is_read_back :
    misleading.Fits ∧ Json.parse misleading.text >>= Json.toEvent? = some misleading := by
  have hkind : Json.IsValue (.record [("kind",
      .array [.str "state_change", .int (-9223372036854775808)])]) := by
    refine .object (List.pairwise_singleton _ _) ?_
    simp only [List.mem_singleton, forall_eq]
    refine .array ?_
    simp only [List.forall_mem_cons]
    exact ⟨.text "state_change", .int (by decide), fun _ h => by cases h⟩
  have payload : ∀ m, misleading.news = .message m → m.payload.IsValue := by
    intro m h
    cases h
    refine .object (List.pairwise_pair.mpr (by decide)) ?_
    simp only [List.forall_mem_cons]
    exact ⟨hkind, .int (by decide), fun _ h => by cases h⟩
  have fits : misleading.Fits := ⟨rfl, by decide, payload, fun m _ => by decide⟩
  exact ⟨fits, (written_events_are_read_back fits).1⟩

end Event

end PortletPage
