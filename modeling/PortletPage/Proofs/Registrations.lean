import PortletPage.Proofs.Records
import PortletPage.Registry

/-!
# What stands in a registry

A registry keeps one list of listeners and one counter.  Seen from outside it keeps an
ordered list of callbacks for each portlet and event type, and each handle detaches what
it was given for, once.

* `Registry.useAll` makes a registry of any additions and removals and keeps a journal of
  them: what was asked for and what the answer was.
* `Registry.standing` are the additions of a journal that have not been taken back.  The
  journal alone says so; it knows nothing of lists and counters.
* `Registry.Recorded` is what a registry and its journal have in common: the listeners are
  what stands, and the numbers of the handles count the additions.  One use keeps it
  (`Recorded.use`), and so does any sequence of uses (`Recorded.useAll`).

`Registry.registry_is_ordered_multimap` reads the result off the journal.
-/

namespace PortletPage.Registry

variable {κ : Type}

/-! ## Uses and their journal -/

/-- What a registry is used for. -/
inductive Use (κ : Type) where
  | add (portlet : String) (type : EventType) (callback : κ)
  | remove (handle : Handle)

/-- An addition as it was asked for, and the handle that was given for it. -/
structure Addition (κ : Type) where
  portlet : String
  type : EventType
  callback : κ
  handle : Handle

/-- A use with its answer. -/
inductive Line (κ : Type) where
  | added (addition : Addition κ)
  | removed (handle : Handle) (found : Bool)

/-- The use that a line is about. -/
def Line.use : Line κ → Use κ
  | .added a => .add a.portlet a.type a.callback
  | .removed handle _ => .remove handle

/-- Uses the registry once. -/
def use (r : Registry κ) : Use κ → Line κ × Registry κ
  | .add portlet type callback =>
    let (handle, r') := r.add portlet type callback
    (.added ⟨portlet, type, callback, handle⟩, r')
  | .remove handle =>
    let (found, r') := r.remove handle
    (.removed handle found, r')

/-- Uses the registry again and again; the journal has a line for each use. -/
def useAll : List (Use κ) → Registry κ → List (Line κ) × Registry κ
  | [], r => ([], r)
  | u :: rest, r =>
    let (line, r') := r.use u
    let (journal, r'') := useAll rest r'
    (line :: journal, r'')

/-- The additions of a journal, in order. -/
def additions (journal : List (Line κ)) : List (Addition κ) :=
  journal.filterMap fun
    | .added a => some a
    | .removed _ _ => none

/-- The handles whose removal succeeded, in order. -/
def withdrawn (journal : List (Line κ)) : List Handle :=
  journal.filterMap fun
    | .removed handle true => some handle
    | _ => none

/-- The additions that have not been taken back, in order. -/
def standing (journal : List (Line κ)) : List (Addition κ) :=
  (additions journal).filter fun a => a.handle ∉ withdrawn journal

/-- The journal is about the uses. -/
theorem map_use_useAll (uses : List (Use κ)) (r : Registry κ) :
    (useAll uses r).1.map Line.use = uses := by
  induction uses generalizing r with
  | nil => rfl
  | cons u rest ih =>
    rw [useAll, List.map_cons, ih]
    cases u <;> rfl

section Lines

variable (journal : List (Line κ))

theorem additions_added (a : Addition κ) :
    additions (journal ++ [.added a]) = additions journal ++ [a] :=
  List.filterMap_append

theorem additions_removed (handle : Handle) (found : Bool) :
    additions (journal ++ [.removed handle found]) = additions journal := by
  rw [additions, List.filterMap_append]
  exact List.append_nil _

theorem withdrawn_added (a : Addition κ) :
    withdrawn (journal ++ [.added a]) = withdrawn journal := by
  rw [withdrawn, List.filterMap_append]
  exact List.append_nil _

theorem withdrawn_removed (handle : Handle) (found : Bool) :
    withdrawn (journal ++ [.removed handle found]) =
      withdrawn journal ++ if found then [handle] else [] := by
  rw [withdrawn, List.filterMap_append]
  cases found <;> rfl

/-- A new addition stands unless its handle has been taken back before. -/
theorem standing_added {a : Addition κ} (fresh : a.handle ∉ withdrawn journal) :
    standing (journal ++ [.added a]) = standing journal ++ [a] := by
  rw [standing, additions_added, withdrawn_added, List.filter_append]
  simp [standing, fresh]

/-- What is taken back does not stand any longer, and all else does. -/
theorem standing_removed (handle : Handle) :
    standing (journal ++ [.removed handle true]) =
      (standing journal).filter fun a => a.handle != handle := by
  rw [standing, additions_removed, withdrawn_removed, standing, List.filter_filter]
  apply List.filter_congr
  intro a _
  rw [Bool.eq_iff_iff]
  simp [and_comm]

/-- A removal that finds nothing changes nothing. -/
theorem standing_removed_false (handle : Handle) :
    standing (journal ++ [.removed handle false]) = standing journal := by
  rw [standing, additions_removed, withdrawn_removed, if_neg Bool.false_ne_true,
    List.append_nil, standing]

end Lines

/-! ## Journal and registry -/

/-- The listener of an addition. -/
def Addition.listener (a : Addition κ) : Listener κ := ⟨a.handle, a.type, a.callback⟩

/-- What holds of a registry and the journal of all its uses. -/
structure Recorded (journal : List (Line κ)) (r : Registry κ) : Prop where
  /-- The listeners are the additions that stand. -/
  listeners : r.listeners = (standing journal).map Addition.listener
  portlets : ∀ a ∈ additions journal, a.handle.portlet = a.portlet
  /-- The handles are numbered in the order of the additions. -/
  numbers : (additions journal).map (fun a => a.handle.number) =
    List.range' 1 (additions journal).length
  lastNumber : r.lastNumber = (additions journal).length
  /-- Only what was added is taken back. -/
  given : ∀ handle ∈ withdrawn journal, ∃ a ∈ additions journal, a.handle = handle
  size : r.size + (withdrawn journal).length = (additions journal).length

theorem recorded_empty : Recorded [] (empty : Registry κ) where
  listeners := rfl
  portlets := fun _ h => nomatch h
  numbers := rfl
  lastNumber := rfl
  given := fun _ h => nomatch h
  size := rfl

namespace Recorded

variable {journal : List (Line κ)} {r : Registry κ}

/-- Different additions have different handles. -/
theorem nodup_handles (h : Recorded journal r) :
    ((additions journal).map Addition.handle).Nodup := by
  have hnumbers : (((additions journal).map Addition.handle).map Handle.number).Nodup := by
    rw [List.map_map]
    show ((additions journal).map fun a => a.handle.number).Nodup
    rw [h.numbers]
    exact List.nodup_range'
  exact hnumbers.of_map Handle.number

/-- The number of an addition is at most the number of additions. -/
theorem number_le (h : Recorded journal r) {a : Addition κ} (ha : a ∈ additions journal) :
    a.handle.number ≤ (additions journal).length := by
  have hnumber : a.handle.number ∈ (additions journal).map fun a => a.handle.number :=
    List.mem_map.mpr ⟨a, ha, rfl⟩
  rw [h.numbers, List.mem_range'_1] at hnumber
  omega

theorem map_handle_listeners (h : Recorded journal r) :
    (r.listeners.map Listener.handle) = (standing journal).map Addition.handle := by
  rw [h.listeners, List.map_map]
  rfl

theorem nodup_listeners (h : Recorded journal r) : (r.listeners.map Listener.handle).Nodup := by
  rw [h.map_handle_listeners]
  exact h.nodup_handles.sublist (List.filter_sublist.map _)

/-- A handle is attached if it has been given and not been taken back. -/
theorem isAttached_iff (h : Recorded journal r) (handle : Handle) :
    r.isAttached handle = true ↔
      (∃ a ∈ additions journal, a.handle = handle) ∧ handle ∉ withdrawn journal := by
  have hmem : r.isAttached handle = true ↔ handle ∈ r.listeners.map Listener.handle := by
    simp [isAttached]
  rw [hmem, h.map_handle_listeners]
  simp only [standing, List.mem_map, List.mem_filter, decide_eq_true_eq]
  constructor
  · rintro ⟨a, ⟨ha, hkept⟩, rfl⟩
    exact ⟨⟨a, ha, rfl⟩, hkept⟩
  · rintro ⟨⟨a, ha, rfl⟩, hkept⟩
    exact ⟨a, ⟨ha, hkept⟩, rfl⟩

/-- With one listener for each handle, a removal drops the listeners of its handle. -/
theorem listeners_remove (h : Recorded journal r) (handle : Handle) :
    (r.remove handle).2.listeners = r.listeners.filter fun l => l.handle != handle :=
  eraseP_of_nodup_map h.nodup_listeners handle

/-- A removal that finds nothing changes nothing. -/
theorem remove_of_not_attached (h : Recorded journal r) {handle : Handle}
    (lost : r.isAttached handle = false) : (r.remove handle).2 = r := by
  have hother : ∀ l ∈ r.listeners, (l.handle != handle) = true := by
    intro l hl
    rw [bne_iff_ne]
    intro heq
    have hattached : r.isAttached handle = true := by
      rw [isAttached, List.any_eq_true]
      exact ⟨l, hl, beq_iff_eq.mpr heq⟩
    rw [lost] at hattached
    cases hattached
  have hlisteners := h.listeners_remove handle
  rw [List.filter_eq_self.mpr hother] at hlisteners
  exact congrArg (Registry.mk r.lastNumber) hlisteners

/-- An addition is recorded. -/
theorem add (h : Recorded journal r) (portlet : String) (type : EventType) (callback : κ) :
    Recorded (journal ++ [.added ⟨portlet, type, callback, (r.add portlet type callback).1⟩])
      (r.add portlet type callback).2 := by
  -- the number of the new handle has not been given before
  have hfresh : (r.add portlet type callback).1 ∉ withdrawn journal := by
    intro hmem
    obtain ⟨a, ha, heq⟩ := h.given _ hmem
    have hbound := h.number_le ha
    have hnumber : a.handle.number = r.lastNumber + 1 := congrArg Handle.number heq
    have hlast := h.lastNumber
    omega
  constructor
  case listeners =>
    rw [standing_added journal hfresh, List.map_append, ← h.listeners]
    rfl
  case portlets =>
    rw [additions_added, List.forall_mem_append, List.forall_mem_singleton]
    exact ⟨h.portlets, rfl⟩
  case numbers =>
    rw [additions_added, List.map_append, h.numbers, List.length_append, List.length_singleton,
      List.range'_concat, ← h.lastNumber]
    simp [Registry.add, Nat.add_comm]
  case lastNumber =>
    rw [additions_added, List.length_append, ← h.lastNumber]
    rfl
  case given =>
    rw [withdrawn_added, additions_added]
    intro handle hmem
    obtain ⟨a, ha, heq⟩ := h.given handle hmem
    exact ⟨a, List.mem_append_left _ ha, heq⟩
  case size =>
    rw [withdrawn_added, additions_added, List.length_append, ← h.size]
    simp [Registry.add, Registry.size]
    omega

/-- A removal is recorded. -/
theorem remove (h : Recorded journal r) (handle : Handle) :
    Recorded (journal ++ [.removed handle (r.remove handle).1]) (r.remove handle).2 := by
  show Recorded (journal ++ [.removed handle (r.isAttached handle)]) (r.remove handle).2
  cases hattached : r.isAttached handle with
  | false =>
    rw [h.remove_of_not_attached hattached]
    have hwithdrawn : withdrawn (journal ++ [.removed handle false]) = withdrawn journal := by
      rw [withdrawn_removed, if_neg Bool.false_ne_true, List.append_nil]
    constructor
    case listeners => rw [standing_removed_false, h.listeners]
    case portlets => rw [additions_removed]; exact h.portlets
    case numbers => rw [additions_removed]; exact h.numbers
    case lastNumber => rw [additions_removed]; exact h.lastNumber
    case given => rw [additions_removed, hwithdrawn]; exact h.given
    case size => rw [additions_removed, hwithdrawn]; exact h.size
  | true =>
    obtain ⟨hgiven, hkept⟩ := (h.isAttached_iff handle).mp hattached
    have hwithdrawn : withdrawn (journal ++ [.removed handle true]) =
        withdrawn journal ++ [handle] := by
      rw [withdrawn_removed, if_pos rfl]
    constructor
    case listeners =>
      rw [h.listeners_remove, h.listeners, List.filter_map, standing_removed]
      rfl
    case portlets => rw [additions_removed]; exact h.portlets
    case numbers => rw [additions_removed]; exact h.numbers
    case lastNumber => rw [additions_removed]; exact h.lastNumber
    case given =>
      rw [additions_removed, hwithdrawn, List.forall_mem_append, List.forall_mem_singleton]
      exact ⟨h.given, hgiven⟩
    case size =>
      have hsize := h.size
      have hone : (r.remove handle).2.size + 1 = r.size := by
        obtain ⟨l, hl, heq⟩ := List.any_eq_true.mp hattached
        have hpos := List.length_pos_of_mem hl
        have herase : (r.remove handle).2.listeners.length = r.listeners.length - 1 :=
          List.length_eraseP_of_mem hl heq
        rw [Registry.size, Registry.size, herase]
        omega
      rw [additions_removed, hwithdrawn, List.length_append, List.length_singleton]
      omega

/-- One use more is recorded. -/
theorem use (h : Recorded journal r) (u : Use κ) :
    Recorded (journal ++ [(r.use u).1]) (r.use u).2 := by
  cases u with
  | add portlet type callback => exact h.add portlet type callback
  | remove handle => exact h.remove handle

/-- Any further uses are recorded. -/
theorem useAll (h : Recorded journal r) (uses : List (Use κ)) :
    Recorded (journal ++ (r.useAll uses).1) (r.useAll uses).2 := by
  induction uses generalizing journal r with
  | nil =>
    rw [Registry.useAll, List.append_nil]
    exact h
  | cons u rest ih =>
    have hrest := ih (h.use u)
    rw [List.append_assoc, List.singleton_append] at hrest
    exact hrest

/-- A look-up by what was asked for. -/
theorem filter_listeners (h : Recorded journal r) {p : Listener κ → Bool} {q : Addition κ → Bool}
    (hpq : ∀ a ∈ additions journal, p a.listener = q a) :
    r.listeners.filter p = ((standing journal).filter q).map Addition.listener := by
  rw [h.listeners, List.filter_map]
  congr 1
  apply List.filter_congr
  exact fun a ha => hpq a (List.mem_filter.mp ha).1

/-- A removal that finds something detaches one listener and no other. -/
theorem exists_of_attached (h : Recorded journal r) {handle : Handle}
    (found : r.isAttached handle = true) :
    ∃ before l after, r.listeners = before ++ l :: after ∧ l.handle = handle ∧
      (∀ l' ∈ before ++ after, l'.handle ≠ handle) ∧
      (r.remove handle).2.listeners = before ++ after := by
  obtain ⟨l, hl, hhandle⟩ := List.any_eq_true.mp found
  have hhandle : l.handle = handle := beq_iff_eq.mp hhandle
  obtain ⟨before, after, hsplit⟩ := List.append_of_mem hl
  have hother : ∀ l' ∈ before ++ after, l'.handle ≠ handle := by
    have hnodup := h.nodup_listeners
    rw [hsplit, List.map_append, List.map_cons, List.nodup_middle, List.nodup_cons,
      ← List.map_append] at hnodup
    intro l' hl' heq
    exact hnodup.1 (List.mem_map.mpr ⟨l', hl', heq.trans hhandle.symm⟩)
  refine ⟨before, l, after, hsplit, hhandle, hother, ?_⟩
  have hkept : ∀ l' ∈ before ++ after, (l'.handle != handle) = true :=
    fun l' hl' => bne_iff_ne.mpr (hother l' hl')
  rw [List.forall_mem_append] at hkept
  rw [h.listeners_remove, hsplit, List.filter_append,
    List.filter_cons_of_neg (by simp [hhandle]), List.filter_eq_self.mpr hkept.1,
    List.filter_eq_self.mpr hkept.2]

theorem listenersFor_eq (h : Recorded journal r) (portlet : String) (type : EventType) :
    r.listenersFor portlet type =
      ((standing journal).filter fun a => a.portlet = portlet ∧ a.type = type).map
        Addition.callback := by
  have hlookup := h.filter_listeners (p := fun l => l.isFor portlet type)
    (q := fun a => a.portlet = portlet ∧ a.type = type) (by
      intro a ha
      rw [Bool.eq_iff_iff]
      simp [Listener.isFor, Addition.listener, h.portlets a ha])
  rw [listenersFor, hlookup, List.map_map]
  rfl

theorem listenersOfType_eq (h : Recorded journal r) (type : EventType) :
    r.listenersOfType type =
      ((standing journal).filter fun a => a.type = type).map
        fun a => (a.portlet, a.callback) := by
  have hlookup := h.filter_listeners (p := fun l => l.type == type)
    (q := fun a => a.type = type) (fun a _ => rfl)
  rw [listenersOfType, hlookup, List.map_map]
  apply List.map_congr_left
  intro a ha
  have hadded := (List.mem_filter.mp (List.mem_filter.mp ha).1).1
  exact congrArg (·, a.callback) (h.portlets a hadded)

end Recorded

/-! ## The registry as a multimap -/

/-- Whatever a registry is used for, from the first use on, at every point:

* the handles given are numbered by the additions, so that they are pairwise different and
  numbers of 64 bits last for fewer than 2⁶⁴ additions;
* a handle is removed with success exactly if it was given and has not been removed with
  success before; then its listener and no other is detached, and else nothing changes;
* the callbacks for a portlet and an event type are those of the additions that stand for
  them, in the order of the additions, and so are, over all portlets, the listeners of a
  type;
* there are as many listeners as additions less the removals that succeeded. -/
theorem registry_is_ordered_multimap (uses : List (Use κ)) :
    let journal := (empty.useAll uses).1
    let r := (empty.useAll uses).2
    journal.map Line.use = uses ∧
      (additions journal).map (fun a => a.handle.number) =
        List.range' 1 (additions journal).length ∧
      ((additions journal).map Addition.handle).Nodup ∧
      (∀ handle,
        ((r.remove handle).1 = true ↔
          (∃ a ∈ additions journal, a.handle = handle) ∧ handle ∉ withdrawn journal) ∧
        ((r.remove handle).1 = true → ∃ before l after,
          r.listeners = before ++ l :: after ∧ l.handle = handle ∧
            (∀ l' ∈ before ++ after, l'.handle ≠ handle) ∧
            (r.remove handle).2.listeners = before ++ after) ∧
        ((r.remove handle).1 = false → (r.remove handle).2 = r)) ∧
      (∀ portlet type, r.listenersFor portlet type =
        ((standing journal).filter fun a => a.portlet = portlet ∧ a.type = type).map
          Addition.callback) ∧
      (∀ type, r.listenersOfType type =
        ((standing journal).filter fun a => a.type = type).map
          fun a => (a.portlet, a.callback)) ∧
      r.size + (withdrawn journal).length = (additions journal).length := by
  intro journal r
  have recorded : Recorded journal r := recorded_empty.useAll uses
  refine ⟨map_use_useAll uses empty, recorded.numbers, recorded.nodup_handles, ?_, ?_, ?_,
    recorded.size⟩
  · exact fun handle => ⟨recorded.isAttached_iff handle, recorded.exists_of_attached,
      recorded.remove_of_not_attached⟩
  · exact fun portlet type => recorded.listenersFor_eq portlet type
  · exact fun type => recorded.listenersOfType_eq type

/-- The handle of the first addition in `replacement`. -/
def firstHandle : Handle := ⟨1, "map", onStateChange⟩

/-- A listener of the map is replaced by another one, with one of the weather between
them, and the old handle is used again. -/
def replacement : List (Use String) :=
  [.add "map" .stateChange "old", .add "weather" .stateChange "weather", .remove firstHandle,
    .remove firstHandle, .add "map" .stateChange "new"]

/-- The old handle finds nothing, and the new listener stays. -/
theorem old_handle_finds_nothing :
    let r := (empty.useAll replacement).2
    (r.remove firstHandle).1 = false ∧ (r.remove firstHandle).2 = r ∧
      r.listenersFor "map" .stateChange = ["new"] ∧
      r.listenersOfType .stateChange = [("weather", "weather"), ("map", "new")] ∧
      r.size + 1 = 3 := by
  intro r
  obtain ⟨_, _, _, hremove, hfor, hofType, hsize⟩ := registry_is_ordered_multimap replacement
  obtain ⟨hfound, _, hkept⟩ := hremove firstHandle
  have hwithdrawn : firstHandle ∈ withdrawn (empty.useAll replacement).1 := by decide
  have hlost : (r.remove firstHandle).1 = false :=
    Bool.eq_false_iff.mpr fun found => (hfound.mp found).2 hwithdrawn
  exact ⟨hlost, hkept hlost, hfor "map" .stateChange, hofType .stateChange, hsize⟩

end PortletPage.Registry
