import PortletPage.Proofs.Replay

/-!
# The last change wins

A list of changes may mention a name as often as it likes.  What becomes of a container
does not depend on what the container held before, nor on how the changes of different
names are mixed: each name goes by its last change.

* `Change.apply_fst_eq_false_iff`: a change reports that it changed nothing exactly if it
  left the container as it was, its order included.
* `Change.Stays`: a name that is bound from first to last while the changes are applied.
  Such names keep their order (`Change.filter_names_applyAll`), whatever else comes and
  goes between them.

`Change.last_change_wins` puts this together.
-/

namespace PortletPage.Change

/-! ## What a change reports -/

/-- A change reports that it changed nothing exactly if it changed nothing, not even the
order. -/
theorem apply_fst_eq_false_iff (c : Change) (p : Parameters) :
    (c.apply p).1 = false ↔ (c.apply p).2 = p := by
  constructor
  · exact apply_of_unchanged
  · intro hsame
    have hbound : p.get? c.name = c.values := by
      have hget := get?_apply c p c.name
      rw [hsame, if_pos rfl] at hget
      exact hget
    rw [Bool.eq_false_iff, ne_eq, apply_fst, not_not]
    exact hbound

/-! ## Names that stay -/

/-- The name is bound before the changes, and after each of them. -/
def Stays : List Change → Parameters → String → Prop
  | [], p, name => name ∈ p.names
  | c :: rest, p, name => name ∈ p.names ∧ Stays rest (c.apply p).2 name

/-- Whether a name stays can be found out by applying the changes. -/
def decidableStays : (changes : List Change) → (p : Parameters) → (name : String) →
    Decidable (Stays changes p name)
  | [], p, name => inferInstanceAs (Decidable (name ∈ p.names))
  | c :: rest, p, name =>
    have := decidableStays rest (c.apply p).2 name
    inferInstanceAs (Decidable (name ∈ p.names ∧ Stays rest (c.apply p).2 name))

instance (changes : List Change) (p : Parameters) (name : String) :
    Decidable (Stays changes p name) :=
  decidableStays changes p name

theorem Stays.mem_names {changes : List Change} {p : Parameters} {name : String}
    (h : Stays changes p name) : name ∈ p.names := by
  cases changes with
  | nil => exact h
  | cons c rest => exact h.1

/-- A change whose name is bound before and after moves no name. -/
theorem names_apply_of_mem {c : Change} {p : Parameters} (before : c.name ∈ p.names)
    (after : c.name ∈ (c.apply p).2.names) : (c.apply p).2.names = p.names := by
  cases hv : c.values with
  | none =>
    -- a removal does not leave its name bound
    rw [Parameters.mem_names_iff, get?_apply, if_pos rfl] at after
    exact absurd hv after
  | some values =>
    rw [apply, hv]
    dsimp only
    split
    · rfl
    · rw [Parameters.names_insert, if_pos before]

/-- Names that stay keep their order. -/
theorem filter_names_applyAll {keep : String → Bool} {changes : List Change} {p : Parameters}
    (stay : ∀ name, keep name = true → Stays changes p name) :
    (applyAll changes p).names.filter keep = p.names.filter keep := by
  induction changes generalizing p with
  | nil => rfl
  | cons c rest ih =>
    have hrest : ∀ name, keep name = true → Stays rest (c.apply p).2 name :=
      fun name hname => (stay name hname).2
    have hstep : (c.apply p).2.names.filter keep = p.names.filter keep := by
      cases hc : keep c.name with
      | false => exact filter_names_apply hc p
      | true => rw [names_apply_of_mem (stay c.name hc).mem_names (hrest c.name hc).mem_names]
    exact (ih hrest).trans hstep

/-! ## The last change -/

/-- Whatever changes are applied in turn to whatever container:

* a name that they mention has the binding of its last change, and any other name the
  binding that it had;
* names that are bound all the time keep their order;
* a change reports that it changed nothing exactly if the container is identical to the
  one before, order included;
* a list with the same last change for each name leads to an equal container;
* and so does the same list when it is applied once more.

A record to which changes are passed on ends with the same container. -/
theorem last_change_wins (changes : List Change) (p : Parameters) :
    (∀ before c after, changes = before ++ c :: after → c.name ∉ after.map Change.name →
        (applyAll changes p).get? c.name = c.values) ∧
      (∀ name, name ∉ changes.map Change.name →
        (applyAll changes p).get? name = p.get? name) ∧
      (∀ keep : String → Bool, (∀ name, keep name = true → Stays changes p name) →
        (applyAll changes p).names.filter keep = p.names.filter keep) ∧
      (∀ (c : Change) (q : Parameters), (c.apply q).1 = false ↔ (c.apply q).2 = q) ∧
      (∀ changes', (∀ name, last? changes' name = last? changes name) →
        (applyAll changes' p).agrees (applyAll changes p) = true) ∧
      (applyAll changes (applyAll changes p)).agrees (applyAll changes p) = true ∧
      (applyAllNaming changes p).2 = applyAll changes p := by
  refine ⟨?_, ?_, fun keep => filter_names_applyAll, apply_fst_eq_false_iff, ?_, ?_,
    applyAllNaming_snd changes p⟩
  · intro before c after split hafter
    have hlast : last? changes c.name = some c.values :=
      last?_eq_some_iff_append.mpr ⟨before, after, split, hafter⟩
    rw [get?_applyAll, hlast, Option.getD_some]
  · intro name hname
    rw [get?_applyAll, last?_eq_none hname, Option.getD_none]
  · intro changes' hlast
    rw [Parameters.agrees_iff]
    intro name
    rw [get?_applyAll, get?_applyAll, hlast]
  · rw [Parameters.agrees_iff]
    intro name
    rw [get?_applyAll, get?_applyAll]
    cases last? changes name <;> rfl

/-- A map with a city, a zoom and a unit. -/
def zoomedMap : Parameters :=
  .ofEntries [("city", [some "Rome"]), ("zoom", [none]), ("unit", [])]

/-- The zoom goes and comes back, the city changes twice, and a language is new. -/
def refocus : List Change :=
  [⟨"city", some []⟩, ⟨"zoom", none⟩, ⟨"zoom", some [some "9"]⟩, ⟨"language", some [some "it"]⟩,
    ⟨"city", some [some "Oslo", none]⟩]

/-- City and unit keep their order.  To apply the changes again leads to an equal container,
though to another order: the zoom comes last now. -/
theorem refocus_is_applied_again :
    let after := applyAll refocus zoomedMap
    after.get? "city" = some [some "Oslo", none] ∧
      (after.names.filter fun name => name = "city" ∨ name = "unit") = ["city", "unit"] ∧
      (applyAll refocus after).agrees after = true ∧ applyAll refocus after ≠ after := by
  intro after
  obtain ⟨hlast, -, horder, -, -, hagain, -⟩ := last_change_wins refocus zoomedMap
  have hcity := hlast (refocus.take 4) ⟨"city", some [some "Oslo", none]⟩ [] rfl (by decide)
  have hstay : ∀ name, decide (name = "city" ∨ name = "unit") = true →
      Stays refocus zoomedMap name := by
    intro name hname
    rcases of_decide_eq_true hname with rfl | rfl <;> decide
  exact ⟨hcity, horder _ hstay, hagain, by decide⟩

end PortletPage.Change
