import PortletPage.Delta
import PortletPage.Proofs.Bindings
import PortletPage.Proofs.Changes

/-!
# What a delta lists

* `Delta.last?_publicChanges`: the public changes mention exactly the public
  names whose bindings differ, and ask for the submitted binding.
* `Delta.nodup_names_publicChanges`: they mention no name twice.
* `Delta.mem_publicChanges` and `Delta.mem_privateChanges`: how the changes are
  divided.  Together they mention each name whose binding differs once
  (`Delta.names_changes_perm`).
* `Delta.isEmpty_between_iff`: the delta is empty exactly when the two states
  agree.
-/

namespace PortletPage.Delta

/-- Changes to the bindings of one container: a name that is listed is given
its binding there, however often it is listed. -/
theorem last?_map_changeTo (p : Parameters) (names : List String) (name : String) :
    Change.last? (names.map (changeTo p)) name =
      if name ∈ names then some (p.get? name) else none := by
  induction names with
  | nil => simp
  | cons n rest ih =>
    rw [List.map_cons, Change.last?_cons, ih]
    by_cases hn : n = name
    · subst hn
      by_cases hmem : n ∈ rest <;> simp [changeTo, hmem]
    · have hne : ¬ name = n := fun e => hn e.symm
      by_cases hmem : name ∈ rest <;> simp [changeTo, hn, hne, hmem]

@[simp] theorem map_name_changeTo (p : Parameters) (names : List String) :
    (names.map (changeTo p)).map Change.name = names := by
  simp [changeTo, Function.comp_def]

/-- All changes of a delta. -/
def changes (d : Delta) : List Change := d.privateChanges ++ d.publicChanges

variable (previous submitted : RenderState) (isPublic : String → Bool)

theorem publicChanges_between :
    (between previous submitted isPublic).publicChanges =
      ((submitted.parameters.changedNames previous.parameters).filter isPublic).map
        (changeTo submitted.parameters) := rfl

theorem privateChanges_between :
    (between previous submitted isPublic).privateChanges =
      ((submitted.parameters.changedNames previous.parameters).filter
        fun name => !isPublic name).map (changeTo submitted.parameters) := rfl

/-- The public changes mention exactly the public names whose bindings differ,
with the submitted bindings. -/
theorem last?_publicChanges (name : String) :
    Change.last? (between previous submitted isPublic).publicChanges name =
      if isPublic name = true ∧
          previous.parameters.get? name ≠ submitted.parameters.get? name then
        some (submitted.parameters.get? name)
      else none := by
  rw [publicChanges_between, last?_map_changeTo]
  simp only [List.mem_filter, Parameters.mem_changedNames, and_comm, ne_comm]

theorem nodup_names_publicChanges :
    ((between previous submitted isPublic).publicChanges.map Change.name).Nodup := by
  rw [publicChanges_between, map_name_changeTo]
  exact (Parameters.nodup_changedNames _ _).filter _

/-- The changes for some of the names whose bindings differ give these names the
submitted bindings. -/
theorem mem_map_changeTo (keep : String → Bool) (c : Change) :
    c ∈ ((submitted.parameters.changedNames previous.parameters).filter keep).map
        (changeTo submitted.parameters) ↔
      keep c.name = true ∧
        previous.parameters.get? c.name ≠ submitted.parameters.get? c.name ∧
        c.values = submitted.parameters.get? c.name := by
  simp only [List.mem_map, List.mem_filter, Parameters.mem_changedNames]
  constructor
  · intro hlisted
    obtain ⟨name, ⟨hne, hkeep⟩, rfl⟩ := hlisted
    exact ⟨hkeep, hne.symm, rfl⟩
  · intro hchange
    obtain ⟨hkeep, hne, hvalues⟩ := hchange
    exact ⟨c.name, ⟨hne.symm, hkeep⟩, by cases c; simp_all [changeTo]⟩

/-- A change is listed as public exactly when it gives a public name with a
different binding the submitted one. -/
theorem mem_publicChanges (c : Change) :
    c ∈ (between previous submitted isPublic).publicChanges ↔
      isPublic c.name = true ∧
        previous.parameters.get? c.name ≠ submitted.parameters.get? c.name ∧
        c.values = submitted.parameters.get? c.name :=
  mem_map_changeTo previous submitted isPublic c

/-- A change is listed as private exactly when it gives a name that is not public and
has a different binding the submitted one. -/
theorem mem_privateChanges (c : Change) :
    c ∈ (between previous submitted isPublic).privateChanges ↔
      isPublic c.name = false ∧
        previous.parameters.get? c.name ≠ submitted.parameters.get? c.name ∧
        c.values = submitted.parameters.get? c.name := by
  rw [← Bool.not_eq_true']
  exact mem_map_changeTo previous submitted (fun name => !isPublic name) c

/-- Together the two lists mention the names whose bindings differ. -/
theorem names_changes_perm :
    ((between previous submitted isPublic).changes.map Change.name).Perm
      (submitted.parameters.changedNames previous.parameters) := by
  rw [changes, List.map_append, publicChanges_between, privateChanges_between,
    map_name_changeTo, map_name_changeTo]
  exact List.perm_append_comm.trans (List.filter_append_perm isPublic _)

/-- The delta is empty exactly when the states agree. -/
theorem isEmpty_between_iff :
    (between previous submitted isPublic).isEmpty = true ↔
      previous.agrees submitted = true := by
  have hnames : (submitted.parameters.changedNames previous.parameters) = [] ↔
      ∀ name, previous.parameters.get? name = submitted.parameters.get? name := by
    rw [Parameters.changedNames_eq_nil_iff]
    exact forall_congr' fun _ => eq_comm
  -- both partitions are empty exactly when there is nothing to divide
  have hparts : ∀ names : List String,
      ((names.filter fun name => !isPublic name) = [] ∧ names.filter isPublic = []) ↔
        names = [] := by
    intro names
    constructor
    · intro hparts
      obtain ⟨hprivate, hpublic⟩ := hparts
      rw [List.eq_nil_iff_forall_not_mem]
      intro name hmem
      rw [List.filter_eq_nil_iff] at hprivate hpublic
      have := hprivate name hmem
      have := hpublic name hmem
      simp_all
    · intro heq
      subst heq
      exact ⟨rfl, rfl⟩
  rw [RenderState.agrees_iff, ← hnames, ← hparts]
  simp only [isEmpty, between, Bool.and_eq_true, Option.isNone_iff_eq_none,
    List.isEmpty_iff, List.map_eq_nil_iff, and_assoc]
  have hmode : ∀ a b : String, (if a = b then none else some b) = none ↔ a = b := by
    intro a b
    split <;> simp_all
  rw [hmode, hmode]

end PortletPage.Delta
