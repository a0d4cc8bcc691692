import PortletPage.RenderState

/-!
# Differences between render states

A change says what becomes of one parameter: it is bound to new values, or it is
removed.  Applying a change also tells whether the container was touched.

A delta lists what a submission changes: mode and window state where they
differ, and one parameter change for each name whose binding differs.  Changes
of names that the portlet shares with others are kept apart from the rest.
-/

namespace PortletPage

/-! ## Parameter changes -/

/-- What becomes of one parameter; no values means that it is removed. -/
structure Change where
  name : String
  values : Option Values
  deriving DecidableEq, Repr

namespace Change

/-- Applies the change and says whether anything changed.  Binding a name to the
values it has, and removing an absent name, change nothing. -/
def apply (c : Change) (p : Parameters) : Bool × Parameters :=
  match c.values with
  | some values =>
    if p.get? c.name = some values then (false, p) else (true, p.insert c.name values)
  | none => (p.contains c.name, p.erase c.name)

/-- Applies the changes in turn. -/
def applyAll (changes : List Change) (p : Parameters) : Parameters :=
  changes.foldl (fun q c => (c.apply q).2) p

/-- Applies the changes in turn and lists, in order, the names of those that
changed something; a name that changed twice is listed twice. -/
def applyAllNaming : List Change → Parameters → List String × Parameters
  | [], p => ([], p)
  | c :: rest, p =>
    let (changed, q) := c.apply p
    let (names, r) := applyAllNaming rest q
    (if changed then c.name :: names else names, r)

end Change

/-! ## Deltas -/

/-- The difference from one render state to another. -/
structure Delta where
  /-- The new mode, if it differs. -/
  mode : Option String
  /-- The new window state, if it differs. -/
  window : Option String
  /-- The changes of names that are not shared. -/
  privateChanges : List Change
  /-- The changes of names that are shared. -/
  publicChanges : List Change
  deriving DecidableEq, Repr

namespace Delta

/-- The change that gives `name` the binding it has in `p`. -/
def changeTo (p : Parameters) (name : String) : Change := ⟨name, p.get? name⟩

/-- The delta from `previous` to `submitted`.  A name goes to the public changes
exactly when `isPublic` holds of it; names of the submitted state come first. -/
def between (previous submitted : RenderState) (isPublic : String → Bool) : Delta :=
  let names := submitted.parameters.changedNames previous.parameters
  { mode := if previous.mode = submitted.mode then none else some submitted.mode
    window := if previous.window = submitted.window then none else some submitted.window
    privateChanges :=
      (names.filter fun name => !isPublic name).map (changeTo submitted.parameters)
    publicChanges := (names.filter isPublic).map (changeTo submitted.parameters) }

/-- Whether the delta changes nothing. -/
def isEmpty (d : Delta) : Bool :=
  d.mode.isNone && d.window.isNone && d.privateChanges.isEmpty && d.publicChanges.isEmpty

end Delta

end PortletPage
