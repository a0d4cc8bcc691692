/-!
# Render parameters

A parameter binds a name to a sequence of nullable values.  An absent name, a
name bound to the empty sequence and a name bound to a single null are three
different things:

* absent: `get? = none`, `first? = none`;
* bound to `[]`: `get? = some []`, `first? = none`;
* bound to `[none]`: `get? = some [none]`, `first? = some none`.

`Parameters` keeps its entries in the order in which the names were first
stored.  `insert` replaces the values of a name where it stands, `erase` closes
the gap, and no operation reorders the names it does not touch.  Names are
pairwise distinct, and the structure carries the proof.

Two containers *agree* (`Parameters.agrees`) when they have the same bindings,
whatever their order.  Structural equality `=` also compares the order.

The lemmas about these operations are in `PortletPage.Parameters.Lemmas`.
-/

namespace PortletPage

/-- The stored form of a parameter: an ordered sequence of nullable values. -/
abbrev Values := List (Option String)

/-- What a caller may bind a name to: one nullable value, or a sequence of them. -/
inductive Binding where
  | single (value : Option String)
  | sequence (values : Values)
  deriving Repr, DecidableEq

/-- The stored form of a binding: a single value is a sequence of one. -/
def Binding.values : Binding → Values
  | .single value => [value]
  | .sequence values => values

/-! ## Entry lists -/

/-- One named parameter with its values. -/
abbrev Entry := String × Values

namespace Entries

/-- Replaces the values of `name` where it stands, or appends the entry at the end. -/
def insert (name : String) (values : Values) : List Entry → List Entry
  | [] => [(name, values)]
  | (n, v) :: rest =>
    if n = name then (n, values) :: rest else (n, v) :: insert name values rest

/-- Removes the first entry called `name`. -/
def erase (name : String) : List Entry → List Entry
  | [] => []
  | (n, v) :: rest => if n = name then rest else (n, v) :: erase name rest

/-- Removes the first entry called `name` and hands out its values. -/
def remove (name : String) : List Entry → Option Values × List Entry
  | [] => (none, [])
  | (n, v) :: rest =>
    if n = name then (some v, rest)
    else
      let (values, kept) := remove name rest
      (values, (n, v) :: kept)

/-- The values of the first entry called `name`. -/
def get? (name : String) : List Entry → Option Values
  | [] => none
  | (n, v) :: rest => if n = name then some v else get? name rest

/-- A stored name keeps its place, a new one comes last. -/
theorem map_fst_insert (name : String) (values : Values) (entries : List Entry) :
    (insert name values entries).map Prod.fst =
      if name ∈ entries.map Prod.fst then entries.map Prod.fst
      else entries.map Prod.fst ++ [name] := by
  induction entries with
  | nil => simp [insert]
  | cons entry rest ih =>
    obtain ⟨n, v⟩ := entry
    by_cases h : n = name
    · simp [insert, h]
    · have h' : ¬ name = n := fun e => h e.symm
      simp only [insert, if_neg h, List.map_cons, ih, List.mem_cons, h', false_or]
      split <;> simp

/-- Removing a name keeps the order of the others. -/
theorem map_fst_erase (name : String) (entries : List Entry) :
    (erase name entries).map Prod.fst = (entries.map Prod.fst).erase name := by
  induction entries with
  | nil => rfl
  | cons entry rest ih =>
    obtain ⟨n, v⟩ := entry
    by_cases h : n = name
    · simp [erase, h]
    · simp [erase, h, ih]

/-- Inserting into entries with distinct names gives entries with distinct names. -/
theorem nodup_insert {name : String} {values : Values} {entries : List Entry}
    (h : (entries.map Prod.fst).Nodup) :
    ((insert name values entries).map Prod.fst).Nodup := by
  rw [map_fst_insert]
  split
  · exact h
  · rename_i hn
    rw [List.nodup_append]
    refine ⟨h, by simp, ?_⟩
    intro a ha b hb hab
    have hb' : b = name := by simpa using hb
    exact hn (hb' ▸ hab ▸ ha)

/-- Removing from entries with distinct names gives entries with distinct names. -/
theorem nodup_erase {name : String} {entries : List Entry}
    (h : (entries.map Prod.fst).Nodup) :
    ((erase name entries).map Prod.fst).Nodup := by
  rw [map_fst_erase]
  exact h.erase name

/-- What is handed out is what a look-up finds, and the rest is what erasing leaves. -/
theorem remove_eq (name : String) (entries : List Entry) :
    remove name entries = (get? name entries, erase name entries) := by
  induction entries with
  | nil => rfl
  | cons entry rest ih =>
    obtain ⟨n, v⟩ := entry
    rw [remove, get?, erase, ih]
    split <;> rfl

theorem nodup_remove {name : String} {entries : List Entry}
    (h : (entries.map Prod.fst).Nodup) : ((remove name entries).2.map Prod.fst).Nodup := by
  rw [remove_eq]
  exact nodup_erase h

end Entries

/-! ## The container -/

/-- Parameters in the order in which their names were first stored. -/
structure Parameters where
  /-- The named values, in order. -/
  entries : List Entry
  /-- No name occurs twice. -/
  nodup : (entries.map Prod.fst).Nodup
  deriving DecidableEq

namespace Parameters

/-- The container without parameters. -/
def empty : Parameters := ⟨[], List.nodup_nil⟩

instance : EmptyCollection Parameters := ⟨empty⟩

instance : Inhabited Parameters := ⟨empty⟩

instance : Repr Parameters := ⟨fun p n => reprPrec p.entries n⟩

@[ext] theorem ext {a b : Parameters} (h : a.entries = b.entries) : a = b := by
  cases a; cases b; cases h; rfl

/-- The values bound to `name`, nulls included. -/
def get? (p : Parameters) (name : String) : Option Values := Entries.get? name p.entries

/-- The values bound to `name`, or `fallback` when the name is absent. -/
def getD (p : Parameters) (name : String) (fallback : Values) : Values :=
  (p.get? name).getD fallback

/-- The first value bound to `name`; `some none` is a stored null. -/
def first? (p : Parameters) (name : String) : Option (Option String) :=
  (p.get? name).bind List.head?

/-- The first value bound to `name`, or `fallback` when there is none.  A stored
null is an answer and is not replaced. -/
def firstD (p : Parameters) (name : String) (fallback : Option String) : Option String :=
  (p.first? name).getD fallback

/-- Binds `name` to `values`: in place when the name is set, at the end otherwise. -/
def insert (p : Parameters) (name : String) (values : Values) : Parameters :=
  ⟨Entries.insert name values p.entries, Entries.nodup_insert p.nodup⟩

/-- Removes `name`; an absent name leaves the container as it is. -/
def erase (p : Parameters) (name : String) : Parameters :=
  ⟨Entries.erase name p.entries, Entries.nodup_erase p.nodup⟩

/-- Removes `name`, as `erase`, and hands out the values that it was bound to. -/
def remove (p : Parameters) (name : String) : Option Values × Parameters :=
  ((Entries.remove name p.entries).1,
    ⟨(Entries.remove name p.entries).2, Entries.nodup_remove p.nodup⟩)

/-- Builds a container from entries: a repeated name takes the later values and
keeps the earlier place. -/
def ofEntries (entries : List Entry) : Parameters :=
  entries.foldl (fun p entry => p.insert entry.1 entry.2) empty

/-- The names that are set, in order. -/
def names (p : Parameters) : List String := p.entries.map Prod.fst

/-- How many names are set. -/
def size (p : Parameters) : Nat := p.entries.length

/-- Whether no name is set. -/
def isEmpty (p : Parameters) : Bool := p.entries.isEmpty

/-- Whether `name` is set. -/
def contains (p : Parameters) (name : String) : Bool := (p.get? name).isSome

/-- Whether two containers have the same bindings, in whatever order: as many
names, and each binding of the first also in the second. -/
def agrees (a b : Parameters) : Bool :=
  a.size == b.size && a.entries.all fun entry => b.get? entry.1 == some entry.2

/-- The names whose bindings differ: first those of `a`, in its order, that are
bound otherwise or not at all in `b`, then those that only `b` binds, in its
order. -/
def changedNames (a b : Parameters) : List String :=
  (a.entries.filter fun entry => b.get? entry.1 != some entry.2).map Prod.fst
    ++ b.names.filter fun name => !a.contains name

end Parameters

end PortletPage
