import Mathlib.Logic.Function.Basic
import PortletPage.Proofs.Changes

/-!
# Containers and their histories

A container keeps its entries in one list.  Seen from outside it is a map whose names
stand in the order in which they came, and its history alone says what it holds.

* A history is a list of changes: what was stored in a container and what was removed, in
  order.  `LastStored` says what a name is bound to after it, and `LastEnters` at which
  place the name came to stay.
* `Follows` is what a container and its history have in common: the bindings are the ones
  last stored, and the names stand in the order of their places.  `Follows.insert` and
  `Follows.erase` say that one operation keeps it.
* `Use` is what a program does with several containers, each of which has a history of its
  own.  A copy takes the history of its source along, and from then on each goes its own
  way (`follows_use`, `follows_useAll`).

`Parameters.container_is_ordered_map` reads the result off the history.
-/

namespace PortletPage.Parameters

/-! ## Histories -/

/-- The values were stored under the name, and since then nothing has been stored under
it and it has not been removed. -/
def LastStored (history : List Change) (name : String) (values : Values) : Prop :=
  ∃ before after, history = before ++ ⟨name, some values⟩ :: after ∧
    name ∉ after.map Change.name

/-- At that place of the history the name is stored while it is absent. -/
def Enters (history : List Change) (name : String) (place : Nat) : Prop :=
  (∃ values, history[place]? = some ⟨name, some values⟩) ∧
    ∀ values, ¬LastStored (history.take place) name values

/-- That is the last place where the name is stored while it is absent. -/
def LastEnters (history : List Change) (name : String) (place : Nat) : Prop :=
  Enters history name place ∧ ∀ other, Enters history name other → other ≤ place

theorem Enters.lt {history : List Change} {name : String} {place : Nat}
    (h : Enters history name place) : place < history.length := by
  obtain ⟨⟨values, hstored⟩, _⟩ := h
  exact (List.getElem?_eq_some_iff.mp hstored).1

section OneMore

variable (history : List Change) (c : Change) (name : String)

/-- After one change more its own name is bound as it says, and other names as before. -/
theorem lastStored_concat (values : Values) :
    LastStored (history ++ [c]) name values ↔
      if c.name = name then c.values = some values else LastStored history name values := by
  have hlast : ∀ changes, LastStored changes name values ↔
      Change.last? changes name = some (some values) :=
    fun changes => Change.last?_eq_some_iff_append.symm
  rw [hlast, hlast, Change.last?_append, Change.last?_cons, Change.last?_nil, Option.none_or]
  by_cases hname : c.name = name <;> simp [hname]

/-- What comes later does not matter for an earlier place. -/
theorem enters_concat_of_lt {place : Nat} (h : place < history.length) :
    Enters (history ++ [c]) name place ↔ Enters history name place := by
  rw [Enters, Enters, List.getElem?_append_left h,
    List.take_append_of_le_length (Nat.le_of_lt h)]

/-- A name enters at the last place if it is stored there and was absent. -/
theorem enters_concat_length :
    Enters (history ++ [c]) name history.length ↔
      (c.name = name ∧ c.values ≠ none) ∧ ∀ values, ¬LastStored history name values := by
  rw [Enters, List.getElem?_concat_length, List.take_left]
  refine and_congr_left fun _ => ?_
  obtain ⟨n, v⟩ := c
  simp [Option.ne_none_iff_exists', exists_and_left]

/-- A change by which the name does not enter leaves its place as it is. -/
theorem lastEnters_concat_of_still (still : ¬Enters (history ++ [c]) name history.length)
    (place : Nat) :
    LastEnters (history ++ [c]) name place ↔ LastEnters history name place := by
  have hsame : ∀ place, Enters (history ++ [c]) name place ↔ Enters history name place := by
    intro place
    rcases Nat.lt_trichotomy place history.length with hlt | rfl | hgt
    · exact enters_concat_of_lt history c name hlt
    · exact iff_of_false still fun h => Nat.lt_irrefl _ h.lt
    · refine iff_of_false (fun h => ?_) fun h => Nat.lt_asymm h.lt hgt
      have hlt := h.lt
      rw [List.length_append, List.length_singleton] at hlt
      omega
  simp only [LastEnters, hsame]

/-- A change by which the name enters gives it the last place. -/
theorem lastEnters_concat_of_new (new : Enters (history ++ [c]) name history.length)
    (place : Nat) : LastEnters (history ++ [c]) name place ↔ place = history.length := by
  have hle : ∀ other, Enters (history ++ [c]) name other → other ≤ history.length := by
    intro other h
    have hlt := h.lt
    rw [List.length_append, List.length_singleton] at hlt
    omega
  constructor
  · intro h
    exact Nat.le_antisymm (hle place h.1) (h.2 _ new)
  · intro hplace
    subst hplace
    exact ⟨new, hle⟩

end OneMore

/-! ## Containers that follow their histories -/

/-- What a container and its history have in common. -/
structure Follows (history : List Change) (p : Parameters) : Prop where
  /-- A name is bound to the values that were last stored under it. -/
  bindings : ∀ name values, p.get? name = some values ↔ LastStored history name values
  /-- Every name that is bound has a place where it entered. -/
  entered : ∀ name ∈ p.names, ∃ place, LastEnters history name place
  /-- The names stand in the order of their places. -/
  order : p.names.Pairwise fun earlier later =>
    ∀ i j, LastEnters history earlier i → LastEnters history later j → i < j

theorem follows_empty : Follows [] empty where
  bindings := by
    intro name values
    refine iff_of_false (by simp) ?_
    rintro ⟨before, after, heq, _⟩
    exact absurd heq (by simp)
  entered := fun _ h => nomatch h
  order := List.Pairwise.nil

namespace Follows

variable {history : List Change} {p : Parameters}

theorem mem_names_iff (h : Follows history p) (name : String) :
    name ∈ p.names ↔ ∃ values, LastStored history name values := by
  rw [Parameters.mem_names_iff, Option.ne_none_iff_exists']
  simp only [h.bindings]

/-- A name that is there already keeps its place, whatever is done. -/
theorem lastEnters_concat (h : Follows history p) {name : String} (hname : name ∈ p.names)
    (c : Change) (place : Nat) :
    LastEnters (history ++ [c]) name place ↔ LastEnters history name place := by
  refine lastEnters_concat_of_still history c name ?_ place
  intro new
  obtain ⟨values, hstored⟩ := (h.mem_names_iff name).mp hname
  exact ((enters_concat_length history c name).mp new).2 values hstored

/-- Names that are there already keep their order. -/
theorem order_concat (h : Follows history p) {names : List String} (sub : names.Sublist p.names)
    (c : Change) : names.Pairwise fun earlier later =>
      ∀ i j, LastEnters (history ++ [c]) earlier i → LastEnters (history ++ [c]) later j →
        i < j := by
  refine (h.order.sublist sub).imp_of_mem ?_
  intro earlier later hearlier hlater hlt i j hi hj
  exact hlt i j ((h.lastEnters_concat (sub.subset hearlier) c i).mp hi)
    ((h.lastEnters_concat (sub.subset hlater) c j).mp hj)

theorem entered_concat (h : Follows history p) {name : String} (hname : name ∈ p.names)
    (c : Change) : ∃ place, LastEnters (history ++ [c]) name place := by
  obtain ⟨place, hplace⟩ := h.entered name hname
  exact ⟨place, (h.lastEnters_concat hname c place).mpr hplace⟩

/-- Storing under a name is followed. -/
theorem insert (h : Follows history p) (name : String) (values : Values) :
    Follows (history ++ [⟨name, some values⟩]) (p.insert name values) := by
  have hbindings : ∀ other v, (p.insert name values).get? other = some v ↔
      LastStored (history ++ [⟨name, some values⟩]) other v := by
    intro other v
    rw [get?_insert, lastStored_concat]
    by_cases hother : other = name
    · simp [hother]
    · rw [if_neg hother, if_neg (Ne.symm hother), h.bindings]
  by_cases hname : name ∈ p.names
  · have hnames : (p.insert name values).names = p.names := by rw [names_insert, if_pos hname]
    refine ⟨hbindings, ?_, ?_⟩
    · rw [hnames]
      exact fun other hother => h.entered_concat hother _
    · rw [hnames]
      exact h.order_concat (List.Sublist.refl _) _
  · -- the name comes last, and enters at the last place of the history
    have hnew : Enters (history ++ [⟨name, some values⟩]) name history.length := by
      refine (enters_concat_length _ _ _).mpr ⟨⟨rfl, Option.some_ne_none values⟩, ?_⟩
      intro v hstored
      exact hname ((h.mem_names_iff name).mpr ⟨v, hstored⟩)
    have hplace := lastEnters_concat_of_new history _ name hnew
    have hnames : (p.insert name values).names = p.names ++ [name] := by
      rw [names_insert, if_neg hname]
    refine ⟨hbindings, ?_, ?_⟩
    · rw [hnames, List.forall_mem_append, List.forall_mem_singleton]
      exact ⟨fun other hother => h.entered_concat hother _, history.length, (hplace _).mpr rfl⟩
    · rw [hnames, List.pairwise_append]
      refine ⟨h.order_concat (List.Sublist.refl _) _, List.pairwise_singleton _ _, ?_⟩
      intro earlier hearlier later hlater i j hi hj
      obtain rfl := List.mem_singleton.mp hlater
      obtain rfl := (hplace j).mp hj
      exact ((h.lastEnters_concat hearlier _ i).mp hi).1.lt

/-- Removing a name is followed. -/
theorem erase (h : Follows history p) (name : String) :
    Follows (history ++ [⟨name, none⟩]) (p.erase name) := by
  have hnames : (p.erase name).names.Sublist p.names := by
    rw [names_erase]
    exact List.erase_sublist
  refine ⟨?_, fun other hother => h.entered_concat (hnames.subset hother) _,
    h.order_concat hnames _⟩
  intro other v
  rw [get?_erase, lastStored_concat]
  by_cases hother : other = name
  · simp [hother]
  · rw [if_neg hother, if_neg (Ne.symm hother), h.bindings]

/-- Storing entries one after the other is followed. -/
theorem insertAll (h : Follows history p) (entries : List Entry) :
    Follows (history ++ entries.map fun entry => ⟨entry.1, some entry.2⟩)
      (entries.foldl (fun p entry => p.insert entry.1 entry.2) p) := by
  induction entries generalizing history p with
  | nil =>
    rw [List.map_nil, List.append_nil]
    exact h
  | cons entry rest ih =>
    have hrest := ih (h.insert entry.1 entry.2)
    rw [List.append_assoc, List.singleton_append] at hrest
    exact hrest

end Follows

/-! ## Containers in use -/

/-- What a program does with its containers, each of which it keeps under a word. -/
inductive Use where
  /-- Stores one value or a sequence of them. -/
  | insert (target name : String) (binding : Binding)
  /-- Stores a sequence of values. -/
  | insertAll (target name : String) (values : Values)
  | remove (target name : String)
  /-- Puts a new container in the place of `target`, built from entries. -/
  | build (target : String) (entries : List (String × Binding))
  /-- Puts a copy of `source` in the place of `target`. -/
  | copy (source target : String)

/-- The entries that are stored for bindings. -/
def stored (entries : List (String × Binding)) : List Entry :=
  entries.map fun entry => (entry.1, entry.2.values)

/-- The containers after a use. -/
def use (containers : String → Parameters) : Use → String → Parameters
  | .insert target name binding =>
    Function.update containers target ((containers target).insert name binding.values)
  | .insertAll target name values =>
    Function.update containers target ((containers target).insert name values)
  | .remove target name =>
    Function.update containers target ((containers target).remove name).2
  | .build target entries => Function.update containers target (ofEntries (stored entries))
  | .copy source target => Function.update containers target (containers source)

/-- The containers after a sequence of uses. -/
def useAll (containers : String → Parameters) (uses : List Use) : String → Parameters :=
  uses.foldl use containers

/-- The history of a container that is built from entries. -/
def storing (entries : List Entry) : List Change :=
  entries.map fun entry => ⟨entry.1, some entry.2⟩

/-- The histories after a use.  They know nothing of entry lists. -/
def record (histories : String → List Change) : Use → String → List Change
  | .insert target name binding =>
    Function.update histories target (histories target ++ [⟨name, some binding.values⟩])
  | .insertAll target name values =>
    Function.update histories target (histories target ++ [⟨name, some values⟩])
  | .remove target name =>
    Function.update histories target (histories target ++ [⟨name, none⟩])
  | .build target entries => Function.update histories target (storing (stored entries))
  | .copy source target => Function.update histories target (histories source)

/-- The histories after a sequence of uses. -/
def recordAll (histories : String → List Change) (uses : List Use) : String → List Change :=
  uses.foldl record histories

theorem follows_ofEntries (entries : List Entry) :
    Follows (storing entries) (ofEntries entries) :=
  follows_empty.insertAll entries

/-- A container follows the history of being built from its own entries. -/
theorem follows_storing (p : Parameters) : Follows (storing p.entries) p := by
  have hbuilt := follows_ofEntries p.entries
  rw [ofEntries_entries] at hbuilt
  exact hbuilt

section Uses

variable {histories : String → List Change} {containers : String → Parameters}

/-- To put one container in its place leaves the others alone. -/
theorem follows_update (h : ∀ word, Follows (histories word) (containers word))
    {history : List Change} {p : Parameters} (hp : Follows history p) (target word : String) :
    Follows (Function.update histories target history word)
      (Function.update containers target p word) := by
  by_cases hword : word = target
  · subst hword
    rw [Function.update_self, Function.update_self]
    exact hp
  · rw [Function.update_of_ne hword, Function.update_of_ne hword]
    exact h word

/-- Every container follows its history after one use more. -/
theorem follows_use (h : ∀ word, Follows (histories word) (containers word)) (u : Use)
    (word : String) : Follows (record histories u word) (use containers u word) := by
  cases u with
  | insert target name binding =>
    exact follows_update h ((h target).insert name binding.values) target word
  | insertAll target name values =>
    exact follows_update h ((h target).insert name values) target word
  | remove target name =>
    have hremoved : Follows (histories target ++ [⟨name, none⟩])
        ((containers target).remove name).2 := by
      rw [remove_snd]
      exact (h target).erase name
    exact follows_update h hremoved target word
  | build target entries =>
    exact follows_update h (follows_ofEntries (stored entries)) target word
  | copy source target => exact follows_update h (h source) target word

/-- And so after any sequence of uses. -/
theorem follows_useAll (h : ∀ word, Follows (histories word) (containers word))
    (uses : List Use) (word : String) :
    Follows (recordAll histories uses word) (useAll containers uses word) := by
  induction uses generalizing histories containers with
  | nil => exact h word
  | cons u rest ih => exact ih (follows_use h u)

end Uses

/-! ## Containers as ordered maps -/

/-- Whatever containers there are at the start, and whatever is done with them and with
copies of them, each container is an ordered map that its history determines:

* no name occurs twice;
* a name is bound to the values that were last stored under it, if it has not been removed
  since, and to nothing otherwise;
* the first value of a name is missing exactly if the name is absent or bound to the empty
  sequence, and else it is the first one, which may be null;
* the names that are bound are listed in the order of the places where they were last
  stored while absent;
* so replacing a binding moves no name, and a removal, which hands out exactly what was
  stored, leaves the other names in their order;
* built from its own entries, the container comes out the same. -/
theorem container_is_ordered_map (start : String → Parameters) (uses : List Use)
    (word : String) :
    let p := useAll start uses word
    let history := recordAll (fun word => storing (start word).entries) uses word
    p.names.Nodup ∧
      (∀ name values, p.get? name = some values ↔ LastStored history name values) ∧
      (∀ name, (p.first? name = none ↔ p.get? name = none ∨ p.get? name = some []) ∧
        ∀ value rest, p.get? name = some (value :: rest) → p.first? name = some value) ∧
      ((∀ name, name ∈ p.names ↔ ∃ values, LastStored history name values) ∧
        (∀ name ∈ p.names, ∃ place, LastEnters history name place) ∧
        p.names.Pairwise fun earlier later =>
          ∀ i j, LastEnters history earlier i → LastEnters history later j → i < j) ∧
      (∀ name (binding : Binding), name ∈ p.names →
        (p.insert name binding.values).names = p.names) ∧
      (∀ name, (∀ values, (p.remove name).1 = some values ↔ LastStored history name values) ∧
        (p.remove name).2.names = p.names.filter (· ≠ name)) ∧
      ofEntries p.entries = p := by
  intro p history
  have follows : Follows history p :=
    follows_useAll (fun word => follows_storing (start word)) uses word
  refine ⟨p.nodup_names, follows.bindings, ?_,
    ⟨follows.mem_names_iff, follows.entered, follows.order⟩, ?_, ?_, p.ofEntries_entries⟩
  · intro name
    cases hget : p.get? name with
    | none => simp [first?, hget]
    | some values => cases values <;> simp [first?, hget]
  · intro name binding hname
    rw [names_insert, if_pos hname]
  · intro name
    refine ⟨?_, ?_⟩
    · intro values
      rw [remove_fst]
      exact follows.bindings name values
    · rw [remove_snd, names_erase, p.nodup_names.erase_eq_filter]
      apply List.filter_congr
      intro other _
      rw [Bool.eq_iff_iff, bne_iff_ne, decide_eq_true_eq]

/-- A city and a zoom are stored, and a copy is made.  Then the city is removed and comes
back, and the zoom is replaced. -/
def itinerary : List Use :=
  [.insert "own" "city" (.single (some "Rome")), .insert "own" "zoom" (.sequence []),
    .copy "own" "copy", .remove "own" "city", .insert "own" "city" (.single (some "Oslo")),
    .insertAll "own" "zoom" [none, some "9"]]

/-- The city comes last now, and the copy has the order and the bindings of before. -/
theorem city_comes_back_last :
    let own := useAll (fun _ => empty) itinerary "own"
    let copy := useAll (fun _ => empty) itinerary "copy"
    own.names = ["zoom", "city"] ∧ copy.names = ["city", "zoom"] ∧
      own.first? "zoom" = some none ∧ copy.first? "zoom" = none ∧
      (own.insert "zoom" (Binding.single none).values).names = ["zoom", "city"] ∧
      LastStored (recordAll (fun _ => []) itinerary "own") "city" [some "Oslo"] := by
  intro own copy
  have hown : own.names = ["zoom", "city"] := by decide
  obtain ⟨-, hbindings, hfirst, -, hinsert, -⟩ :=
    container_is_ordered_map (fun _ => empty) itinerary "own"
  obtain ⟨-, -, hcopied, -⟩ := container_is_ordered_map (fun _ => empty) itinerary "copy"
  refine ⟨hown, by decide, (hfirst "zoom").2 none [some "9"] (by decide),
    (hcopied "zoom").1.mpr (Or.inr (by decide)), ?_, (hbindings "city" _).mp (by decide)⟩
  exact (hinsert "zoom" (.single none) (by decide)).trans hown

end PortletPage.Parameters
