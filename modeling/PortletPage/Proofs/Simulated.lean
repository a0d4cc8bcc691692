import PortletPage.Proofs.Delta
import PortletPage.Server

/-!
# What the simulated server grants

The bindings that a granted action leaves, and how they show in its public
changes.

* `SimulatedServer.last?_merge`: for a public name, the last change that the
  merge lists is the binding of the merged state, and a name that it does not
  list keeps its binding.
* `SimulatedServer.get?_merge` and `SimulatedServer.mem_merge`: the merged state
  and its public changes, when the parameters of the action have distinct names.
* `SimulatedServer.names_merge` and `SimulatedServer.merge_of_bound`: new names come
  last, and what is bound already leads to no change.
* `SimulatedServer.action_is_merged` says what an action is answered with, and that the
  same action has nothing left to do afterwards.
-/

namespace PortletPage.SimulatedServer

theorem merge_cons_skip {isPublic : String → Bool} {name : String} {values : Values}
    {rest : List Entry} {s : RenderState} (h : s.parameters.get? name = some values) :
    merge isPublic ((name, values) :: rest) s = merge isPublic rest s := by
  rw [merge, if_pos h]

theorem merge_cons_changes {isPublic : String → Bool} {name : String} {values : Values}
    {rest : List Entry} {s : RenderState} (h : s.parameters.get? name ≠ some values) :
    (merge isPublic ((name, values) :: rest) s).1 =
      if isPublic name then
        ⟨name, some values⟩ :: (merge isPublic rest (s.bind name values)).1
      else (merge isPublic rest (s.bind name values)).1 := by
  rw [merge, if_neg h]

theorem merge_cons_state {isPublic : String → Bool} {name : String} {values : Values}
    {rest : List Entry} {s : RenderState} (h : s.parameters.get? name ≠ some values) :
    (merge isPublic ((name, values) :: rest) s).2 =
      (merge isPublic rest (s.bind name values)).2 := by
  rw [merge, if_neg h]

/-- For a public name the list of changes tells the merged binding: it is that
of the last change, or the binding before if there is none. -/
theorem last?_merge (isPublic : String → Bool) (entries : List Entry) (s : RenderState)
    {name : String} (h : isPublic name = true) :
    (Change.last? (merge isPublic entries s).1 name).getD (s.parameters.get? name) =
      (merge isPublic entries s).2.parameters.get? name := by
  induction entries generalizing s with
  | nil => rfl
  | cons entry rest ih =>
    obtain ⟨n, values⟩ := entry
    by_cases hs : s.parameters.get? n = some values
    · rw [merge_cons_skip hs, ih]
    · rw [merge_cons_state hs, ← ih, merge_cons_changes hs]
      have hbind : (s.bind n values).parameters.get? name =
          if name = n then some values else s.parameters.get? name :=
        Parameters.get?_insert s.parameters n name values
      rw [hbind]
      by_cases hn : name = n
      · subst hn
        rw [if_pos h, Change.last?_cons]
        cases Change.last? (merge isPublic rest (s.bind name values)).1 name <;> simp
      · have hne : ¬ n = name := fun e => hn e.symm
        rw [if_neg hn]
        split
        · rw [Change.last?_cons]
          simp [hne]
        · rfl

/-- A merge leaves mode and window state alone. -/
theorem merge_state (isPublic : String → Bool) (entries : List Entry) (s : RenderState) :
    (merge isPublic entries s).2.mode = s.mode ∧
      (merge isPublic entries s).2.window = s.window := by
  induction entries generalizing s with
  | nil => exact ⟨rfl, rfl⟩
  | cons entry rest ih =>
    obtain ⟨n, values⟩ := entry
    by_cases hs : s.parameters.get? n = some values
    · rw [merge_cons_skip hs]
      exact ih s
    · rw [merge_cons_state hs]
      exact ih (s.bind n values)

/-- The names that a merge lists are names of entries, in their order. -/
theorem names_merge_sublist (isPublic : String → Bool) (entries : List Entry)
    (s : RenderState) :
    ((merge isPublic entries s).1.map Change.name).Sublist (entries.map Prod.fst) := by
  induction entries generalizing s with
  | nil => exact List.Sublist.refl _
  | cons entry rest ih =>
    obtain ⟨n, values⟩ := entry
    by_cases hs : s.parameters.get? n = some values
    · rw [merge_cons_skip hs]
      exact (ih s).cons _
    · rw [merge_cons_changes hs]
      split
      · exact (ih _).cons_cons _
      · exact (ih _).cons _

/-- A merged state has the bindings of the action, and its own where there is
none. -/
theorem get?_merge (isPublic : String → Bool) {entries : List Entry}
    (h : (entries.map Prod.fst).Nodup) (s : RenderState) (name : String) :
    (merge isPublic entries s).2.parameters.get? name =
      (Entries.get? name entries).or (s.parameters.get? name) := by
  induction entries generalizing s with
  | nil => rfl
  | cons entry rest ih =>
    obtain ⟨n, values⟩ := entry
    rw [List.map_cons, List.nodup_cons] at h
    have habsent : Entries.get? n rest = none := (Entries.get?_eq_none_iff n rest).mpr h.1
    by_cases hs : s.parameters.get? n = some values
    · rw [merge_cons_skip hs, ih h.2, Entries.get?]
      by_cases hn : n = name
      · subst hn
        simp [habsent, hs]
      · rw [if_neg hn]
    · have hbind : (s.bind n values).parameters.get? name =
          if name = n then some values else s.parameters.get? name :=
        Parameters.get?_insert s.parameters n name values
      rw [merge_cons_state hs, ih h.2, hbind, Entries.get?]
      by_cases hn : n = name
      · subst hn
        simp [habsent]
      · have hne : ¬ name = n := fun e => hn e.symm
        rw [if_neg hn, if_neg hne]

/-- The changes that a merge lists bind public names otherwise than they were. -/
theorem mem_merge (isPublic : String → Bool) {entries : List Entry}
    (h : (entries.map Prod.fst).Nodup) (s : RenderState) (c : Change) :
    c ∈ (merge isPublic entries s).1 ↔
      isPublic c.name = true ∧ s.parameters.get? c.name ≠ c.values ∧
        c.values ≠ none ∧ c.values = Entries.get? c.name entries := by
  induction entries generalizing s with
  | nil =>
    simp only [merge, Entries.get?, List.not_mem_nil, false_iff]
    exact fun hc => hc.2.2.1 hc.2.2.2
  | cons entry rest ih =>
    obtain ⟨n, values⟩ := entry
    rw [List.map_cons, List.nodup_cons] at h
    by_cases hn : n = c.name
    · -- no later entry has the name
      have hrest : ∀ t, c ∉ (merge isPublic rest t).1 := by
        intro t hmem
        have habsent : Entries.get? c.name rest = none :=
          (Entries.get?_eq_none_iff _ rest).mpr (hn ▸ h.1)
        obtain ⟨_, _, hsome, hget⟩ := (ih h.2 t).mp hmem
        exact hsome (hget.trans habsent)
      rw [Entries.get?, if_pos hn]
      by_cases hs : s.parameters.get? n = some values
      · rw [merge_cons_skip hs]
        refine iff_of_false (hrest s) ?_
        intro hc
        exact hc.2.1 (by rw [← hn, hs, hc.2.2.2])
      · rw [merge_cons_changes hs]
        obtain ⟨m, v⟩ := c
        have hn : n = m := hn
        subst hn
        by_cases hpublic : isPublic n = true
        · rw [if_pos hpublic, List.mem_cons, or_iff_left (hrest _)]
          constructor
          · intro heq
            cases heq
            exact ⟨hpublic, hs, Option.some_ne_none values, rfl⟩
          · intro hc
            exact congrArg (Change.mk n) hc.2.2.2
        · rw [if_neg hpublic]
          exact iff_of_false (hrest _) fun hc => hpublic hc.1
    · have hbind : (s.bind n values).parameters.get? c.name = s.parameters.get? c.name := by
        have hinsert := Parameters.get?_insert s.parameters n c.name values
        rwa [if_neg fun e => hn e.symm] at hinsert
      have hhead : c ≠ ⟨n, some values⟩ := fun heq => hn (heq ▸ rfl)
      rw [Entries.get?, if_neg hn]
      by_cases hs : s.parameters.get? n = some values
      · rw [merge_cons_skip hs, ih h.2]
      · rw [merge_cons_changes hs, ← hbind, ← ih h.2]
        split
        · rw [List.mem_cons, or_iff_right hhead]
        · rfl

/-- Names that are set keep their places, and new ones follow in the order of the
entries. -/
theorem names_merge (isPublic : String → Bool) {entries : List Entry}
    (h : (entries.map Prod.fst).Nodup) (s : RenderState) :
    (merge isPublic entries s).2.parameters.names =
      s.parameters.names ++
        (entries.map Prod.fst).filter fun name => name ∉ s.parameters.names := by
  induction entries generalizing s with
  | nil => exact (List.append_nil _).symm
  | cons entry rest ih =>
    obtain ⟨n, values⟩ := entry
    rw [List.map_cons, List.nodup_cons] at h
    by_cases hs : s.parameters.get? n = some values
    · have hset : n ∈ s.parameters.names := by
        rw [Parameters.mem_names_iff, hs]
        exact Option.some_ne_none values
      rw [merge_cons_skip hs, ih h.2, List.map_cons, List.filter_cons_of_neg (by simpa using hset)]
    · have hbind : (s.bind n values).parameters.names =
          if n ∈ s.parameters.names then s.parameters.names else s.parameters.names ++ [n] :=
        Parameters.names_insert s.parameters n values
      rw [merge_cons_state hs, ih h.2, hbind, List.map_cons]
      by_cases hset : n ∈ s.parameters.names
      · rw [if_pos hset, List.filter_cons_of_neg (by simpa using hset)]
      · -- no later entry has the name, so it is new only once
        have hrest : ((rest.map Prod.fst).filter fun name => name ∉ s.parameters.names ++ [n]) =
            (rest.map Prod.fst).filter fun name => name ∉ s.parameters.names := by
          apply List.filter_congr
          intro name hname
          have hne : name ≠ n := fun heq => h.1 (heq ▸ hname)
          simp [hne]
        rw [if_neg hset, hrest, List.filter_cons_of_pos (by simpa using hset), List.append_assoc,
          List.singleton_append]

/-- A merge of parameters that are bound already changes nothing. -/
theorem merge_of_bound {isPublic : String → Bool} {entries : List Entry} {s : RenderState}
    (h : ∀ entry ∈ entries, s.parameters.get? entry.1 = some entry.2) :
    merge isPublic entries s = ([], s) := by
  induction entries with
  | nil => rfl
  | cons entry rest ih =>
    obtain ⟨hentry, hrest⟩ := List.forall_mem_cons.mp h
    rw [merge_cons_skip hentry, ih hrest]

/-! ## Answers to actions -/

/-- The changes that are listed for an action are the public names whose bindings the merge
changes, with their merged bindings. -/
theorem mem_merge_iff (isPublic : String → Bool) (p : Parameters) (s : RenderState)
    (c : Change) :
    c ∈ (merge isPublic p.entries s).1 ↔
      isPublic c.name = true ∧
        (merge isPublic p.entries s).2.parameters.get? c.name ≠ s.parameters.get? c.name ∧
        c.values = (merge isPublic p.entries s).2.parameters.get? c.name := by
  rw [mem_merge isPublic p.nodup, get?_merge isPublic p.nodup]
  cases hget : Entries.get? c.name p.entries with
  | none =>
    rw [Option.none_or]
    constructor
    · rintro ⟨_, _, hsome, hnone⟩
      exact absurd hnone hsome
    · rintro ⟨_, hdiffers, _⟩
      exact absurd rfl hdiffers
  | some values =>
    rw [Option.some_or]
    constructor
    · rintro ⟨hpublic, hdiffers, _, hvalues⟩
      rw [hvalues] at hdiffers
      exact ⟨hpublic, hdiffers.symm, hvalues⟩
    · rintro ⟨hpublic, hdiffers, hvalues⟩
      rw [hvalues]
      exact ⟨hpublic, hdiffers.symm, Option.some_ne_none values, rfl⟩

/-- A server that works answers every action with an update in which

* mode and window state are those of the submitted state;
* a name is bound as in the action, or else as in the submitted state;
* the names of the submitted state keep their places, and new ones follow in the order of
  the action;
* the public changes come without repetition and in the order of the action, and tell
  exactly which public names are bound otherwise than in the submitted state, and how.

The same action on the updated state gives that state, its order included, without any
change. -/
theorem action_is_merged {server : SimulatedServer} (works : server.failing = false)
    (a : ActionSubmission) :
    ∃ update, server.answer (.action a) =
        (.granted update, { server with calls := server.calls + 1 }) ∧
      (update.state.mode = a.state.mode ∧ update.state.window = a.state.window) ∧
      (∀ name, update.state.parameters.get? name =
        (a.parameters.get? name).or (a.state.parameters.get? name)) ∧
      update.state.parameters.names = a.state.parameters.names ++
        a.parameters.names.filter (fun name => name ∉ a.state.parameters.names) ∧
      ((update.publicChanges.map Change.name).Nodup ∧
        (update.publicChanges.map Change.name).Sublist a.parameters.names) ∧
      (∀ c, c ∈ update.publicChanges ↔
        c.name ∈ a.publicNames ∧
          update.state.parameters.get? c.name ≠ a.state.parameters.get? c.name ∧
          c.values = update.state.parameters.get? c.name) ∧
      ∀ again : SimulatedServer, again.failing = false →
        again.answer (.action { a with state := update.state }) =
          (.granted ⟨update.state, []⟩, { again with calls := again.calls + 1 }) := by
  have hanswer : ∀ {s : SimulatedServer}, s.failing = false → ∀ b : ActionSubmission,
      s.answer (.action b) =
        (.granted ⟨(merge b.publicNames.contains b.parameters.entries b.state).2,
          (merge b.publicNames.contains b.parameters.entries b.state).1⟩,
          { s with calls := s.calls + 1 }) := by
    intro s hs b
    rw [answer, hs]
    rfl
  have hsublist := names_merge_sublist a.publicNames.contains a.parameters.entries a.state
  have hget := get?_merge a.publicNames.contains a.parameters.nodup a.state
  refine ⟨_, hanswer works a, merge_state _ _ _, hget, names_merge _ a.parameters.nodup _,
    ⟨a.parameters.nodup.sublist hsublist, hsublist⟩, ?_, ?_⟩
  · intro c
    rw [mem_merge_iff, List.contains_iff_mem]
  · intro again hagain
    have hbound : ∀ entry ∈ a.parameters.entries,
        (merge a.publicNames.contains a.parameters.entries a.state).2.parameters.get? entry.1 =
          some entry.2 := by
      intro entry hentry
      have hentry : Entries.get? entry.1 a.parameters.entries = some entry.2 :=
        (a.parameters.mem_entries_iff _ _).mp hentry
      rw [hget, hentry, Option.some_or]
    rw [hanswer hagain, merge_of_bound hbound]

/-- An action that replaces the city, repeats the unit and brings two new names, one of them
public. -/
def travel : ActionSubmission where
  portlet := "weather"
  parameters := .ofEntries [("zoom", [none]), ("city", [some "Oslo"]), ("unit", []),
    ("days", [some "3"])]
  state := ⟨"VIEW", "NORMAL", .ofEntries [("unit", []), ("city", [some "Rome"])]⟩
  publicNames := ["city", "zoom", "unit"]

/-- The unit is bound as before, and the days are not public, so that two changes are
listed. -/
theorem travel_is_merged :
    ∃ update, (answer {} (.action travel)).1 = .granted update ∧
      update.publicChanges.map Change.name = ["zoom", "city"] ∧
      update.state.parameters.names = ["unit", "city", "zoom", "days"] ∧
      update.state.parameters.get? "city" = some [some "Oslo"] ∧
      (answer {} (.action { travel with state := update.state })).1 =
        .granted ⟨update.state, []⟩ := by
  obtain ⟨update, hanswer, _, hget, hnames, _, _, hagain⟩ :=
    @action_is_merged {} rfl travel
  have hupdate : Answer.granted (grant (.action travel)) = .granted update :=
    congrArg Prod.fst hanswer
  refine ⟨update, congrArg Prod.fst hanswer, ?_, hnames, hget "city",
    congrArg Prod.fst (hagain {} rfl)⟩
  cases hupdate
  rfl

end PortletPage.SimulatedServer
