import EntityGraph.Dict

/-!
# Looking up names

What a dictionary answers for a name after it was built, extended or changed. A name is
looked up in its entries, and as these ascend, an entry is what its name leads to.
-/

namespace EntityGraph

universe u v

/-- The first entry decides for its own name and leaves the other names to the rest. -/
theorem lookup_cons_eq {κ : Type u} {α : Type v} [BEq κ] [LawfulBEq κ] [DecidableEq κ]
    (key : κ) (entry : κ × α) (rest : List (κ × α)) :
    (entry :: rest).lookup key = if key = entry.1 then some entry.2 else rest.lookup key := by
  rw [List.lookup_cons]
  by_cases same : key = entry.1
  · simp [same]
  · have notEqual : (key == entry.1) = false := by simpa using same
    simp [same, notEqual]

/-- A name that no entry has is not found. -/
theorem lookup_eq_none_of_not_mem {α : Type u} {name : String} {entries : List (String × α)}
    (absent : name ∉ entries.map Prod.fst) : entries.lookup name = none := by
  rw [List.lookup_eq_none_iff]
  intro entry member
  have different : name ≠ entry.1 := fun same =>
    absent (same ▸ List.mem_map_of_mem member)
  simpa using different

/-- Changing the values of entries changes what a name leads to. -/
theorem lookup_map {α : Type u} {β : Type v} (change : String → α → β)
    (entries : List (String × α)) (name : String) :
    (entries.map fun entry => (entry.1, change entry.1 entry.2)).lookup name =
      (entries.lookup name).map (change name) := by
  induction entries with
  | nil => rfl
  | cons entry rest inductionHypothesis =>
    rw [List.map_cons, lookup_cons_eq, lookup_cons_eq, inductionHypothesis]
    by_cases same : name = entry.1 <;> simp [same]

/-- Leaving out names leaves the others with what they lead to. -/
theorem lookup_filter {α : Type u} (keep : String → Bool) (entries : List (String × α))
    (name : String) :
    (entries.filter fun entry => keep entry.1).lookup name =
      if keep name then entries.lookup name else none := by
  induction entries with
  | nil => simp
  | cons entry rest inductionHypothesis =>
    rw [List.filter_cons, lookup_cons_eq]
    cases kept : keep entry.1 with
    | true =>
      rw [if_pos rfl, lookup_cons_eq, inductionHypothesis]
      by_cases same : name = entry.1 <;> simp [same, kept]
    | false =>
      rw [if_neg Bool.false_ne_true, inductionHypothesis]
      by_cases same : name = entry.1 <;> simp [same, kept]

/-- Among entries with different names, an entry is what its name leads to. -/
theorem lookup_eq_some_iff_mem {α : Type u} {name : String} {value : α}
    {entries : List (String × α)} (distinct : (entries.map Prod.fst).Nodup) :
    entries.lookup name = some value ↔ (name, value) ∈ entries := by
  induction entries with
  | nil => simp
  | cons entry rest inductionHypothesis =>
    obtain ⟨other, old⟩ := entry
    rw [List.map_cons, List.nodup_cons] at distinct
    rw [lookup_cons_eq, List.mem_cons]
    by_cases same : name = other
    · subst same
      have absent : (name, value) ∉ rest := fun member =>
        distinct.1 (List.mem_map.2 ⟨_, member, rfl⟩)
      simp [absent, eq_comm]
    · simp [same, inductionHypothesis distinct.2]

/-- What a name leads to after an insertion. -/
theorem lookup_insertEntry {α : Type u} (name other : String) (value : α)
    (entries : List (String × α)) :
    (insertEntry name value entries).lookup other =
      if other = name then some value else entries.lookup other := by
  induction entries with
  | nil => simp [insertEntry, lookup_cons_eq]
  | cons entry rest inductionHypothesis =>
    obtain ⟨first, old⟩ := entry
    simp only [insertEntry]
    split
    · rw [lookup_cons_eq]
    · split
      · next _ same =>
        subst same
        rw [lookup_cons_eq, lookup_cons_eq]
        by_cases same : other = name <;> simp [same]
      · next _ different =>
        rw [lookup_cons_eq, lookup_cons_eq, inductionHypothesis]
        by_cases same : other = name
        · subst same
          simp [different]
        · simp [same]

namespace Dict

/-- No two entries have one name. -/
theorem distinct {α : Type u} (dict : Dict α) : (dict.entries.map Prod.fst).Nodup := by
  rw [List.nodup_iff_pairwise_ne, List.pairwise_map]
  refine dict.ascending.imp fun {left right} less same => ?_
  rw [same] at less
  exact String.lt_irrefl _ less

/-- A name leads to the value of its entry. -/
theorem get?_eq_some_iff {α : Type u} {dict : Dict α} {name : String} {value : α} :
    dict.get? name = some value ↔ (name, value) ∈ dict.entries :=
  lookup_eq_some_iff_mem dict.distinct

/-- The empty dictionary answers nothing. -/
@[simp] theorem get?_empty {α : Type u} (name : String) : (empty : Dict α).get? name = none :=
  rfl

/-- What a name leads to after an insertion. -/
theorem get?_insert {α : Type u} (dict : Dict α) (name other : String) (value : α) :
    (dict.insert name value).get? other = if other = name then some value else dict.get? other :=
  lookup_insertEntry name other value dict.entries

/-- Changing the values changes what a name leads to. -/
theorem get?_map {α : Type u} {β : Type v} (change : String → α → β) (dict : Dict α)
    (name : String) : (dict.map change).get? name = (dict.get? name).map (change name) :=
  lookup_map change dict.entries name

/-- What a name leads to after several insertions: the last of them counts. -/
theorem get?_foldl_insert {α : Type u} (entries : List (String × α)) (dict : Dict α)
    (name : String) :
    (entries.foldl (fun dict entry => dict.insert entry.1 entry.2) dict).get? name =
      (entries.reverse.lookup name).or (dict.get? name) := by
  induction entries generalizing dict with
  | nil => rfl
  | cons entry rest inductionHypothesis =>
    rw [List.foldl_cons, inductionHypothesis, get?_insert, List.reverse_cons,
      List.lookup_append, lookup_cons_eq, Option.or_assoc]
    by_cases same : name = entry.1 <;> simp [same]

/-- What a name leads to in the dictionary of a list. -/
theorem get?_ofList {α : Type u} (entries : List (String × α)) (name : String) :
    (ofList entries).get? name = entries.reverse.lookup name := by
  rw [ofList, get?_foldl_insert]
  simp

/-- In the dictionary of a list without repeated names, the entries are those of the list. -/
theorem get?_ofList_eq_some_iff {α : Type u} {entries : List (String × α)} {name : String}
    {value : α} (distinct : (entries.map Prod.fst).Nodup) :
    (ofList entries).get? name = some value ↔ (name, value) ∈ entries := by
  have reversed : (entries.reverse.map Prod.fst).Nodup := by
    rw [List.map_reverse]
    exact List.pairwise_reverse.2 (distinct.imp Ne.symm)
  rw [get?_ofList, lookup_eq_some_iff_mem reversed, List.mem_reverse]

/-- What a dictionary made of a list answers is in the list. -/
theorem mem_of_get?_ofList {α : Type u} {entries : List (String × α)} {name : String}
    {value : α} (found : (ofList entries).get? name = some value) : (name, value) ∈ entries := by
  rw [get?_ofList, List.lookup_eq_some_iff] at found
  obtain ⟨before, after, split, _⟩ := found
  rw [← List.mem_reverse, split]
  simp

/-- The dictionary of a list answers for every name of the list. -/
theorem exists_get?_ofList {α : Type u} {entries : List (String × α)} {name : String} {value : α}
    (member : (name, value) ∈ entries) : ∃ found, (ofList entries).get? name = some found := by
  rw [get?_ofList]
  cases looked : entries.reverse.lookup name with
  | some other => exact ⟨other, rfl⟩
  | none =>
    have different := List.lookup_eq_none_iff.1 looked (name, value) (List.mem_reverse.2 member)
    simp at different

/-- The values of a dictionary are those that names lead to. -/
theorem mem_values_iff {α : Type u} {dict : Dict α} {value : α} :
    value ∈ dict.values ↔ ∃ name, dict.get? name = some value := by
  simp [values, get?_eq_some_iff]

end Dict

end EntityGraph
