import EntityGraph.Plan.Evaluation
import EntityGraph.Proofs.Plan.Rows
import EntityGraph.Proofs.Store.Lookup

/-!
# The rows that joins make of one row

Evaluating a plan takes all rows through one join after the other and may fail on the way.
If it does not fail, each row went its own way: `Join.allRows` is what joins make of a
single row, with everything that could fail read as leading nowhere. The rows of a plan are
those of its instances, one instance after the other.
-/

namespace EntityGraph

/-- Whether an expression comes out true in a row. -/
def Expr.holds (store : Store) (row : Bindings) (condition : Expr) : Bool :=
  EntityGraph.holds (condition.evaluate store row)

/-- Whether the condition of a join comes out true in a row, if there is one. -/
def Expr.holdsIfAny (store : Store) (row : Bindings) (on? : Option Expr) : Bool :=
  on?.all fun on => on.holds store row

/-- The rows that bind the target of a join: one for each match, or one that binds it to null if
a left join has no match. -/
def Join.matchedRows (store : Store) (source : Alias) (attr : String) (target : Alias)
    (type : JoinType) (on? : Option Expr) (row : Bindings) : List Bindings :=
  let found := ((store.targets (row.value source) attr).map (row.bind target)).filter
    fun candidate => Expr.holdsIfAny store candidate on?
  if found.isEmpty && type = .left then [row.bind target .null] else found

mutual

/-- The rows that a join makes of a row that binds `source`. -/
def Join.rows (store : Store) (source : Alias) : Join → Bindings → List Bindings
  | ⟨attr, target, _, type, on?, joins⟩, row =>
    (Join.matchedRows store source attr target type on? row).flatMap
      (Join.allRows store target joins)

/-- The rows that joins make of a row, one after the other. -/
def Join.allRows (store : Store) (source : Alias) : List Join → Bindings → List Bindings
  | [], row => [row]
  | join :: rest, row => (join.rows store source row).flatMap (Join.allRows store source rest)

end

/-- Induction over joins and the joins inside them. -/
theorem Join.listInduction {motive : List Join → Prop} (nil : motive [])
    (cons : ∀ attr target kind type on? joins rest, motive joins → motive rest →
      motive (⟨attr, target, kind, type, on?, joins⟩ :: rest)) :
    ∀ joins, motive joins
  | [] => nil
  | ⟨attr, target, kind, type, on?, joins⟩ :: rest =>
    cons attr target kind type on? joins rest (Join.listInduction nil cons joins)
      (Join.listInduction nil cons rest)

theorem Join.allRows_cons (store : Store) (source : Alias) (join : Join) (rest : List Join)
    (row : Bindings) :
    Join.allRows store source (join :: rest) row =
      (join.rows store source row).flatMap (Join.allRows store source rest) := by
  rw [Join.allRows]

/-- A joined row comes from a match of the first join, by the joins from its target and the joins
beside it. -/
theorem Join.mem_allRows_cons_iff {store : Store} {source : Alias} {attr : String}
    {target : Alias} {kind : JoinKind} {type : JoinType} {on? : Option Expr}
    {joins rest : List Join} {row joined : Bindings} :
    joined ∈ Join.allRows store source (⟨attr, target, kind, type, on?, joins⟩ :: rest) row ↔
      ∃ matched ∈ Join.matchedRows store source attr target type on? row,
        ∃ nested ∈ Join.allRows store target joins matched,
          joined ∈ Join.allRows store source rest nested := by
  simp only [Join.allRows_cons, Join.rows, List.mem_flatMap]
  constructor
  · rintro ⟨nested, ⟨matched, member, below⟩, beside⟩
    exact ⟨matched, member, nested, below, beside⟩
  · rintro ⟨matched, member, nested, below, beside⟩
    exact ⟨nested, ⟨matched, member, below⟩, beside⟩

/-- A match binds the target of a join to something that meets the condition, or to null if the
join is a left join and nothing meets the condition. -/
theorem Join.mem_matchedRows_iff {store : Store} {source : Alias} {attr : String}
    {target : Alias} {type : JoinType} {on? : Option Expr} {row matched : Bindings} :
    matched ∈ Join.matchedRows store source attr target type on? row ↔
      (∃ value ∈ store.targets (row.value source) attr,
        Expr.holdsIfAny store (row.bind target value) on? = true ∧
          matched = row.bind target value) ∨
      (type = .left ∧ matched = row.bind target .null ∧
        ∀ value ∈ store.targets (row.value source) attr,
          Expr.holdsIfAny store (row.bind target value) on? = false) := by
  unfold Join.matchedRows
  by_cases unmatched : ∀ value ∈ store.targets (row.value source) attr,
      Expr.holdsIfAny store (row.bind target value) on? = false
  · have none : ((store.targets (row.value source) attr).map (row.bind target)).filter
        (fun candidate => Expr.holdsIfAny store candidate on?) = [] := by
      simpa [List.filter_eq_nil_iff] using unmatched
    have nothing : ¬ ∃ value ∈ store.targets (row.value source) attr,
        Expr.holdsIfAny store (row.bind target value) on? = true ∧
          matched = row.bind target value := by
      rintro ⟨value, member, met, _⟩
      rw [unmatched value member] at met
      cases met
    by_cases left : type = .left
    · simp only [none, nothing, left, List.isEmpty_nil, Bool.true_and, decide_true, if_true,
        List.mem_singleton, false_or, true_and]
      exact (and_iff_left unmatched).symm
    · simp [none, nothing, left]
  · have some : ((store.targets (row.value source) attr).map (row.bind target)).filter
        (fun candidate => Expr.holdsIfAny store candidate on?) ≠ [] := by
      simpa [List.filter_eq_nil_iff] using unmatched
    simp only [List.isEmpty_eq_false_iff.2 some, Bool.false_and, Bool.false_eq_true, if_false,
      List.mem_filter, List.mem_map, unmatched, and_false, or_false]
    constructor
    · rintro ⟨⟨value, member, rfl⟩, met⟩
      exact ⟨value, member, met, rfl⟩
    · rintro ⟨value, member, met, rfl⟩
      exact ⟨⟨value, member, rfl⟩, met⟩

/-- Some match has a property if a match that meets the condition has it, or the match with null
that a left join falls back to. -/
theorem Join.exists_matched_iff {store : Store} {source : Alias} {attr : String}
    {target : Alias} {type : JoinType} {on? : Option Expr} {row : Bindings}
    {property : Bindings → Prop} :
    (∃ matched ∈ Join.matchedRows store source attr target type on? row, property matched) ↔
      (∃ value ∈ store.targets (row.value source) attr,
        Expr.holdsIfAny store (row.bind target value) on? = true ∧
          property (row.bind target value)) ∨
      (type = .left ∧
        (∀ value ∈ store.targets (row.value source) attr,
          Expr.holdsIfAny store (row.bind target value) on? = false) ∧
        property (row.bind target .null)) := by
  simp only [Join.mem_matchedRows_iff]
  constructor
  · rintro ⟨_, ⟨value, present, met, rfl⟩ | ⟨left, rfl, unmet⟩, holds⟩
    · exact .inl ⟨value, present, met, holds⟩
    · exact .inr ⟨left, unmet, holds⟩
  · rintro (⟨value, present, met, holds⟩ | ⟨left, unmet, holds⟩)
    · exact ⟨_, .inl ⟨value, present, met, rfl⟩, holds⟩
    · exact ⟨_, .inr ⟨left, rfl, unmet⟩, holds⟩

/-- A row that is made with a plain join comes from a match of it. -/
theorem Join.exists_mem_allRows_plain_iff {store : Store} {source : Alias} {attr : String}
    {target : Alias} {type : JoinType} {rest : List Join} {row : Bindings}
    {property : Bindings → Prop} :
    (∃ joined ∈ Join.allRows store source (Join.plain attr target type :: rest) row,
      property joined) ↔
      ∃ matched ∈ Join.matchedRows store source attr target type none row,
        ∃ joined ∈ Join.allRows store source rest matched, property joined := by
  have unchanged (matched nested : Bindings) :
      nested ∈ Join.allRows store target [] matched ↔ nested = matched := by
    rw [Join.allRows, List.mem_singleton]
  simp only [Join.plain, Join.mem_allRows_cons_iff, unchanged]
  constructor
  · rintro ⟨joined, ⟨matched, matching, _, rfl, member⟩, holds⟩
    exact ⟨_, matching, joined, member, holds⟩
  · rintro ⟨matched, matching, joined, member, holds⟩
    exact ⟨joined, ⟨matched, matching, matched, rfl, member⟩, holds⟩

/-- Something is made of a row if something is made of a match and the joins beside go on, provided
that they go on after every row alike. -/
theorem Join.exists_allRows_cons_iff {store : Store} {source : Alias} {attr : String}
    {target : Alias} {kind : JoinKind} {type : JoinType} {on? : Option Expr}
    {joins rest : List Join} {row : Bindings} {goesOn : Prop}
    (alike : ∀ matched ∈ Join.matchedRows store source attr target type on? row,
      ∀ nested ∈ Join.allRows store target joins matched,
        (∃ joined, joined ∈ Join.allRows store source rest nested) ↔ goesOn) :
    (∃ joined, joined ∈
      Join.allRows store source (⟨attr, target, kind, type, on?, joins⟩ :: rest) row) ↔
      (∃ matched ∈ Join.matchedRows store source attr target type on? row,
        ∃ nested, nested ∈ Join.allRows store target joins matched) ∧ goesOn := by
  simp only [Join.mem_allRows_cons_iff]
  constructor
  · rintro ⟨joined, matched, matching, nested, below, beside⟩
    exact ⟨⟨matched, matching, nested, below⟩,
      (alike matched matching nested below).1 ⟨joined, beside⟩⟩
  · rintro ⟨⟨matched, matching, nested, below⟩, goes⟩
    obtain ⟨joined, beside⟩ := (alike matched matching nested below).2 goes
    exact ⟨joined, matched, matching, nested, below, beside⟩

/-- A match leaves the other aliases alone. -/
theorem Join.lookup_of_matched {store : Store} {source : Alias} {attr : String} {target : Alias}
    {type : JoinType} {on? : Option Expr} {row matched : Bindings}
    (member : matched ∈ Join.matchedRows store source attr target type on? row) {index : Nat}
    (other : index ≠ target.index) : matched.lookup index = row.lookup index := by
  rcases Join.mem_matchedRows_iff.1 member with ⟨value, _, _, rfl⟩ | ⟨_, rfl, _⟩
  all_goals exact Bindings.lookup_bind_of_ne other

/-- Joining along a list of joins can be done in two parts. -/
theorem Join.allRows_append (store : Store) (source : Alias) (joins others : List Join)
    (row : Bindings) :
    Join.allRows store source (joins ++ others) row =
      (Join.allRows store source joins row).flatMap (Join.allRows store source others) := by
  induction joins generalizing row with
  | nil => simp [Join.allRows]
  | cons join rest inductionHypothesis =>
    simp only [List.cons_append, Join.allRows_cons, List.flatMap_assoc]
    exact List.flatMap_congr fun joined _ => inductionHypothesis joined

/-- The candidates that meet the condition of a join, if there is one. -/
def Expr.keepIfAny (store : Store) (on? : Option Expr) (candidates : List Bindings) :
    Except ExecutionError (List Bindings) :=
  match on? with
  | none => .ok candidates
  | some on => keep (fun candidate => on.evaluate store candidate) candidates

theorem Expr.eq_filter_of_keepIfAny {store : Store} {on? : Option Expr}
    {candidates found : List Bindings} (done : Expr.keepIfAny store on? candidates = .ok found) :
    found = candidates.filter fun candidate => Expr.holdsIfAny store candidate on? := by
  cases on? with
  | none =>
    cases done
    simp [Expr.holdsIfAny]
  | some on => exact eq_filter_of_keep done

/-- What a join does with a row: the rows that bind its target, or a failure. -/
def Join.matchRow (store : Store) (source : Alias) (attr : String) (target : Alias)
    (type : JoinType) (on? : Option Expr) (row : Bindings) :
    Except ExecutionError (List Bindings) := do
  let binding ← row.get source
  let targets ← store.navigate binding attr
  let found ← Expr.keepIfAny store on? (targets.map (row.bind target))
  return if found.isEmpty && type = .left then [row.bind target .null] else found

theorem Join.matchedRows_eq_of_matchRow {store : Store} {source : Alias} {attr : String}
    {target : Alias} {type : JoinType} {on? : Option Expr} {row : Bindings}
    {matched : List Bindings}
    (done : Join.matchRow store source attr target type on? row = .ok matched) :
    Join.matchedRows store source attr target type on? row = matched := by
  simp only [Join.matchRow, bind_eq_ok_iff] at done
  obtain ⟨binding, bound, targets, navigated, found, filtered, same⟩ := done
  rw [Join.matchedRows, Bindings.value_eq_of_get bound, Store.targets_eq_of_navigate navigated,
    ← Expr.eq_filter_of_keepIfAny filtered]
  cases same
  rfl

/-- A join matches every row, and the joins from its target go on from there. -/
theorem Join.expand_eq (store : Store) (source : Alias) (attr : String) (target : Alias)
    (kind : JoinKind) (type : JoinType) (on? : Option Expr) (joins : List Join)
    (rows : List Bindings) :
    Join.expand store source ⟨attr, target, kind, type, on?, joins⟩ rows = (do
      let matched ← rows.mapM (Join.matchRow store source attr target type on?)
      Join.expandAll store target joins matched.flatten) := by
  cases on? <;> rfl

/-- Rows are expanded along a list of joins in two parts. -/
theorem Join.expandAll_append (store : Store) (source : Alias) (joins others : List Join)
    (rows : List Bindings) :
    Join.expandAll store source (joins ++ others) rows = (do
      Join.expandAll store source others (← Join.expandAll store source joins rows)) := by
  induction joins generalizing rows with
  | nil => rfl
  | cons join rest inductionHypothesis =>
    rw [List.cons_append, Join.expandAll, Join.expandAll, bind_assoc]
    exact bind_congr fun joined => inductionHypothesis joined

/-- Joins that do not fail make of a list of rows what they make of each of them. -/
theorem Join.eq_flatMap_of_expandAll {store : Store} {joins : List Join} :
    ∀ {source : Alias} {rows expanded : List Bindings},
      Join.expandAll store source joins rows = .ok expanded →
        expanded = rows.flatMap (Join.allRows store source joins) := by
  induction joins using Join.listInduction with
  | nil =>
    intro source rows expanded done
    cases done
    exact (List.flatMap_singleton' rows).symm
  | cons attr target kind type on? joins rest below beside =>
    intro source rows expanded done
    simp only [Join.expandAll, Join.expand_eq, bind_eq_ok_iff] at done
    obtain ⟨joined, ⟨matched, steps, nested⟩, others⟩ := done
    have matchedEq : matched.flatten =
        rows.flatMap (Join.matchedRows store source attr target type on?) := by
      rw [eq_map_of_mapM (fun _ _ => Join.matchedRows_eq_of_matchRow) steps]
      rfl
    rw [beside others, below nested, matchedEq, List.flatMap_assoc, List.flatMap_assoc]
    refine List.flatMap_congr fun row _ => ?_
    rw [Join.allRows_cons, Join.rows, List.flatMap_assoc]

end EntityGraph
