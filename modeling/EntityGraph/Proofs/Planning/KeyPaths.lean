import EntityGraph.Proofs.Planning.Fetchable
import EntityGraph.Proofs.Planning.Totality

/-!
# What a plan is ordered by

A plan is ordered by attributes of loaded levels. From the root such a level is reached along
fetches, and those follow associations to one. So the alias of the level does not range over
anything: in every row of an instance that can be loaded it stands for the one thing that its
path leads to, or for null if the path ends early.
-/

namespace EntityGraph

/-! ## Paths -/

/-- An attribute at the end of a path of attributes. -/
structure KeyPath where
  path : List String
  attr : String

/-- The first thing that an attribute leads to, null if it leads nowhere. -/
def Store.step (store : Store) (binding : Value) (attr : String) : Value :=
  (store.targets binding attr).head?.getD .null

/-- What a path of attributes leads to. -/
def Store.reached (store : Store) : Value → List String → Value
  | binding, [] => binding
  | binding, attr :: path => store.reached (store.step binding attr) path

/-- Whether each attribute of a path leads to one thing at most. -/
def Store.ReachesOne (store : Store) : Value → List String → Prop
  | _, [] => True
  | binding, attr :: path =>
    (∀ left ∈ store.targets binding attr, ∀ right ∈ store.targets binding attr, left = right) ∧
      store.ReachesOne (store.step binding attr) path

/-- Whether a path goes from one entity to another along associations to one. -/
inductive Model.ToOnePath (model : Model) : String → List String → String → Prop
  | nil {entity : String} : ToOnePath model entity [] entity
  | cons {entity attr target : String} {path : List String} {info : Attribute}
      {relationship : Relationship} (known : model.attribute? entity attr = some info)
      (related : info.type.relationship? entity attr = some relationship)
      (singular : relationship.cardinality = .singular)
      (further : ToOnePath model relationship.target path target) :
      ToOnePath model entity (attr :: path) target

/-- Whether joins from a source fetch something along a path, and bind an alias to it. -/
inductive Join.FetchPath : Alias → List Join → List String → Alias → Prop
  | nil {source : Alias} {joins : List Join} : FetchPath source joins [] source
  | cons {source target name : Alias} {joins nested : List Join} {attr : String}
      {path : List String} {type : JoinType} {on? : Option Expr}
      (member : ⟨attr, target, .fetch, type, on?, nested⟩ ∈ joins)
      (further : FetchPath target nested path name) :
      FetchPath source joins (attr :: path) name

/-- More joins fetch more. -/
theorem Join.FetchPath.mono {source name : Alias} {joins more : List Join} {path : List String}
    (fetches : FetchPath source joins path name) (subset : joins ⊆ more) :
    FetchPath source more path name := by
  cases fetches with
  | nil => exact .nil
  | cons member further => exact .cons (subset member) further

/-! ## Steps -/

namespace Store

variable {store : Store} {binding target : Value} {attr : String}

/-- A step leads to something or to null. -/
theorem mem_targets_of_step (known : store.step binding attr = target) (some : target ≠ .null) :
    target ∈ store.targets binding attr := by
  unfold step at known
  cases present : (store.targets binding attr).head? with
  | none => exact absurd (by simpa [present] using known.symm) some
  | some first =>
    rw [present, Option.getD_some] at known
    rw [← known]
    exact List.mem_of_head? present

/-- Where an attribute leads to one thing at most, it is where the step leads. -/
theorem step_eq_of_mem
    (single : ∀ left ∈ store.targets binding attr, ∀ right ∈ store.targets binding attr,
      left = right) (member : target ∈ store.targets binding attr) :
    store.step binding attr = target := by
  unfold step
  cases present : (store.targets binding attr).head? with
  | none =>
    rw [List.head?_eq_none_iff.1 present] at member
    cases member
  | some first => exact single first (List.mem_of_head? present) target member

/-- A step from what an alias is bound to leads to an instance of the target, or to null. -/
theorem WellTyped.binds_step (typed : store.WellTyped) {entity : String} {info : Attribute}
    {relationship : Relationship} (binds : store.Binds entity binding)
    (known : store.model.attribute? entity attr = some info)
    (related : info.type.relationship? entity attr = some relationship) :
    store.Binds relationship.target (store.step binding attr) := by
  by_cases ended : store.step binding attr = .null
  · exact .inl ended
  · exact .inr (typed.exists_ref_of_target binds known related (mem_targets_of_step rfl ended))

/-- A path of associations to one leads to an instance of its last target, or to null. -/
theorem WellTyped.binds_reached (typed : store.WellTyped) {entity last : String}
    {path : List String} (toOne : store.model.ToOnePath entity path last) :
    ∀ {binding : Value}, store.Binds entity binding →
      store.Binds last (store.reached binding path) := by
  induction toOne with
  | nil => exact id
  | cons known related _ _ inductionHypothesis =>
    exact fun binds => inductionHypothesis (typed.binds_step binds known related)

end Store

/-- A fetch binds its target to where the step from its source leads. -/
theorem Join.lookup_of_matched_target {store : Store} {source target : Alias} {attr : String}
    {type : JoinType} {row matched : Bindings} {binding : Value}
    (single : ∀ left ∈ store.targets binding attr, ∀ right ∈ store.targets binding attr,
      left = right) (bound : row.lookup source.index = some binding)
    (matching : matched ∈ Join.matchedRows store source attr target type none row) :
    matched.lookup target.index = some (store.step binding attr) := by
  have value : row.value source = binding := by
    rw [Bindings.value, bound, Option.getD_some]
  rcases Join.mem_matchedRows_iff.1 matching with ⟨found, member, _, rfl⟩ | ⟨_, rfl, unmatched⟩
  · rw [value] at member
    rw [Bindings.lookup_bind_self, Store.step_eq_of_mem single member]
  · have nowhere : store.targets binding attr = [] := by
      rw [value] at unmatched
      refine List.eq_nil_iff_forall_not_mem.2 fun found member => ?_
      cases unmatched found member
    rw [Bindings.lookup_bind_self, Store.step, nowhere]
    rfl

/-! ## Keys of a level -/

/-- Whether what is selected can be fetched onto what an alias is bound to. -/
def Selection.AllFetchableOn (store : Store) (binding : Value) (selections : List Selection) :
    Prop :=
  ∀ ref, binding = .entity ref → Selection.AllFetchable store ref selections

/-- A selection that can be fetched leads to one thing at most, and what is selected below it can
be fetched onto that. -/
theorem Selection.AllFetchableOn.step {store : Store} {binding : Value} {entity : String}
    {child : Selection} {rest : List Selection} {relationship : Relationship}
    (fetchable : Selection.AllFetchableOn store binding (child :: rest))
    (binds : store.Binds entity binding)
    (joined : store.model.joined? entity child = some relationship)
    (singular : relationship.cardinality = .singular) (unfiltered : child.hasFilters = false) :
    (∀ left ∈ store.targets binding child.name, ∀ right ∈ store.targets binding child.name,
      left = right) ∧
      Selection.AllFetchableOn store (store.step binding child.name) child.selections := by
  rcases binds with rfl | ⟨ref, rfl, rfl, _⟩
  · refine ⟨by simp, fun target leads => ?_⟩
    simp [Store.step] at leads
  · obtain ⟨single, further⟩ :=
      Selection.fetchable_iff.1 (fetchable ref rfl).1 relationship joined singular unfiltered
    exact ⟨single, fun target leads => further target (Store.mem_targets_of_step leads (by simp))⟩

/-- What it means for the alias of a key to stand for the end of a path from the source of
joins. -/
structure OrderTerm.Follows (store : Store) (source : Alias) (entity : String)
    (joins : List Join) (selections : List Selection) (next : Nat) (term : OrderTerm)
    (key : KeyPath) (name : Alias) : Prop where
  column : term.key = .column name key.attr
  older : name.index < next
  fetches : Join.FetchPath source joins key.path name
  declared : ∃ target info, store.model.ToOnePath entity key.path target ∧
    store.model.attribute? target key.attr = some info ∧ info.type.isAssociation = false
  leads : ∀ binding, store.Binds entity binding →
    Selection.AllFetchableOn store binding selections →
    store.ReachesOne binding key.path ∧
      ∀ row joined, row.lookup source.index = some binding →
        joined ∈ Join.allRows store source joins row →
          joined.lookup name.index = some (store.reached binding key.path)

namespace Planner

variable {store : Store} {planner : Planner} {vars : Dict Value} {level : Level} {next : Nat}
  {selections : List Selection} {plan : LevelPlan}

/-- There are keys below a level only if it is loaded and fetching is eager. -/
theorem Plans.loaded_of_mem_ordering (planned : planner.Plans vars level next selections plan)
    {leveled : LeveledTerm} (member : leveled ∈ plan.ordering) :
    level.loaded = true ∧ planner.settings.eagerFetchToOne = true := by
  induction planned with
  | nil => cases member
  | leave _ _ inductionHypothesis => exact inductionHypothesis member
  | join _ _ ordered _ _ _ beneath beside =>
    rw [List.mem_append, List.mem_append] at member
    rcases member with (member | member) | member
    · obtain ⟨loaded, eager, _⟩ :=
        FetchSettings.fetches_eq_true_iff.1 (loaded_of_mem_ownTerms ordered member)
      exact ⟨loaded, eager⟩
    · obtain ⟨loaded, eager, _⟩ := FetchSettings.fetches_eq_true_iff.1 (beneath member).1
      exact ⟨loaded, eager⟩
    · exact beside member

/-- A key of a level itself stands for what the level is bound to, whatever is to be fetched. -/
theorem Plans.follows_own (planned : planner.Plans vars level next selections plan)
    (fetched : List Selection) (below : level.name.index < next) {term : OrderTerm}
    {attr : String} {info : Attribute}
    (column : term.key = .column level.name attr)
    (known : store.model.attribute? level.entity attr = some info)
    (plain : info.type.isAssociation = false) :
    term.Follows store level.name level.entity plan.joins fetched plan.next ⟨[], attr⟩
      level.name where
  column := column
  older := Nat.lt_of_lt_of_le below planned.next_le
  fetches := .nil
  declared := ⟨_, info, .nil, known, plain⟩
  leads _ _ _ :=
    ⟨trivial, fun _ _ bound member => (planned.lookup_eq member below).trans bound⟩

/-- A key below a fetch stands for what is reached through the fetch. -/
theorem Plans.follows_below {child : Selection} {rest : List Selection}
    {relationship : Relationship} {type : JoinType} {on? : Option Expr} {nested others : LevelPlan}
    {scope : ArgumentScope} {target : Alias} {term : OrderTerm} {key : KeyPath} {name : Alias}
    (typed : store.WellTyped)
    (joined : store.model.joined? level.entity child = some relationship)
    (fetches : planner.settings.fetches level.loaded child relationship = true)
    (conditioned : store.model.joinCondition? scope target child.filters = .ok on?)
    (remaining : planner.Plans vars level nested.next rest others)
    (follows : term.Follows store ⟨next, child.name⟩ relationship.target nested.joins
      child.selections nested.next key name) :
    term.Follows store level.name level.entity
      (planner.joinFor level next child relationship type on? nested.joins :: others.joins)
      (child :: rest) others.next ⟨child.name :: key.path, key.attr⟩ name := by
  obtain ⟨_, ⟨info, known, related⟩, _⟩ := Model.joined?_eq_some_iff.1 joined
  obtain ⟨_, _, unfiltered, singular⟩ := FetchSettings.fetches_eq_true_iff.1 fetches
  obtain rfl := Model.eq_none_of_joinCondition? unfiltered conditioned
  rw [joinFor, if_pos fetches]
  refine ⟨follows.column, Nat.lt_of_lt_of_le follows.older remaining.next_le, ?_, ?_, ?_⟩
  · exact .cons List.mem_cons_self follows.fetches
  · obtain ⟨last, lastInfo, path, lastKnown, plain⟩ := follows.declared
    exact ⟨last, lastInfo, .cons known related singular path, lastKnown, plain⟩
  · intro binding binds fetchable
    obtain ⟨single, fetchableBelow⟩ := fetchable.step binds joined singular unfiltered
    obtain ⟨singleBelow, leads⟩ :=
      follows.leads _ (typed.binds_step binds known related) fetchableBelow
    refine ⟨⟨single, singleBelow⟩, fun row last bound member => ?_⟩
    obtain ⟨matched, matching, middle, inner, outer⟩ := Join.mem_allRows_cons_iff.1 member
    rw [remaining.lookup_eq outer follows.older]
    exact leads matched middle (Join.lookup_of_matched_target single bound matching) inner

/-- A key of the joins behind a join stands for what it stands for without the join. -/
theorem Plans.follows_beside {child : Selection} {rest : List Selection}
    {relationship : Relationship} {join : Join} {nested others : LevelPlan} {term : OrderTerm}
    {key : KeyPath} {name : Alias} (below : level.name.index < next)
    (planned : planner.Plans vars (planner.targetLevel level next child relationship) (next + 1)
      child.selections nested)
    (target : join.target = ⟨next, child.name⟩) (joins : join.joins = nested.joins)
    (follows : term.Follows store level.name level.entity others.joins rest others.next key name) :
    term.Follows store level.name level.entity (join :: others.joins) (child :: rest) others.next
      key name := by
  obtain ⟨attr, _, kind, type, on?, _⟩ := join
  subst target joins
  refine ⟨follows.column, follows.older, follows.fetches.mono (List.subset_cons_self _ _),
    follows.declared, fun binding binds fetchable => ?_⟩
  obtain ⟨single, leads⟩ := follows.leads binding binds fun ref same => (fetchable ref same).2
  refine ⟨single, fun row last bound member => ?_⟩
  obtain ⟨matched, matching, middle, inner, outer⟩ := Join.mem_allRows_cons_iff.1 member
  refine leads middle last ?_ outer
  rw [planned.lookup_eq inner (Nat.lt_succ_of_lt below),
    Join.lookup_of_matched matching (Nat.ne_of_lt below), bound]

/-- Every key of a plan stands for the end of a path. -/
theorem Plans.exists_follows (planned : planner.Plans vars level next selections plan)
    (same : planner.model = store.model) (typed : store.WellTyped)
    (below : level.name.index < next) :
    ∀ leveled ∈ plan.ordering, ∃ key name, leveled.term.Follows store level.name level.entity
      plan.joins selections plan.next key name := by
  induction planned with
  | nil => simp
  | @leave level next child rest plan _ _ inductionHypothesis =>
    intro leveled member
    obtain ⟨key, name, follows⟩ := inductionHypothesis below leveled member
    refine ⟨key, name, follows.column, follows.older, follows.fetches, follows.declared, ?_⟩
    exact fun _ binds fetchable => follows.leads _ binds fun ref same => (fetchable ref same).2
  | @join level next child rest relationship type own nested others on? joined _ ordered planned
      conditioned remaining beneath beside =>
    rw [same] at joined conditioned
    have belowTarget := Nat.lt_succ_self next
    intro leveled member
    rw [List.mem_append, List.mem_append] at member
    rcases member with (member | member) | member
    · obtain ⟨attr, info, column, known, plain⟩ := exists_of_mem_ownTerms ordered member
      rw [same] at known
      exact ⟨_, _, Plans.follows_below typed joined (loaded_of_mem_ownTerms ordered member)
        conditioned remaining (planned.follows_own _ belowTarget column known plain)⟩
    · obtain ⟨key, name, follows⟩ := beneath belowTarget leveled member
      exact ⟨_, _, Plans.follows_below typed joined (planned.loaded_of_mem_ordering member).1
        conditioned remaining follows⟩
    · obtain ⟨key, name, follows⟩ := beside
        (Nat.lt_of_lt_of_le below (Nat.le_of_succ_le planned.next_le)) leveled member
      exact ⟨key, name, Plans.follows_beside below planned rfl rfl follows⟩

end Planner

end EntityGraph
