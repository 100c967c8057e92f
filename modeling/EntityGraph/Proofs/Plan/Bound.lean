import EntityGraph.Plan.Execution
import EntityGraph.Proofs.Plan.Expansion
import EntityGraph.Proofs.Plan.Loading
import EntityGraph.Proofs.Plan.Readability
import EntityGraph.Proofs.Sorting
import EntityGraph.Proofs.Store.Mirror

/-!
# Aliases are bound where plans refer to them

In a closed plan every condition refers to aliases that the joins around it bind, and everything
behind the joins refers to aliases that the plan binds somewhere. The rows of such a plan bind all
that its expressions refer to, so selecting never misses a binding.

Loading evaluates the conditions of fetches once more, and there each of them has the target of
its fetch alone. What a condition refers to around its fetch is missing then, and this is the only
way in which executing a closed plan can miss a binding.
-/

namespace EntityGraph

/-! ## Closed plans -/

mutual

/-- Whether the condition of a join refers to the target of the join and to aliases around it, and
so on for the joins below, which have the target around them as well. -/
def Join.MentionsBound (around : List Alias) : Join → Prop
  | ⟨_, target, _, _, on?, joins⟩ =>
    (∀ on ∈ on?, on.mentioned ⊆ target :: around) ∧ Join.AllMentionBound (target :: around) joins

/-- Whether the conditions of joins refer to the targets of their joins and to aliases around
them. -/
def Join.AllMentionBound (around : List Alias) : List Join → Prop
  | [] => True
  | join :: rest => join.MentionsBound around ∧ Join.AllMentionBound around rest

end

mutual

/-- The selections inside the conditions of a join and of the joins below it. -/
def Join.selects : Join → List Select
  | ⟨_, _, _, _, on?, joins⟩ => on?.toList.flatMap Expr.selects ++ Join.allSelects joins

/-- The selections inside the conditions of joins. -/
def Join.allSelects : List Join → List Select
  | [] => []
  | join :: rest => join.selects ++ Join.allSelects rest

end

mutual

/-- The conditions of fetches that are reached through fetches alone, each with the target of its
fetch. -/
def Join.fetchConditions : Join → List (Alias × Expr)
  | ⟨_, target, kind, _, on?, joins⟩ =>
    match kind with
    | .fetch => on?.toList.map (Prod.mk target) ++ Join.allFetchConditions joins
    | .join => []

/-- The conditions of fetches, among joins, that are reached through fetches alone. -/
def Join.allFetchConditions : List Join → List (Alias × Expr)
  | [] => []
  | join :: rest => join.fetchConditions ++ Join.allFetchConditions rest

end

/-- The aliases that a selection binds: its root and the targets of its joins. -/
def Select.bound (select : Select) : List Alias :=
  select.root :: Join.allTargets select.joins

/-- The selections inside a selection, not counting those inside them. -/
def Select.selects (select : Select) : List Select :=
  Join.allSelects select.joins ++ select.filter.selects ++
    select.orderBy.flatMap fun term => term.key.selects

/-- Whether a selection refers only to aliases that are bound where it refers to them, and so on
for the selections inside it, each with its own aliases. -/
inductive Select.Closed : Select → Prop
  | intro {select : Select} (projected : select.projected ∈ select.bound)
      (conditions : Join.AllMentionBound [select.root] select.joins)
      (filter : select.filter.mentioned ⊆ select.bound)
      (ordering : ∀ term ∈ select.orderBy, term.key.mentioned ⊆ select.bound)
      (inner : ∀ inner ∈ select.selects, inner.Closed) : select.Closed

/-! ## Failures -/

/-- Whether a failure is about something else than a missing binding, unless it is one of some
aliases. -/
def ExecutionError.UnboundAmong (names : Alias → Prop) : ExecutionError → Prop
  | .unboundAlias name => names name
  | _ => True

/-- Whether an evaluation misses no bindings but those of some aliases. -/
abbrev MissesOnly {α : Type} (names : Alias → Prop) (outcome : Except ExecutionError α) : Prop :=
  Ends (ExecutionError.UnboundAmong names) (fun _ => True) outcome

section Failures

variable {store : Store} {names others : Alias → Prop}

/-- More bindings can be allowed to be missed. -/
theorem missesOnly_mono {α : Type} {outcome : Except ExecutionError α}
    (misses : MissesOnly names outcome) (allows : ∀ name, names name → others name) :
    MissesOnly others outcome := by
  refine misses.weaken fun error among => ?_
  cases error <;> first | exact allows _ among | trivial

/-- A list of evaluations misses what one of them misses. -/
theorem missesOnly_mapM {α β : Type} {step : α → Except ExecutionError β} {items : List α}
    (each : ∀ item ∈ items, MissesOnly names (step item)) :
    MissesOnly names (items.mapM step) :=
  (Ends.mapM each).mono fun _ _ => trivial

/-- A row misses what it does not bind. -/
theorem Bindings.missesOnly_get {row : Bindings} {name : Alias}
    (missing : row.lookup name.index = none → names name) : MissesOnly names (row.get name) := by
  unfold Bindings.get
  split
  · trivial
  · next unbound => exact missing unbound

theorem Store.missesOnly_table (entity : String) : MissesOnly names (store.table entity) := by
  unfold Store.table
  split <;> trivial

theorem Store.missesOnly_refs (entity : String) : MissesOnly names (store.refs entity) :=
  (Store.missesOnly_table entity).bind fun _ _ => trivial

theorem Store.missesOnly_row (ref : EntityRef) : MissesOnly names (store.row ref) := by
  refine (Store.missesOnly_table ref.entity).bind fun table _ => ?_
  split <;> trivial

/-- Bindings are not missed behind an instance. -/
theorem Store.missesOnly_attributeValue (binding : Value) (attr : String) :
    MissesOnly names (store.attributeValue binding attr) := by
  unfold Store.attributeValue
  split
  · trivial
  · refine (Store.missesOnly_row _).bind fun row _ => ?_
    split <;> trivial
  · trivial

theorem Store.missesOnly_navigate (binding : Value) (attr : String) :
    MissesOnly names (store.navigate binding attr) :=
  (Store.missesOnly_attributeValue binding attr).bind fun _ _ => trivial

theorem Store.missesOnly_relationship? (entity attr : String) :
    MissesOnly names (store.relationship? entity attr) := by
  unfold Store.relationship?
  split <;> trivial

theorem Store.missesOnly_instanceOf (value : Value) :
    MissesOnly names (store.instanceOf value) := by
  unfold Store.instanceOf
  split
  · refine (Store.missesOnly_row _).bind fun row _ => ?_
    split <;> trivial
  · trivial

theorem missesOnly_fetchedField (source : EntityRef) (attr : String) (cardinality : Cardinality)
    (targets : List Instance) :
    MissesOnly names (fetchedField source attr cardinality targets) := by
  unfold fetchedField
  split <;> trivial

/-- What is kept has a property that all items have, and keeping misses what conditions miss. -/
theorem ends_keep {α : Type} {condition : α → Except ExecutionError Value} {items : List α}
    (property : α → Prop) (each : ∀ item ∈ items, property item)
    (evaluated : ∀ item ∈ items, MissesOnly names (condition item)) :
    Ends (ExecutionError.UnboundAmong names) (fun kept : List α => ∀ item ∈ kept, property item)
      (keep condition items) := by
  induction items with
  | nil => exact each
  | cons item rest inductionHypothesis =>
    rw [List.forall_mem_cons] at each evaluated
    refine evaluated.1.bind fun value _ => ?_
    refine (inductionHypothesis each.2 evaluated.2).bind fun kept others => ?_
    change ∀ other ∈ if value.isTrue then item :: kept else kept, property other
    split
    · exact List.forall_mem_cons.2 ⟨each.1, others⟩
    · exact others

end Failures

/-! ## Expressions -/

section Expressions

variable {store : Store} {row : Bindings} {names : Alias → Prop}

mutual

/-- An expression misses no bindings but those that it refers to and its row does not bind, if the
selections inside it miss none. -/
theorem Expr.missesOnly_evaluate : (expr : Expr) →
    (∀ select ∈ expr.selects, MissesOnly names (select.run store)) →
    (∀ name ∈ expr.mentioned, row.lookup name.index = none → names name) →
    MissesOnly names (expr.evaluate store row)
  | .and left right, inner, missing => by
    rw [Expr.selects, List.forall_mem_append] at inner
    rw [Expr.mentioned, List.forall_mem_append] at missing
    rw [Expr.evaluate]
    refine (left.missesOnly_evaluate inner.1 missing.1).bind fun value _ => ?_
    split
    · exact (right.missesOnly_evaluate inner.2 missing.2).bind fun _ _ => trivial
    · trivial
  | .equals left right, inner, missing => by
    rw [Expr.selects, List.forall_mem_append] at inner
    rw [Expr.mentioned, List.forall_mem_append] at missing
    rw [Expr.evaluate]
    refine (left.missesOnly_evaluate inner.1 missing.1).bind fun value _ => ?_
    exact (right.missesOnly_evaluate inner.2 missing.2).bind fun _ _ => trivial
  | .isIn left items, inner, missing => by
    rw [Expr.selects, List.forall_mem_append] at inner
    rw [Expr.mentioned, List.forall_mem_append] at missing
    rw [Expr.evaluate]
    refine (left.missesOnly_evaluate inner.1 missing.1).bind fun value _ => ?_
    exact (Expr.missesOnly_anyEquals value items inner.2 missing.2).bind fun _ _ => trivial
  | .inSelect left select, inner, missing => by
    rw [Expr.selects, List.forall_mem_append] at inner
    rw [Expr.mentioned] at missing
    rw [Expr.evaluate]
    refine (left.missesOnly_evaluate inner.1 missing).bind fun value _ => ?_
    exact (inner.2 select List.mem_cons_self).bind fun _ _ => trivial
  | .column name attr, _, missing => by
    rw [Expr.mentioned, List.forall_mem_singleton] at missing
    rw [Expr.evaluate]
    exact (Bindings.missesOnly_get missing).bind fun binding _ =>
      Store.missesOnly_attributeValue binding attr
  | .table name, _, missing => by
    rw [Expr.mentioned, List.forall_mem_singleton] at missing
    rw [Expr.evaluate]
    exact Bindings.missesOnly_get missing
  | .value _, _, _ => by
    rw [Expr.evaluate]
    trivial

/-- Searching expressions for a value misses no bindings but those that they refer to. -/
theorem Expr.missesOnly_anyEquals (value : Value) : (items : List Expr) →
    (∀ select ∈ Expr.allSelects items, MissesOnly names (select.run store)) →
    (∀ name ∈ Expr.allMentioned items, row.lookup name.index = none → names name) →
    MissesOnly names (Expr.anyEquals store row value items)
  | [], _, _ => by
    rw [Expr.anyEquals]
    trivial
  | item :: rest, inner, missing => by
    rw [Expr.allSelects, List.forall_mem_append] at inner
    rw [Expr.allMentioned, List.forall_mem_append] at missing
    rw [Expr.anyEquals]
    refine (item.missesOnly_evaluate inner.1 missing.1).bind fun found _ => ?_
    split
    · trivial
    · exact Expr.missesOnly_anyEquals value rest inner.2 missing.2

end

end Expressions

/-! ## Rows -/

/-- Whether a row binds each of some aliases. -/
def Bindings.BindsAll (row : Bindings) (names : List Alias) : Prop :=
  ∀ name ∈ names, row.lookup name.index ≠ none

namespace Bindings.BindsAll

variable {row : Bindings} {names others : List Alias}

theorem of_subset (binds : row.BindsAll names) (subset : others ⊆ names) : row.BindsAll others :=
  fun name member => binds name (subset member)

/-- One more binding binds one more alias. -/
theorem bind (binds : row.BindsAll names) (name : Alias) (value : Value) :
    (row.bind name value).BindsAll (name :: names) := by
  refine List.forall_mem_cons.2 ⟨by simp, fun other member => ?_⟩
  by_cases same : other.index = name.index
  · rw [same, lookup_bind_self]
    simp
  · rw [lookup_bind_of_ne same]
    exact binds other member

/-- Where everything is bound that an expression refers to, it misses no binding. -/
theorem missesOnly_evaluate {store : Store} {expr : Expr} (binds : row.BindsAll names)
    (mentioned : expr.mentioned ⊆ names)
    (inner : ∀ select ∈ expr.selects, MissesOnly (fun _ => False) (select.run store)) :
    MissesOnly (fun _ => False) (expr.evaluate store row) :=
  expr.missesOnly_evaluate inner fun name member => binds name (mentioned member)

end Bindings.BindsAll

/-- Whether an evaluation of rows misses no binding and binds each of some aliases in all of
them. -/
abbrev BindsEach (names : List Alias) (outcome : Except ExecutionError (List Bindings)) : Prop :=
  Ends (ExecutionError.UnboundAmong fun _ => False)
    (fun rows : List Bindings => ∀ row ∈ rows, row.BindsAll names) outcome

/-- A join binds its target in each of its rows. -/
theorem Join.bindsEach_matchRow {store : Store} {source target : Alias} {attr : String}
    {type : JoinType} {on? : Option Expr} {row : Bindings} {names : List Alias}
    (binds : row.BindsAll names) (sourceBound : source ∈ names)
    (mentioned : ∀ on ∈ on?, on.mentioned ⊆ target :: names)
    (inner : ∀ on ∈ on?, ∀ select ∈ on.selects, MissesOnly (fun _ => False) (select.run store)) :
    BindsEach (target :: names) (Join.matchRow store source attr target type on? row) := by
  unfold Join.matchRow
  refine (Bindings.missesOnly_get (binds source sourceBound)).bind fun binding _ => ?_
  refine (Store.missesOnly_navigate binding attr).bind fun targets _ => ?_
  have each : ∀ candidate ∈ targets.map (row.bind target),
      candidate.BindsAll (target :: names) := by
    rw [List.forall_mem_map]
    exact fun value _ => binds.bind target value
  have found : BindsEach (target :: names)
      (Expr.keepIfAny store on? (targets.map (row.bind target))) := by
    cases on? with
    | none => exact each
    | some on =>
      exact ends_keep _ each fun candidate member =>
        (each candidate member).missesOnly_evaluate (mentioned on rfl) (inner on rfl)
  refine found.bind fun matched bindsMatched => ?_
  change ∀ joined ∈ if matched.isEmpty && type = .left then [row.bind target .null] else matched,
    joined.BindsAll (target :: names)
  split
  · exact List.forall_mem_singleton.2 (binds.bind target .null)
  · exact bindsMatched

/-- Joins bind their targets in each of their rows, however deep they are nested. Rows may bind
more than what stands around the joins, for the joins before them have bound their targets. -/
theorem Join.bindsEach_expandAll {store : Store} {joins : List Join} :
    ∀ {source : Alias} {around names : List Alias} {rows : List Bindings}, source ∈ around →
      around ⊆ names → Join.AllMentionBound around joins →
      (∀ select ∈ Join.allSelects joins, MissesOnly (fun _ => False) (select.run store)) →
      (∀ row ∈ rows, row.BindsAll names) →
      BindsEach (Join.allTargets joins ++ names) (Join.expandAll store source joins rows) := by
  induction joins using Join.listInduction with
  | nil =>
    intro source around names rows _ _ _ _ binds
    rw [Join.expandAll]
    exact binds
  | cons attr target kind type on? joins rest below beside =>
    intro source around names rows sourceAround subset mentioned inner binds
    simp only [Join.allSelects, Join.selects, List.forall_mem_append] at inner
    obtain ⟨⟨innerHere, innerBelow⟩, innerBeside⟩ := inner
    obtain ⟨⟨mentionedHere, mentionedBelow⟩, mentionedBeside⟩ := mentioned
    have matched : Ends (ExecutionError.UnboundAmong fun _ => False)
        (fun matched : List (List Bindings) => ∀ rows ∈ matched, ∀ row ∈ rows,
          row.BindsAll (target :: names))
        (rows.mapM (Join.matchRow store source attr target type on?)) := by
      refine Ends.mapM fun row member => ?_
      refine Join.bindsEach_matchRow (binds row member) (subset sourceAround) ?_ ?_
      · intro on present
        exact List.Subset.trans (mentionedHere on present) (List.cons_subset_cons _ subset)
      · intro on present select member
        refine innerHere select (List.mem_flatMap.2 ⟨on, ?_, member⟩)
        exact Option.mem_toList.2 present
    rw [Join.expandAll, Join.expand_eq, bind_assoc]
    refine matched.bind fun matched bindsMatched => ?_
    have bindsFlat : ∀ row ∈ matched.flatten, row.BindsAll (target :: names) := by
      simp only [List.mem_flatten]
      rintro row ⟨rows, present, member⟩
      exact bindsMatched rows present row member
    refine (below List.mem_cons_self (List.cons_subset_cons _ subset) mentionedBelow innerBelow
      bindsFlat).bind fun nested bindsNested => ?_
    have subsetNested : around ⊆ Join.allTargets joins ++ target :: names :=
      fun name member => List.mem_append_right _ (List.mem_cons_of_mem _ (subset member))
    refine (beside sourceAround subsetNested mentionedBeside innerBeside bindsNested).mono ?_
    intro joined bindsJoined row member
    refine (bindsJoined row member).of_subset ?_
    rw [Join.allTargets_cons]
    intro name present
    simp only [List.cons_append, List.mem_cons, List.mem_append] at present ⊢
    tauto

/-! ## Selecting -/

/-- The keys of a row miss no binding where everything is bound that they refer to. -/
theorem OrderTerm.missesOnly_keys {store : Store} {row : Bindings} {names : List Alias}
    (binds : row.BindsAll names) : (terms : List OrderTerm) →
    (∀ term ∈ terms, term.key.mentioned ⊆ names) →
    (∀ term ∈ terms, ∀ select ∈ term.key.selects,
      MissesOnly (fun _ => False) (select.run store)) →
    MissesOnly (fun _ => False) (OrderTerm.keys store row terms)
  | [], _, _ => by
    rw [OrderTerm.keys]
    trivial
  | ⟨key, direction⟩ :: rest, mentioned, inner => by
    rw [List.forall_mem_cons] at mentioned inner
    rw [OrderTerm.keys]
    refine (binds.missesOnly_evaluate mentioned.1 inner.1).bind fun _ _ => ?_
    exact (OrderTerm.missesOnly_keys binds rest mentioned.2 inner.2).bind fun _ _ => trivial

/-- Rows that are sorted by keys are rows that were given keys. -/
theorem exists_of_mem_sortByKeys {model : Model} {directions : List Direction}
    {keyed : List (List Value × Bindings)} {row : Bindings}
    (member : row ∈ sortByKeys model directions keyed) : ∃ keys, (keys, row) ∈ keyed := by
  obtain ⟨⟨keys, other⟩, sorted, rfl⟩ := List.mem_map.1 member
  exact ⟨keys, (sortStable_perm _ keyed).mem_iff.1 sorted⟩

/-- A closed selection misses no binding. -/
theorem Select.missesOnly_run (store : Store) {select : Select} (closed : select.Closed) :
    MissesOnly (fun _ => False) (select.run store) := by
  induction closed with
  | @intro select projected conditions filter ordering inner inductionHypothesis =>
  obtain ⟨distinct, projection, entity, root, joins, condition, orderBy⟩ := select
  simp only [Select.selects, List.forall_mem_append] at inductionHypothesis
  obtain ⟨⟨innerJoins, innerFilter⟩, innerKeys⟩ := inductionHypothesis
  simp only [Select.bound] at projected conditions filter ordering
  have bound : root :: Join.allTargets joins ⊆ Join.allTargets joins ++ [root] := by simp
  rw [Select.run]
  refine (Store.missesOnly_refs entity).bind fun refs _ => ?_
  have bindsRoots : ∀ row ∈ refs.map fun ref => Bindings.bind [] root (.entity ref),
      row.BindsAll [root] := by
    simp [Bindings.BindsAll, -List.lookup_eq_none_iff]
  refine (Join.bindsEach_expandAll List.mem_cons_self (List.Subset.refl _) conditions innerJoins
    bindsRoots).bind fun joined bindsJoined => ?_
  refine (ends_keep _ bindsJoined fun row member => (bindsJoined row member).missesOnly_evaluate
    (List.Subset.trans filter bound) innerFilter).bind fun kept bindsKept => ?_
  have keyed : Ends (ExecutionError.UnboundAmong fun _ => False)
      (fun keyed : List (List Value × Bindings) => ∀ entry ∈ keyed,
        entry.2.BindsAll (Join.allTargets joins ++ [root]))
      (kept.mapM fun row => do return (← OrderTerm.keys store row orderBy, row)) := by
    refine Ends.mapM fun row member => ?_
    refine (OrderTerm.missesOnly_keys (bindsKept row member) orderBy
      (fun term present => List.Subset.trans (ordering term present) bound)
      fun term present select within => ?_).bind fun _ _ => bindsKept row member
    exact innerKeys select (List.mem_flatMap.2 ⟨term, present, within⟩)
  refine keyed.bind fun keyed bindsKeyed => ?_
  have projectable : MissesOnly (fun _ => False)
      ((sortByKeys store.model (OrderTerm.directions orderBy) keyed).mapM fun row =>
        row.get projection) := by
    refine missesOnly_mapM fun row member => Bindings.missesOnly_get ?_
    obtain ⟨keys, entry⟩ := exists_of_mem_sortByKeys member
    exact bindsKeyed _ entry projection (bound projected)
  exact projectable.bind fun _ _ => trivial

/-! ## Loading -/

/-- Whether an alias is mentioned in one of several conditions of fetches, but is not the target of
its fetch. -/
def Join.MentionsAround (conditions : List (Alias × Expr)) (name : Alias) : Prop :=
  ∃ entry ∈ conditions, name ∈ entry.2.mentioned ∧ name.index ≠ entry.1.index

theorem Join.MentionsAround.of_subset {conditions more : List (Alias × Expr)} {name : Alias}
    (mentions : Join.MentionsAround conditions name) (subset : conditions ⊆ more) :
    Join.MentionsAround more name := by
  obtain ⟨entry, member, mentioned⟩ := mentions
  exact ⟨entry, subset member, mentioned⟩

/-- The condition of a fetch misses what it refers to around the fetch, for it is evaluated with
nothing bound but the target. -/
theorem Join.missesOnly_wanted {store : Store} {target : Alias} {on? : Option Expr}
    (targets : List Value)
    (inner : ∀ on ∈ on?, ∀ select ∈ on.selects, MissesOnly (fun _ => False) (select.run store)) :
    MissesOnly (Join.MentionsAround (on?.toList.map (Prod.mk target)))
      (Join.wanted store target on? targets) := by
  unfold Join.wanted
  cases on? with
  | none => trivial
  | some on =>
    refine (ends_keep (fun _ => True) (fun _ _ => trivial) fun value _ => ?_).mono
      fun _ _ => trivial
    refine on.missesOnly_evaluate ?_ fun name mentioned unbound => ?_
    · exact fun select member => missesOnly_mono (inner on rfl select member) fun _ => False.elim
    · refine ⟨(target, on), by simp, mentioned, fun same => ?_⟩
      rw [same, Bindings.lookup_bind_self] at unbound
      cases unbound

/-- A join misses what the conditions of fetches refer to around their fetches, if the joins below
it do on whatever instance they are loaded. -/
theorem Join.missesOnly_load {store : Store} {attr : String} {target : Alias} {kind : JoinKind}
    {type : JoinType} {on? : Option Expr} {joins : List Join}
    (inner : ∀ on ∈ on?, ∀ select ∈ on.selects, MissesOnly (fun _ => False) (select.run store))
    (below : ∀ inst, MissesOnly (Join.MentionsAround (Join.allFetchConditions joins))
      (Join.loadAll store inst joins)) (inst : Instance) :
    MissesOnly (Join.MentionsAround (Join.fetchConditions ⟨attr, target, kind, type, on?, joins⟩))
      (Join.load store inst ⟨attr, target, kind, type, on?, joins⟩) := by
  cases kind with
  | join =>
    rw [Join.load]
    trivial
  | fetch =>
    rw [Join.load_fetch_eq, Join.fetchConditions]
    refine (Store.missesOnly_relationship? _ attr).bind fun relationship? _ => ?_
    cases relationship? with
    | none => trivial
    | some relationship =>
      refine (Store.missesOnly_navigate _ attr).bind fun targets _ => ?_
      refine (missesOnly_mono (Join.missesOnly_wanted targets inner) fun name mentions =>
        mentions.of_subset (List.subset_append_left _ _)).bind fun wanted _ => ?_
      have loaded : MissesOnly (Join.MentionsAround (Join.allFetchConditions joins))
          ((firstAppearances wanted).mapM (store.instanceWith joins)) :=
        missesOnly_mapM fun value _ =>
          (Store.missesOnly_instanceOf value).bind fun found _ => below found
      refine (missesOnly_mono loaded fun name mentions =>
        mentions.of_subset (List.subset_append_right _ _)).bind fun instances _ => ?_
      exact (missesOnly_fetchedField _ _ _ _).bind fun _ _ => trivial

/-- Loading misses what the conditions of fetches refer to around their fetches. -/
theorem Join.missesOnly_loadAll {store : Store} {joins : List Join} :
    (∀ select ∈ Join.allSelects joins, MissesOnly (fun _ => False) (select.run store)) →
    ∀ inst, MissesOnly (Join.MentionsAround (Join.allFetchConditions joins))
      (Join.loadAll store inst joins) := by
  induction joins using Join.listInduction with
  | nil =>
    intro _ inst
    rw [Join.loadAll]
    trivial
  | cons attr target kind type on? joins rest below beside =>
    intro inner inst
    simp only [Join.allSelects, Join.selects, List.forall_mem_append] at inner
    obtain ⟨⟨innerHere, innerBelow⟩, innerBeside⟩ := inner
    have first : MissesOnly
        (Join.MentionsAround (Join.fetchConditions ⟨attr, target, kind, type, on?, joins⟩))
        (Join.load store inst ⟨attr, target, kind, type, on?, joins⟩) :=
      Join.missesOnly_load (fun on present select member =>
        innerHere select (List.mem_flatMap.2 ⟨on, Option.mem_toList.2 present, member⟩))
        (below innerBelow) inst
    rw [Join.loadAll, Join.allFetchConditions]
    refine (missesOnly_mono first fun name mentions =>
      mentions.of_subset (List.subset_append_left _ _)).bind fun loaded _ => ?_
    exact missesOnly_mono (beside innerBeside loaded) fun name mentions =>
      mentions.of_subset (List.subset_append_right _ _)

/-- What a closed plan selects is selected without missing a binding, and if one is missed when the
plan is executed, then the condition of a fetch refers to it around the fetch. -/
theorem Store.mentionsAround_of_execute {plan : Select} (closed : plan.Closed) (store : Store) :
    (∀ name, plan.run store ≠ .error (.unboundAlias name)) ∧
      ∀ name, store.execute plan = .error (.unboundAlias name) →
        Join.MentionsAround (Join.allFetchConditions plan.joins) name := by
  have selected := Select.missesOnly_run store closed
  obtain ⟨_, _, _, _, inner⟩ := closed
  simp only [Select.selects, List.forall_mem_append] at inner
  have executed : MissesOnly (Join.MentionsAround (Join.allFetchConditions plan.joins))
      (store.execute plan) := by
    refine (missesOnly_mono selected fun _ => False.elim).bind fun values _ => ?_
    refine missesOnly_mapM fun value _ => ?_
    refine (Store.missesOnly_instanceOf value).bind fun inst _ => ?_
    exact Join.missesOnly_loadAll
      (fun select member => Select.missesOnly_run store (inner.1.1 select member)) inst
  constructor
  · intro name failed
    rw [failed] at selected
    exact selected
  · intro name failed
    rw [failed] at executed
    exact executed

/-- Books with their authors, where the condition on the author refers to the book. -/
def Select.authored (kind : JoinKind) : Select where
  distinct := true
  projected := ⟨0, "Book"⟩
  entity := "Book"
  root := ⟨0, "Book"⟩
  joins := [⟨"author", ⟨1, "author"⟩, kind, .left,
    some (.equals (.table ⟨0, "Book"⟩) (.table ⟨0, "Book"⟩)), []⟩]
  filter := Expr.true
  orderBy := []

theorem Select.closed_authored (kind : JoinKind) : (Select.authored kind).Closed := by
  refine .intro ?_ ?_ ?_ ?_ ?_ <;>
    simp [authored, bound, selects, Join.allTargets, Join.targets, Join.AllMentionBound,
      Join.MentionsBound, Join.allSelects, Join.selects, Expr.mentioned, Expr.selects, Expr.true]

theorem Store.mentionsAround_of_execute_authored :
    (Select.authored .fetch).Closed ∧
      Store.library.execute (Select.authored .fetch) = .error (.unboundAlias ⟨0, "Book"⟩) ∧
      Join.MentionsAround (Join.allFetchConditions (Select.authored .fetch).joins) ⟨0, "Book"⟩ := by
  have closed := Select.closed_authored .fetch
  have failed : Store.library.execute (Select.authored .fetch) =
      .error (.unboundAlias ⟨0, "Book"⟩) := by
    rfl
  exact ⟨closed, failed, (Store.mentionsAround_of_execute closed Store.library).2 _ failed⟩

/-- A fetch is not loaded in the scope that its condition was written in: the condition may refer to
the root, and as that of a join it does so without a failure. -/
theorem Store.unbound_execute_authored :
    Model.library.Consistent ∧ Store.Obtained Model.library Store.library ∧
      (∀ kind, (Select.authored kind).Closed ∧
        ((Select.authored kind).bound.map Alias.index).Nodup) ∧
      (Store.library.execute (Select.authored .join)).isOk = true ∧
      Store.library.execute (Select.authored .fetch) = .error (.unboundAlias ⟨0, "Book"⟩) := by
  refine ⟨consistent_library, obtained_library, fun kind => ⟨Select.closed_authored kind, ?_⟩,
    by rfl, by rfl⟩
  cases kind <;> decide

end EntityGraph
