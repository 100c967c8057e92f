import EntityGraph.Proofs.Planning.KeyPaths
import EntityGraph.Proofs.Store.Mirror

/-!
# Results are in the requested order

A plan sorts rows, and only then reads the root off each row and drops repetitions. A root may
have several rows, one for each way through its associations to many. But the keys of a row
depend on its root alone, so sorting the rows sorts the roots: the instances come as they do
without an ordering, sorted stably by their keys.
-/

namespace EntityGraph

universe u

/-! ## Lists -/

/-- If each of several items is related to something, they are related to a list item by item. -/
theorem exists_forall₂_of_forall {α β : Type u} {related : α → β → Prop} {items : List α}
    (each : ∀ item ∈ items, ∃ other, related item other) :
    ∃ others, List.Forall₂ related items others := by
  induction items with
  | nil => exact ⟨[], .nil⟩
  | cons item rest inductionHypothesis =>
    rw [List.forall_mem_cons] at each
    obtain ⟨⟨other, first⟩, rest⟩ := each
    obtain ⟨others, remaining⟩ := inductionHypothesis rest
    exact ⟨other :: others, .cons first remaining⟩

/-- Dropping repetitions leaves items of a list in their order. -/
theorem eraseDups_sublist {α : Type u} [BEq α] [LawfulBEq α] :
    (items : List α) → items.eraseDups.Sublist items
  | [] => by simp
  | first :: rest => by
    rw [List.eraseDups_cons]
    exact ((eraseDups_sublist _).trans List.filter_sublist).cons_cons first
termination_by items => items.length
decreasing_by exact Nat.lt_succ_of_le (List.length_filter_le _ _)

/-- A sorted list is sorted without its repetitions. -/
theorem StablySorted.eraseDups {α : Type u} [BEq α] [LawfulBEq α] {before : α → α → Bool}
    {items sorted : List α} (stably : StablySorted before items sorted) :
    StablySorted before items.eraseDups sorted.eraseDups where
  perm := by
    rw [List.perm_ext_iff_of_nodup (nodup_eraseDups _) (nodup_eraseDups _)]
    simp [stably.perm.mem_iff]
  inOrder := stably.inOrder.sublist (eraseDups_sublist sorted)
  stable item inside := by
    rw [← eraseDups_filter, ← eraseDups_filter, stably.stable item (List.mem_eraseDups.1 inside)]

/-! ## The list without an ordering -/

/-- A selection that succeeds also succeeds without its ordering. -/
theorem Select.exists_run_unordered {store : Store} {select : Select} {values : List Value}
    (done : select.run store = .ok values) :
    ∃ others, Select.run store { select with orderBy := [] } = .ok others := by
  obtain ⟨distinct, projected, entity, root, joins, filter, orderBy⟩ := select
  simp only [Select.run, bind_eq_ok_iff] at done
  obtain ⟨refs, listed, joined, expanded, kept, filtered, keyed, keys, found, read, _⟩ := done
  obtain ⟨pairs, paired⟩ : ∃ pairs, kept.mapM (fun row => do
      return (← OrderTerm.keys store row [], row)) = .ok pairs :=
    exists_mapM_eq_ok fun row _ => ⟨([], row), rfl⟩
  have inPlace : sortByKeys store.model (OrderTerm.directions []) pairs = kept := by
    rw [OrderTerm.eq_map_keysIn paired]
    exact OrderTerm.sorted_nil store kept
  obtain ⟨values, readToo⟩ : ∃ values, kept.mapM (fun row => row.get projected) = .ok values := by
    refine exists_mapM_eq_ok fun row member => ?_
    rw [OrderTerm.eq_map_keysIn keys] at read
    obtain ⟨value, _, got⟩ := exists_of_mem_of_mapM read
      ((OrderTerm.sorted_perm store orderBy kept).mem_iff.2 member)
    exact ⟨value, got⟩
  refine ⟨if distinct then firstAppearances values else values, ?_⟩
  simp only [Select.run, bind_eq_ok_iff]
  refine ⟨refs, listed, joined, expanded, kept, filtered, pairs, paired, values, ?_, rfl⟩
  rw [inPlace]
  exact readToo

/-- A selection of different instances projects the roots of its sorted rows, each once. -/
theorem Select.project_eq_of_roots {store : Store} {select : Select} {rows : List Bindings}
    {rootOf : Bindings → EntityRef} (distinct : select.distinct = true)
    (bound : ∀ row ∈ rows, row.get select.projected = .ok (.entity (rootOf row))) :
    select.project store rows =
      ((OrderTerm.sorted store select.orderBy rows).map rootOf).eraseDups.map .entity := by
  have rooted : (OrderTerm.sorted store select.orderBy rows).map
      (fun row => row.value select.projected) =
        ((OrderTerm.sorted store select.orderBy rows).map rootOf).map .entity := by
    rw [List.map_map]
    refine List.map_congr_left fun row member => ?_
    exact Bindings.value_eq_of_get
      (bound row ((OrderTerm.sorted_perm store select.orderBy rows).mem_iff.1 member))
  rw [project, if_pos distinct, rooted, firstAppearances_map_entity]

/-! ## Keys of instances -/

/-- The value at the end of a path from an instance. -/
def Store.keyAlong (store : Store) (ref : EntityRef) (key : KeyPath) : Except ExecutionError Value :=
  store.attributeValue (store.reached (.entity ref) key.path) key.attr

/-- The keys of an instance, null for those without a value. -/
def Store.keysAlong (store : Store) (keys : List KeyPath) (ref : EntityRef) : List Value :=
  keys.map fun key => (store.keyAlong ref key).toOption.getD .null

/-- What an element of an ordering is for some instances that a plan selects: an attribute that is
not an association, at the end of a path of associations to one that the plan fetches. From each
of the instances the path leads to one thing at most, all rows of the instance bind the alias of
the element to it, and it has a value of the attribute. -/
structure Select.OrdersAlong (store : Store) (plan : Select) (roots : List EntityRef)
    (term : OrderTerm) (key : KeyPath) : Prop where
  declared : ∃ target info, store.model.ToOnePath plan.entity key.path target ∧
    store.model.attribute? target key.attr = some info ∧ info.type.isAssociation = false
  single : ∀ ref ∈ roots, store.ReachesOne (.entity ref) key.path
  valued : ∀ ref ∈ roots, ∃ value, store.keyAlong ref key = .ok value
  bound : ∃ name, term.key = .column name key.attr ∧
    Join.FetchPath plan.root plan.joins key.path name ∧
    ∀ all, store.refs plan.entity = .ok all → ∀ row ∈ plan.rows store all, ∀ ref ∈ roots,
      row.get plan.root = .ok (.entity ref) →
        row.get name = .ok (store.reached (.entity ref) key.path)

/-- The values that an attribute of an entity has in a store, and null. -/
def Store.Takes (store : Store) (entity attr : String) (value : Value) : Prop :=
  value = .null ∨ ∃ ref, ref.entity = entity ∧ store.Stored ref ∧
    store.attributeValue (.entity ref) attr = .ok value

/-- What an attribute that is not an association has in a store is totally ordered up to ties, null
included. -/
theorem Store.WellTyped.totalOn_takes {store : Store} (typed : store.WellTyped)
    {entity attr : String} {info : Attribute}
    (known : store.model.attribute? entity attr = some info)
    (plain : info.type.isAssociation = false) :
    TotalOn (Value.compare store.model) (store.Takes entity attr) := by
  refine (Value.totalOn_fits store.model store.Stored plain).mono fun value taken => ?_
  rcases taken with rfl | ⟨ref, rfl, stored, held⟩
  · exact .inl rfl
  · obtain ⟨found, same, fits⟩ := typed.exists_attributeValue stored known
    obtain rfl : value = found := Except.ok.inj (held.symm.trans same)
    exact .inr fits

namespace Planner

variable {store : Store} {planner : Planner} {context : PlanContext} {entity : String}
  {selection : Selection} {own : List LeveledTerm} {below : LevelPlan} {filtered : RootConditions}
  {related : List Expr} {roots : List EntityRef}

/-- A key that stands for the end of a path from the root is along that path for the instances
that what is fetched can be fetched onto. -/
theorem ordersAlong_of_follows (typed : store.WellTyped)
    (planned : planner.Plans context.vars (rootLevel entity) 1 selection.selections below)
    (conditioned : planner.model.rootConditions ⟨entity, context.vars, context.arguments⟩
      (rootLevel entity).name below.next selection.filters = .ok filtered)
    (present : ∀ ref ∈ roots, ref.entity = entity ∧ store.Stored ref) {fetched : List Selection}
    (fetchable : ∀ ref ∈ roots, Selection.AllFetchable store ref fetched) {term : OrderTerm}
    {key : KeyPath} {name : Alias}
    (follows : term.Follows store (rootLevel entity).name entity below.joins fetched below.next key
      name) :
    (assemble entity own below filtered related).OrdersAlong store roots term key := by
  have leads (ref : EntityRef) (member : ref ∈ roots) :=
    follows.leads (.entity ref) (.inr ⟨ref, rfl, present ref member⟩) fun other same => by
      cases same
      exact fetchable ref member
  refine ⟨follows.declared, fun ref member => (leads ref member).1, fun ref member => ?_,
    name, follows.column, follows.fetches.mono (List.subset_append_left _ _), ?_⟩
  · obtain ⟨target, info, toOne, known, _⟩ := follows.declared
    obtain ⟨value, held, _⟩ := typed.exists_value_of_binds
      (typed.binds_reached toOne (.inr ⟨ref, rfl, present ref member⟩)) known
    exact ⟨value, held⟩
  · intro all listed row inside ref member bound
    obtain ⟨other, _, joined, _⟩ := mem_rows_assemble_iff.1 inside
    obtain rfl : ref = other := Value.entity.inj <|
      (Bindings.value_eq_of_get bound).symm.trans (value_root_of_joined planned conditioned joined)
    rw [Join.allRows_append, List.mem_flatMap] at joined
    obtain ⟨middle, first, last⟩ := joined
    have held : row.lookup name.index = some (store.reached (.entity ref) key.path) := by
      rw [Model.lookup_eq_of_rootConditions conditioned last follows.older]
      exact (leads ref member).2 _ middle (Bindings.lookup_bind_self _ _ _) first
    rw [Bindings.get, held]

variable {plan : Select}

/-- The ordering of a plan is along paths from the instances that are returned. -/
theorem exists_ordersAlong (sameModel : planner.model = store.model) (typed : store.WellTyped)
    (planned : planner.plan context entity selection = .ok plan)
    (present : ∀ ref ∈ roots, ref.entity = entity ∧ store.Stored ref)
    (fetchable : planner.settings.eagerFetchToOne = true →
      ∀ ref ∈ roots, Selection.AllFetchable store ref selection.selections) :
    ∀ term ∈ plan.orderBy, ∃ key, plan.OrdersAlong store roots term key := by
  obtain ⟨own, below, filtered, related, _, ordered, joined, conditioned, _, rfl⟩ :=
    plan_eq_ok_iff.1 planned
  intro term member
  obtain ⟨leveled, inside, rfl⟩ := List.mem_map.1 member
  rw [(sortStable_perm _ _).mem_iff, List.mem_append] at inside
  rcases inside with inside | inside
  · obtain ⟨attr, info, column, known, plain⟩ := exists_of_mem_ownTerms ordered inside
    rw [sameModel] at known
    -- Nothing has to be fetched to reach the root itself.
    have nothing : ∀ ref ∈ roots, Selection.AllFetchable store ref [] := fun _ _ => trivial
    exact ⟨_, ordersAlong_of_follows typed joined conditioned present nothing
      (joined.follows_own [] Nat.zero_lt_one column known plain)⟩
  · obtain ⟨key, name, follows⟩ :=
      joined.exists_follows sameModel typed Nat.zero_lt_one leveled inside
    exact ⟨key, ordersAlong_of_follows typed joined conditioned present
      (fetchable (joined.loaded_of_mem_ordering inside).2) follows⟩

/-- Each row of a plan has a root, which is what the plan projects, and keys of the same types as
the other rows. -/
theorem exists_roots (sameModel : planner.model = store.model) (typed : store.WellTyped)
    (planned : planner.plan context entity selection = .ok plan) {all : List EntityRef}
    (listed : store.refs plan.entity = .ok all) :
    plan.distinct = true ∧ plan.projected = plan.root ∧
      (∃ rootOf : Bindings → EntityRef, ∀ row ∈ plan.rows store all,
        row.get plan.root = .ok (.entity (rootOf row))) ∧
      ∃ types : List AttributeType, (∀ type ∈ types, type.isAssociation = false) ∧
        ∀ row ∈ plan.rows store all, OrderTerm.KeysFit store plan.orderBy types row := by
  obtain ⟨own, below, filtered, related, _, ordered, joined, conditioned, _, rfl⟩ :=
    plan_eq_ok_iff.1 planned
  have rowOf {row : Bindings}
      (member : row ∈ (assemble entity own below filtered related).rows store all) :
      RowOf store entity (below.joins ++ filtered.joins) row := by
    obtain ⟨ref, inside, among, _⟩ := mem_rows_assemble_iff.1 member
    exact ⟨ref, (Store.mem_refs_iff listed).1 inside, among⟩
  refine ⟨rfl, rfl, ?_, ?_⟩
  · have rooted (row : Bindings) : ∃ ref,
        row ∈ (assemble entity own below filtered related).rows store all →
          row.get (rootLevel entity).name = .ok (.entity ref) := by
      by_cases member : row ∈ (assemble entity own below filtered related).rows store all
      · obtain ⟨ref, _, among⟩ := rowOf member
        refine ⟨ref, fun _ => ?_⟩
        rw [(bindsIn_of_rowOf joined conditioned (rowOf member)).get_eq,
          value_root_of_joined joined conditioned among]
      · exact ⟨⟨"", ""⟩, fun inside => absurd inside member⟩
    choose rootOf bound using rooted
    exact ⟨rootOf, bound⟩
  · obtain ⟨types, plain, fits⟩ := exists_keyTypes sameModel typed ordered joined conditioned
    exact ⟨types, plain, fun row member => fits row (rowOf member)⟩

end Planner

/-- The keys of a row are those of its root. -/
theorem Select.keys_eq_of_ordersAlong {store : Store} {plan : Select} {roots all : List EntityRef}
    {terms : List OrderTerm} {keys : List KeyPath} {row : Bindings} {ref : EntityRef}
    (along : List.Forall₂ (plan.OrdersAlong store roots) terms keys)
    (listed : store.refs plan.entity = .ok all) (inside : row ∈ plan.rows store all)
    (member : ref ∈ roots) (bound : row.get plan.root = .ok (.entity ref)) :
    OrderTerm.keys store row terms = .ok (store.keysAlong keys ref) := by
  induction along with
  | nil => rfl
  | @cons term key terms keys first _ inductionHypothesis =>
    obtain ⟨name, column, _, reaches⟩ := first.bound
    obtain ⟨value, held⟩ := first.valued ref member
    obtain ⟨_, direction⟩ := term
    obtain rfl := column
    have evaluated : (Expr.column name key.attr).evaluate store row = .ok value := by
      rw [Expr.evaluate, reaches all listed row inside ref member bound]
      exact held
    rw [OrderTerm.keys, evaluated, inductionHypothesis, Store.keysAlong, Store.keysAlong,
      List.map_cons, held]
    rfl

/-- Whether one instance comes before another by their keys along some paths. -/
def Store.comesBefore (store : Store) (directions : List Direction) (keys : List KeyPath)
    (left right : EntityRef) : Bool :=
  compareKeys store.model directions (store.keysAlong keys left) (store.keysAlong keys right) = .lt

/-- Rows that are sorted by keys have their roots sorted, if their keys depend on their roots
alone. -/
theorem OrderTerm.stablySorted_roots {store : Store} {terms : List OrderTerm}
    {types : List AttributeType} {keys : List KeyPath} {rows : List Bindings}
    {rootOf : Bindings → EntityRef} (plain : ∀ type ∈ types, type.isAssociation = false)
    (fits : ∀ row ∈ rows, KeysFit store terms types row)
    (agree : ∀ row ∈ rows, keysIn store terms row = store.keysAlong keys (rootOf row)) :
    StablySorted (store.comesBefore (OrderTerm.directions terms) keys) (rows.map rootOf)
      ((OrderTerm.sorted store terms rows).map rootOf) := by
  have keyed := (strictWeakOn_keyed store (directions terms) plain).stablySorted
    (forall₂_of_mem_keyed fits)
  have rooted := keyed.congr (fun left right =>
    store.comesBefore (directions terms) keys (rootOf left.2) (rootOf right.2)) (by
      rw [List.forall_mem_map]
      intro left leftInside
      rw [List.forall_mem_map]
      intro right rightInside
      rw [Store.comesBefore, agree left leftInside, agree right rightInside])
  have mapped := rooted.map fun entry : List Value × Bindings => rootOf entry.2
  rw [List.map_map] at mapped
  rw [OrderTerm.sorted, sortByKeys, List.map_map]
  exact mapped

/-- The instance that a reference is loaded as, without fields if it cannot be loaded. -/
def Store.loadedAs (store : Store) (joins : List Join) (ref : EntityRef) : Instance :=
  (store.instanceWith joins (.entity ref)).toOption.getD ⟨ref, []⟩

@[simp] theorem Store.ref_loadedAs (store : Store) (joins : List Join) (ref : EntityRef) :
    (store.loadedAs joins ref).ref = ref := by
  unfold loadedAs
  cases loaded : store.instanceWith joins (.entity ref) with
  | error _ => rfl
  | ok inst => exact (Value.entity.inj (Store.eq_entity_of_instanceWith loaded)).symm

/-- References are loaded one by one. -/
theorem Store.eq_map_loadedAs {store : Store} {joins : List Join} {refs : List EntityRef}
    {instances : List Instance}
    (loaded : (refs.map Value.entity).mapM (store.instanceWith joins) = .ok instances) :
    instances = refs.map (store.loadedAs joins) := by
  rw [mapM_eq_ok_iff, List.forall₂_map_left_iff] at loaded
  induction loaded with
  | nil => rfl
  | cons first _ inductionHypothesis =>
    rw [List.map_cons, ← inductionHypothesis, loadedAs, first]
    rfl

/-- The roots of the rows of a plan as the plan sorts them, each once. -/
def Select.roots (store : Store) (plan : Select) (all : List EntityRef)
    (rootOf : Bindings → EntityRef) : List EntityRef :=
  ((OrderTerm.sorted store plan.orderBy (plan.rows store all)).map rootOf).eraseDups

theorem Select.mem_roots_iff {store : Store} {plan : Select} {all : List EntityRef}
    {rootOf : Bindings → EntityRef} {ref : EntityRef} :
    ref ∈ plan.roots store all rootOf ↔ ∃ row ∈ plan.rows store all, rootOf row = ref := by
  rw [roots, List.mem_eraseDups, List.mem_map]
  simp only [(OrderTerm.sorted_perm store plan.orderBy (plan.rows store all)).mem_iff]

section Roots

variable {store : Store} {plan : Select} {all : List EntityRef} {rootOf : Bindings → EntityRef}
  {instances : List Instance}

/-- A plan that is executed runs to its roots, which are loaded one by one. -/
theorem Store.eq_map_roots_of_execute (executed : store.execute plan = .ok instances)
    (listed : store.refs plan.entity = .ok all) (distinct : plan.distinct = true)
    (bound : ∀ row ∈ plan.rows store all, row.get plan.projected = .ok (.entity (rootOf row))) :
    plan.run store = .ok ((plan.roots store all rootOf).map .entity) ∧
      instances = (plan.roots store all rootOf).map (store.loadedAs plan.joins) := by
  obtain ⟨values, run, loaded⟩ := Store.execute_eq_ok_iff.1 executed
  obtain ⟨again, listedAgain, projected⟩ := Select.eq_project_of_run run
  obtain rfl : all = again := Except.ok.inj (listed.symm.trans listedAgain)
  obtain rfl := projected.trans (Select.project_eq_of_roots distinct bound)
  exact ⟨run, Store.eq_map_loadedAs loaded⟩

/-- A plan that is executed is executed without its ordering as well. -/
theorem Store.exists_execute_unordered (executed : store.execute plan = .ok instances)
    (listed : store.refs plan.entity = .ok all) (distinct : plan.distinct = true)
    (bound : ∀ row ∈ plan.rows store all, row.get plan.projected = .ok (.entity (rootOf row))) :
    ∃ unordered, store.execute { plan with orderBy := [] } = .ok unordered := by
  obtain ⟨values, run, loaded⟩ := Store.execute_eq_ok_iff.1 executed
  obtain ⟨others, runUnordered⟩ := Select.exists_run_unordered run
  obtain ⟨again, listedAgain, projected⟩ := Select.eq_project_of_run runUnordered
  obtain rfl : all = again := Except.ok.inj (listed.symm.trans listedAgain)
  obtain rfl := projected.trans (Select.project_eq_of_roots distinct bound)
  obtain rfl := Except.ok.inj
    (run.symm.trans (eq_map_roots_of_execute executed listed distinct bound).1)
  obtain ⟨unordered, loadedUnordered⟩ : ∃ unordered,
      ((Select.roots store { plan with orderBy := [] } all rootOf).map Value.entity).mapM
        (store.instanceWith plan.joins) = .ok unordered := by
    refine exists_mapM_eq_ok (List.forall_mem_map.2 fun ref member => ?_)
    obtain ⟨row, inside, rfl⟩ := Select.mem_roots_iff.1 member
    obtain ⟨inst, _, found⟩ := exists_of_mem_of_mapM loaded
      (List.mem_map_of_mem (Select.mem_roots_iff.2 ⟨row, inside, rfl⟩))
    exact ⟨inst, found⟩
  exact ⟨unordered, Store.execute_eq_ok_iff.2 ⟨_, runUnordered, loadedUnordered⟩⟩

end Roots

/-- The instances that a plan is executed to are in the order that the field asks for. Each element
of the ordering is a value at the end of a path of associations to one, and the instances are
those that the plan is executed to without an ordering, sorted stably by these values. Values of
one attribute are totally ordered up to ties, and null comes behind all others. -/
theorem executed_instances_are_sorted {model : Model} {store : Store} {settings : FetchSettings}
    {context : PlanContext} {entity : String} {field : Selection} {plan : Select}
    {instances : List Instance} (obtained : Store.Obtained model store)
    (planned : Planner.plan ⟨model, settings⟩ context entity field = .ok plan)
    (executed : store.execute plan = .ok instances) :
    (∀ owner attr info, model.attribute? owner attr = some info →
      info.type.isAssociation = false →
        TotalOn (Value.compare model) (store.Takes owner attr)) ∧
    (∀ value, value ≠ .null → Value.compare model value .null = .lt) ∧
    ∃ keys unordered,
      List.Forall₂ (plan.OrdersAlong store (instances.map Instance.ref)) plan.orderBy keys ∧
      store.execute { plan with orderBy := [] } = .ok unordered ∧
      StablySorted (fun left right => store.comesBefore (OrderTerm.directions plan.orderBy) keys
        left.ref right.ref) unordered instances := by
  obtain rfl := obtained.model_eq
  have typed := obtained.wellTyped
  refine ⟨fun owner attr info known plain => typed.totalOn_takes known plain,
    fun value => Value.compare_null_right, ?_⟩
  obtain ⟨_, projected, _⟩ := Store.execute_eq_ok_iff.1 executed
  obtain ⟨all, listed, _⟩ := Select.eq_project_of_run projected
  obtain ⟨distinct, same, ⟨rootOf, bound⟩, types, plain, fits⟩ :=
    Planner.exists_roots rfl typed planned listed
  have projects : ∀ row ∈ plan.rows store all,
      row.get plan.projected = .ok (.entity (rootOf row)) := same ▸ bound
  obtain ⟨run, loaded⟩ := Store.eq_map_roots_of_execute executed listed distinct projects
  have returned : instances.map Instance.ref = plan.roots store all rootOf := by
    simp [loaded, Function.comp_def]
  -- The keys of the rows are those of their roots, along paths that can be fetched.
  obtain ⟨next, related, _, selected⟩ := Planner.exists_conditions_of_execute planned executed rfl
  have present : ∀ ref ∈ instances.map Instance.ref, ref.entity = entity ∧ store.Stored ref :=
    fun ref member => ((selected ref).1 member).1
  have fetchable := (Planner.exists_execute_iff planned rfl typed (returned ▸ run) present).1
    ⟨instances, executed⟩
  obtain ⟨keys, along⟩ :=
    exists_forall₂_of_forall (Planner.exists_ordersAlong rfl typed planned present fetchable)
  have agree (row : Bindings) (inside : row ∈ plan.rows store all) :
      OrderTerm.keysIn store plan.orderBy row = store.keysAlong keys (rootOf row) := by
    have member : rootOf row ∈ instances.map Instance.ref :=
      returned ▸ Select.mem_roots_iff.2 ⟨row, inside, rfl⟩
    rw [OrderTerm.keysIn, Select.keys_eq_of_ordersAlong along listed inside member
      (bound row inside)]
    rfl
  have stably := (OrderTerm.stablySorted_roots plain fits agree).eraseDups
  -- Without the ordering the roots are those of the rows as they are joined.
  obtain ⟨unordered, executedUnordered⟩ :=
    Store.exists_execute_unordered executed listed distinct projects
  have loadedUnordered :=
    (Store.eq_map_roots_of_execute executedUnordered listed distinct projects).2
  rw [Select.roots, OrderTerm.sorted_nil] at loadedUnordered
  refine ⟨keys, unordered, along, executedUnordered, ?_⟩
  rw [loaded, loadedUnordered]
  refine StablySorted.map _ ?_
  simp only [Store.ref_loadedAs]
  exact stably

/-- The books, those with the last titles first and then by their authors, each of whom has a row
for every book. -/
def shelfField : Selection :=
  ⟨"Book", none, [], [⟨"title", none, [⟨"orderBy", .enum "DESC"⟩], []⟩,
    ⟨"author", none, [], [⟨"id", none, [⟨"orderBy", .enum "ASC"⟩], []⟩,
      ⟨"books", none, [], [⟨"title", none, [], []⟩]⟩]⟩]⟩

/-- The plan for the books in order. -/
def shelfPlan : Select :=
  (Planner.plan ⟨Model.library, .standard⟩ PlanContext.empty "Book" shelfField).toOption.getD
    (.everything "Book" ⟨0, "Book"⟩)

/-- The books in order. -/
def shelf : List Instance :=
  (Store.library.execute shelfPlan).toOption.getD []

theorem shelf_is_sorted :
    Planner.plan ⟨Model.library, .standard⟩ PlanContext.empty "Book" shelfField = .ok shelfPlan ∧
      Store.library.execute shelfPlan = .ok shelf ∧
      shelf.map Instance.ref = [⟨"Book", "2"⟩, ⟨"Book", "1"⟩] ∧
      ∃ keys unordered,
        List.Forall₂ (shelfPlan.OrdersAlong Store.library (shelf.map Instance.ref))
          shelfPlan.orderBy keys ∧
        Store.library.execute { shelfPlan with orderBy := [] } = .ok unordered ∧
        StablySorted (fun left right => Store.library.comesBefore
          (OrderTerm.directions shelfPlan.orderBy) keys left.ref right.ref) unordered shelf := by
  have planned : Planner.plan ⟨Model.library, .standard⟩ PlanContext.empty "Book" shelfField =
      .ok shelfPlan :=
    eq_ok_of_isOk (by decide +kernel)
  have executed : Store.library.execute shelfPlan = .ok shelf :=
    eq_ok_of_isOk (by decide +kernel)
  have sorted := executed_instances_are_sorted obtained_library planned executed
  exact ⟨planned, executed, by decide +kernel, sorted.2.2⟩

end EntityGraph
