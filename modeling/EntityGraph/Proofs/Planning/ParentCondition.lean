import EntityGraph.Proofs.Model.Consistency
import EntityGraph.Proofs.Plan.Selected
import EntityGraph.Proofs.Planning.Evaluation
import EntityGraph.Proofs.Planning.Planned
import EntityGraph.Proofs.Store.MappedSide

/-!
# The condition of a source

The plan for a field of a source is restricted to the targets of the source. Targets that
hold the reference are compared by it, others are looked for by a selection of their own;
in both ways the condition holds exactly for the instances that the source leads to.
-/

namespace EntityGraph

variable {store : Store} {source : EntityRef} {attr : String} {info : Attribute} {next : Nat}

/-! ## The selection of targets -/

/-- The row of an instance that may be the source. -/
def parentRow (source : EntityRef) (next : Nat) (ref : EntityRef) : Bindings :=
  Bindings.bind [] ⟨next, source.entity⟩ (.entity ref)

/-- The row of an instance and one of its targets. -/
def targetRow (source : EntityRef) (attr : String) (next : Nat) (ref : EntityRef)
    (target : Value) : Bindings :=
  (parentRow source next ref).bind ⟨next + 1, attr⟩ target

theorem get_parent (ref : EntityRef) (target : Value) :
    (targetRow source attr next ref target).get ⟨next, source.entity⟩ = .ok (.entity ref) := by
  have parent : (targetRow source attr next ref target).lookup next = some (.entity ref) := by
    rw [targetRow, Bindings.lookup_bind_of_ne (Nat.ne_of_lt (Nat.lt_succ_self next))]
    exact Bindings.lookup_bind_self _ ⟨next, source.entity⟩ _
  rw [Bindings.get, parent]

theorem get_joined (ref : EntityRef) (target : Value) :
    (targetRow source attr next ref target).get ⟨next + 1, attr⟩ = .ok target := by
  rw [Bindings.get, targetRow, Bindings.lookup_bind_self _ ⟨next + 1, attr⟩]

/-- The selection of targets looks for the source. -/
theorem evaluate_filter_targetsOf (ref : EntityRef) (target : Value) :
    (targetsOf source attr next).filter.evaluate store (targetRow source attr next ref target) =
      .ok (.bool (ref = source)) := by
  have equal : (Value.entity ref).equals (.entity source) = decide (ref = source) := by
    rw [Bool.eq_iff_iff, Value.equals_entity_iff, decide_eq_true_iff]
  simp only [targetsOf, Expr.evaluate, get_parent, bind, Except.bind, equal]
  rfl

/-- The rows of an instance are its targets. -/
theorem mem_allRows_targetsOf_iff {ref : EntityRef} {row : Bindings} :
    row ∈ Join.allRows store (targetsOf source attr next).root (targetsOf source attr next).joins
        (parentRow source next ref) ↔
      ∃ target ∈ store.targets (.entity ref) attr,
        row = targetRow source attr next ref target := by
  have start : (parentRow source next ref).value ⟨next, source.entity⟩ = .entity ref :=
    Bindings.value_bind_self _ _ _
  simp only [targetsOf, Select.everything, Join.plain]
  rw [Join.mem_allRows_cons_iff]
  simp only [Join.mem_matchedRows_iff, Join.allRows, List.mem_singleton, start]
  constructor
  · rintro ⟨matched, ⟨target, member, _, rfl⟩ | ⟨impossible, _⟩, nested, rfl, rfl⟩
    · exact ⟨target, member, rfl⟩
    · cases impossible
  · rintro ⟨target, member, rfl⟩
    exact ⟨_, .inl ⟨target, member, rfl, rfl⟩, _, rfl, rfl⟩

/-- The rows of the selection are the targets of the source. -/
theorem mem_rows_targetsOf_iff {refs : List EntityRef}
    (listed : store.refs source.entity = .ok refs) (present : store.Stored source)
    {row : Bindings} :
    row ∈ (targetsOf source attr next).rows store refs ↔
      ∃ target ∈ store.targets (.entity source) attr,
        row = targetRow source attr next source target := by
  have passes (ref : EntityRef) (target : Value) :
      (targetsOf source attr next).filter.holds store (targetRow source attr next ref target) =
        decide (ref = source) := by
    rw [Expr.holds, evaluate_filter_targetsOf]
    exact isTrue_bool _
  have among : source ∈ refs := (Store.mem_refs_iff listed).2 ⟨rfl, present⟩
  rw [Select.rows, List.mem_filter, List.mem_flatMap]
  constructor
  · rintro ⟨⟨ref, _, joined⟩, held⟩
    obtain ⟨target, member, rfl⟩ := mem_allRows_targetsOf_iff.1 joined
    rw [passes, decide_eq_true_eq] at held
    subst held
    exact ⟨target, member, rfl⟩
  · rintro ⟨target, member, rfl⟩
    refine ⟨⟨source, among, mem_allRows_targetsOf_iff.2 ⟨target, member, rfl⟩⟩, ?_⟩
    rw [passes, decide_eq_true_eq]

/-- The selection of the targets of a source does not fail. -/
theorem exists_run_targetsOf (typed : store.WellTyped) (present : store.Stored source)
    (known : store.model.attribute? source.entity attr = some info) (next : Nat) :
    ∃ values, (targetsOf source attr next).run store = .ok values := by
  obtain ⟨entity, declared⟩ := typed.exists_entity present
  obtain ⟨refs, listed⟩ := typed.exists_refs declared
  refine Select.exists_run listed ?_ (fun ref _ row member => ?_) (fun _ _ => ⟨[], rfl⟩)
    fun row member => ?_
  · refine Join.exists_expandAll_cons (fun row member => ?_) (fun found _ => ⟨found, rfl⟩)
      fun found _ => ⟨found, rfl⟩
    obtain ⟨ref, inside, rfl⟩ := List.mem_map.1 member
    have binds : store.BindsIn (parentRow source next ref) ⟨next, source.entity⟩ source.entity :=
      .bind_self (.inr ⟨ref, rfl, (Store.mem_refs_iff listed).1 inside⟩)
    exact Join.exists_matchRow typed binds known fun _ _ _ none => by cases none
  · obtain ⟨target, _, rfl⟩ := mem_allRows_targetsOf_iff.1 member
    exact ⟨_, evaluate_filter_targetsOf ref target⟩
  · obtain ⟨target, _, rfl⟩ := (mem_rows_targetsOf_iff listed present).1 member
    exact ⟨target, get_joined source target⟩

/-- The selection of the targets of a source projects its targets. -/
theorem mem_run_targetsOf_iff (present : store.Stored source) {values : List Value}
    (run : (targetsOf source attr next).run store = .ok values) {value : Value} :
    value ∈ values ↔ value ∈ store.targets (.entity source) attr := by
  obtain ⟨refs, listed, rfl⟩ := Select.eq_project_of_run run
  have projected : (targetsOf source attr next).project store
      ((targetsOf source attr next).rows store refs) =
      (OrderTerm.sorted store [] ((targetsOf source attr next).rows store refs)).map fun row =>
        row.value ⟨next + 1, attr⟩ := rfl
  have joined (target : Value) :
      (targetRow source attr next source target).value ⟨next + 1, attr⟩ = target :=
    Bindings.value_eq_of_get (get_joined source target)
  rw [projected, List.mem_map]
  constructor
  · rintro ⟨row, member, rfl⟩
    obtain ⟨target, inside, rfl⟩ := (mem_rows_targetsOf_iff listed present).1
      ((OrderTerm.sorted_perm store _ _).mem_iff.1 member)
    rwa [joined]
  · intro inside
    refine ⟨_, (OrderTerm.sorted_perm store _ _).mem_iff.2
      ((mem_rows_targetsOf_iff listed present).2 ⟨value, inside, rfl⟩), joined value⟩

/-! ## The condition -/

variable {relationship : Relationship} {root : Alias} {condition : Expr}

/-- The condition of a source follows the ownership of its field. -/
theorem Model.parentCondition_eq {model : Model}
    (known : model.attribute? source.entity attr = some info)
    (related : info.type.relationship? source.entity attr = some relationship) :
    model.parentCondition source attr root next = .ok (match relationship.ownership with
      | .mappedBy owner => .equals (.column root owner) (.value (.entity source))
      | .owning | .association => .inSelect (.table root) (targetsOf source attr next)) := by
  refine bind_eq_ok_iff.2 ⟨relationship, lookupAssociation_eq_ok known related, ?_⟩
  cases relationship.ownership <;> rfl

/-- The condition of a source has a value for every target. -/
theorem Model.exists_evaluate_parentCondition (typed : store.WellTyped)
    (consistent : store.model.Consistent) (present : store.Stored source)
    (known : store.model.attribute? source.entity attr = some info)
    (related : info.type.relationship? source.entity attr = some relationship)
    (planned : store.model.parentCondition source attr root next = .ok condition)
    {row : Bindings} (binds : store.BindsIn row root relationship.target) :
    ∃ value, condition.evaluate store row = .ok value := by
  rw [parentCondition_eq known related] at planned
  cases planned
  have searched : ∃ value,
      (Expr.inSelect (.table root) (targetsOf source attr next)).evaluate store row =
        .ok value := by
    obtain ⟨values, run⟩ := exists_run_targetsOf typed present known next
    refine ⟨.bool (values.any fun value => (row.value root).equals value), ?_⟩
    simp only [Expr.evaluate, binds.get_eq, run, bind, Except.bind, pure, Except.pure]
  cases ownership : relationship.ownership with
  | mappedBy owner =>
    obtain ⟨_, _, _, owned⟩ := consistent.exists_owner known related ownership
    obtain ⟨value, evaluated, _⟩ := binds.exists_evaluate_column typed owned
    exact Expr.exists_evaluate_comparison evaluated .singular (.entity source)
  | owning => exact searched
  | association => exact searched

/-- An association that is mapped by an attribute of its target is filled in from it. -/
theorem Model.ownerOf?_of_mappedBy {model : Model}
    (known : model.attribute? source.entity attr = some info)
    (related : info.type.relationship? source.entity attr = some relationship) {owner : String}
    (ownership : relationship.ownership = .mappedBy owner) :
    model.ownerOf? source.entity attr = some (relationship.target, owner) := by
  obtain ⟨kind, mappedBy?, type, byOwner⟩ := AttributeType.exists_of_relationship? related
  obtain ⟨_, description?⟩ := info
  cases type
  rw [ownerOf?_eq_some_iff, ← byOwner owner ownership]
  exact ⟨kind, description?, known⟩

/-- Along which attribute the condition of a source looks, from its source or back to it. -/
theorem Model.holds_parentCondition_iff_of_ownership (typed : store.WellTyped)
    (consistent : store.model.Consistent) (present : store.Stored source)
    (known : store.model.attribute? source.entity attr = some info)
    (related : info.type.relationship? source.entity attr = some relationship)
    (planned : store.model.parentCondition source attr root next = .ok condition)
    {row : Bindings} {target : EntityRef} (bound : row.lookup root.index = some (.entity target))
    (targetStored : store.Stored target) (ofTarget : target.entity = relationship.target) :
    condition.holds store row = true ↔
      match relationship.ownership with
      | .mappedBy owner => (.entity source : Value) ∈ store.targets (.entity target) owner
      | .owning | .association =>
        (.entity target : Value) ∈ store.targets (.entity source) attr := by
  have leads {value : Value} (member : value ∈ store.targets (.entity source) attr) :
      ∃ ref, value = .entity ref := by
    obtain ⟨ref, same, _⟩ := typed.exists_ref_of_target (.inr ⟨source, rfl, rfl, present⟩) known
      related member
    exact ⟨ref, same⟩
  have searched :
      (Expr.inSelect (.table root) (targetsOf source attr next)).holds store row = true ↔
        (.entity target : Value) ∈ store.targets (.entity source) attr := by
    have got : row.get root = .ok (.entity target) := by rw [Bindings.get, bound]
    obtain ⟨values, run⟩ := exists_run_targetsOf typed present known next
    simp only [Expr.holds, Expr.evaluate, got, run, bind, Except.bind, pure, Except.pure, holds_ok,
      isTrue_bool, List.any_eq_true, mem_run_targetsOf_iff present run]
    constructor
    · rintro ⟨value, member, equal⟩
      obtain ⟨ref, rfl⟩ := leads member
      rwa [Value.equals_entity_iff.1 equal]
    · intro member
      exact ⟨_, member, Value.equals_entity_iff.2 rfl⟩
  rw [parentCondition_eq known related] at planned
  cases planned
  cases ownership : relationship.ownership with
  | mappedBy owner =>
    obtain ⟨_, _, _, owned⟩ := consistent.exists_owner known related ownership
    refine (Expr.holds_comparison_column bound owner .singular (.entity source)).trans
      (Store.meets_iff.trans ?_)
    constructor
    · rintro ⟨element, member, equal⟩
      obtain ⟨ref, rfl, _⟩ := typed.exists_ref_of_target (.inr ⟨target, rfl, rfl, targetStored⟩)
        (ofTarget ▸ owned) rfl member
      rwa [Value.equals_entity_iff.1 equal] at member
    · intro member
      exact ⟨_, member, Value.equals_entity_iff.2 rfl⟩
  | owning => exact searched
  | association => exact searched

/-- The condition of a source holds for its targets. -/
theorem Model.holds_parentCondition_of_mem (obtained : Store.Obtained store.model store)
    (consistent : store.model.Consistent) (present : store.Stored source)
    (known : store.model.attribute? source.entity attr = some info)
    (related : info.type.relationship? source.entity attr = some relationship)
    (planned : store.model.parentCondition source attr root next = .ok condition)
    {row : Bindings} {target : EntityRef} (bound : row.lookup root.index = some (.entity target))
    (member : (.entity target : Value) ∈ store.targets (.entity source) attr) :
    condition.holds store row = true := by
  have typed := obtained.wellTyped
  obtain ⟨_, same, ofTarget, targetStored⟩ := typed.exists_ref_of_target
    (.inr ⟨source, rfl, rfl, present⟩) known related member
  cases same
  rw [holds_parentCondition_iff_of_ownership typed consistent present known related planned bound
    targetStored ofTarget]
  cases ownership : relationship.ownership with
  | mappedBy owner =>
    have mapped := ownerOf?_of_mappedBy known related ownership
    rw [← ofTarget] at mapped
    exact Store.mem_targets_owner_of_mapped obtained present targetStored mapped member
  | owning => exact member
  | association => exact member

/-- The condition of a source holds exactly for its targets. -/
theorem Model.holds_parentCondition_iff (obtained : Store.Obtained store.model store)
    (consistent : store.model.Consistent) (unchained : store.model.Unchained)
    (present : store.Stored source)
    (known : store.model.attribute? source.entity attr = some info)
    (related : info.type.relationship? source.entity attr = some relationship)
    (planned : store.model.parentCondition source attr root next = .ok condition)
    {row : Bindings} {target : EntityRef} (bound : row.lookup root.index = some (.entity target))
    (targetStored : store.Stored target) (ofTarget : target.entity = relationship.target) :
    condition.holds store row = true ↔
      (.entity target : Value) ∈ store.targets (.entity source) attr := by
  rw [holds_parentCondition_iff_of_ownership obtained.wellTyped consistent present known related
    planned bound targetStored ofTarget]
  cases ownership : relationship.ownership with
  | mappedBy owner =>
    have mapped := ownerOf?_of_mappedBy known related ownership
    rw [← ofTarget] at mapped
    exact (Store.mem_targets_mapped_iff obtained unchained present targetStored mapped).symm
  | owning => exact Iff.rfl
  | association => exact Iff.rfl

end EntityGraph
