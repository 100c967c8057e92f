import EntityGraph.Proofs.Planning.Planned

/-!
# Removing sub-selections

A removal picks sub-selections by the keys on the way to them, from the top of a request
down. What is selected below a removed selection goes with it. Where the keys beside each
other are distinct, every set of sub-selections is picked by some removal.

What is left of a selection keeps its name, its key and its arguments, so it is planned and
fetched for the same targets. It may lose everything below itself, and then a collection is
no longer joined.
-/

namespace EntityGraph

/-- Which sub-selections to remove, given the keys on the way to them. -/
abbrev Removal := List String → Bool

namespace Removal

/-- Whether what is reported under a key is removed. -/
def removes (removal : Removal) (key : String) : Bool :=
  removal [key]

/-- What is removed below a key. -/
def below (removal : Removal) (key : String) : Removal :=
  fun keys => removal (key :: keys)

end Removal

namespace Selection

mutual

/-- What a removal leaves of what is selected below a field. -/
def without (removal : Removal) : Selection → Selection
  | ⟨name, key?, arguments, selections⟩ =>
    ⟨name, key?, arguments, allWithout removal selections⟩

/-- What a removal leaves of selections beside each other. -/
def allWithout (removal : Removal) : List Selection → List Selection
  | [] => []
  | child :: rest =>
    if removal.removes child.key then allWithout removal rest
    else child.without (removal.below child.key) :: allWithout removal rest

end

mutual

/-- Whether a field and everything below it have no directives. -/
def isUndirected : Selection → Bool
  | ⟨_, _, arguments, selections⟩ =>
    (arguments.all fun argument =>
      argument.name != orderByName && argument.name != joinTypeName) && allUndirected selections

/-- Whether selections and everything below them have no directives. -/
def allUndirected : List Selection → Bool
  | [] => true
  | child :: rest => child.isUndirected && allUndirected rest

end

/-! ## What is left of a selection -/

section
variable (removal : Removal) (child : Selection)

@[simp] theorem name_without : (child.without removal).name = child.name := by
  cases child
  rfl

@[simp] theorem arguments_without : (child.without removal).arguments = child.arguments := by
  cases child
  rfl

@[simp] theorem key_without : (child.without removal).key = child.key := by
  cases child
  rfl

@[simp] theorem selections_without :
    (child.without removal).selections = allWithout removal child.selections := by
  cases child
  rfl

@[simp] theorem isTypename_without : (child.without removal).isTypename = child.isTypename := by
  cases child
  rfl

@[simp] theorem filters_without : (child.without removal).filters = child.filters := by
  cases child
  rfl

@[simp] theorem hasFilters_without : (child.without removal).hasFilters = child.hasFilters := by
  cases child
  rfl

@[simp] theorem joinType?_without : (child.without removal).joinType? = child.joinType? := by
  cases child
  rfl

end

section
variable {removal : Removal} {child : Selection} {rest selections : List Selection}

/-- A selection that is removed is gone. -/
theorem allWithout_cons_of_removed (removed : removal.removes child.key = true) :
    allWithout removal (child :: rest) = allWithout removal rest := by
  rw [allWithout, if_pos removed]

/-- A selection that is not removed stays, without what is removed below it. -/
theorem allWithout_cons_of_kept (kept : removal.removes child.key = false) :
    allWithout removal (child :: rest) =
      child.without (removal.below child.key) :: allWithout removal rest := by
  rw [allWithout, if_neg (by simp [kept])]

/-- What is left of a selection is among what is left. -/
theorem mem_allWithout (member : child ∈ selections) (kept : removal.removes child.key = false) :
    child.without (removal.below child.key) ∈ allWithout removal selections := by
  induction selections with
  | nil => cases member
  | cons first rest inductionHypothesis =>
    rcases List.mem_cons.1 member with rfl | member
    · rw [allWithout_cons_of_kept kept]
      exact List.mem_cons_self
    · have others := inductionHypothesis member
      rw [allWithout]
      split
      · exact others
      · exact List.mem_cons_of_mem _ others

/-- What selects something after a removal did so before. -/
theorem hasSelections_of_without (selecting : (child.without removal).hasSelections = true) :
    child.hasSelections = true := by
  simp only [hasSelections, selections_without, Bool.not_eq_true', List.isEmpty_eq_false_iff]
    at selecting ⊢
  intro empty
  rw [empty, allWithout] at selecting
  exact selecting rfl

/-! ## Fields without directives -/

/-- A field without directives has no directive among its arguments and none below it. -/
theorem isUndirected_iff :
    child.isUndirected = true ↔
      (∀ argument ∈ child.arguments,
        argument.name ≠ orderByName ∧ argument.name ≠ joinTypeName) ∧
        allUndirected child.selections = true := by
  obtain ⟨name, key?, arguments, selections⟩ := child
  simp [isUndirected]

/-- Selections without directives are fields without directives. -/
theorem allUndirected_iff :
    allUndirected selections = true ↔ ∀ child ∈ selections, child.isUndirected = true := by
  induction selections with
  | nil => simp [allUndirected]
  | cons child rest inductionHypothesis => simp [allUndirected, inductionHypothesis]

/-- An argument that is not given is not found. -/
theorem argument?_eq_none {name : String}
    (absent : ∀ argument ∈ child.arguments, argument.name ≠ name) :
    child.argument? name = none := by
  rw [argument?, Option.map_eq_none_iff, List.find?_eq_none]
  intro argument member
  simpa using absent argument member

/-- A field without directives orders nothing. -/
theorem argument?_orderBy (undirected : child.isUndirected = true) :
    child.argument? orderByName = none :=
  argument?_eq_none fun argument member => ((isUndirected_iff.1 undirected).1 argument member).1

/-- A field without directives asks for no join type. -/
theorem joinType?_of_undirected (undirected : child.isUndirected = true) :
    child.joinType? = .ok none := by
  have absent : child.argument? joinTypeName = none :=
    argument?_eq_none fun argument member => ((isUndirected_iff.1 undirected).1 argument member).2
  rw [joinType?, directive?, absent]

/-- A removal leaves no directives where there were none. -/
theorem allUndirected_allWithout (selections : List Selection) :
    ∀ removal, allUndirected selections = true →
      allUndirected (allWithout removal selections) = true := by
  induction selections using Selection.listInduction with
  | nil => exact fun _ _ => rfl
  | cons name key? arguments selections rest below beside =>
    intro removal undirected
    simp only [allUndirected, Bool.and_eq_true, isUndirected_iff] at undirected
    obtain ⟨⟨unordered, undirectedBelow⟩, undirectedBeside⟩ := undirected
    cases removed : removal.removes (Selection.key ⟨name, key?, arguments, selections⟩) with
    | true =>
      rw [allWithout_cons_of_removed removed]
      exact beside removal undirectedBeside
    | false =>
      rw [allWithout_cons_of_kept removed, allUndirected, Bool.and_eq_true, isUndirected_iff,
        arguments_without, selections_without]
      exact ⟨⟨unordered, below _ undirectedBelow⟩, beside removal undirectedBeside⟩

end

end Selection

/-- What a removal leaves of a request. -/
def Request.without (removal : Removal) (request : Request) : Request :=
  { request with fields := Selection.allWithout removal request.fields }

/-- Whether a request has no directives anywhere. -/
def Request.Undirected (request : Request) : Prop :=
  Selection.allUndirected request.fields = true
deriving Decidable

end EntityGraph
