import EntityGraph.Request.Basic

/-!
# Keys of a request

Selections beside each other are reported in one object, each under its key. A key that is given
twice shows only one of them, so most of what can be said about places in a response is about
requests whose keys differ on every level.
-/

namespace EntityGraph

mutual

/-- Whether no two selections of one level have one key, at any level below a selection. -/
def Selection.DistinctKeys : Selection → Prop
  | ⟨_, _, _, selections⟩ => Selection.AllDistinctKeys selections

/-- Whether no two of several selections have one key, and no two of one level below them. -/
def Selection.AllDistinctKeys : List Selection → Prop
  | [] => True
  | child :: rest =>
    child.key ∉ rest.map Selection.key ∧ Selection.DistinctKeys child ∧
      Selection.AllDistinctKeys rest

end

mutual

/-- The keys below a selection are compared level by level. -/
instance Selection.decidableDistinctKeys : (selection : Selection) →
    Decidable selection.DistinctKeys
  | ⟨_, _, _, selections⟩ => Selection.decidableAllDistinctKeys selections

/-- The keys of several selections are compared one after the other. -/
instance Selection.decidableAllDistinctKeys : (selections : List Selection) →
    Decidable (Selection.AllDistinctKeys selections)
  | [] => isTrue trivial
  | child :: rest =>
    have := Selection.decidableDistinctKeys child
    have := Selection.decidableAllDistinctKeys rest
    decidable_of_iff
      (child.key ∉ rest.map Selection.key ∧ child.DistinctKeys ∧ Selection.AllDistinctKeys rest)
      (by rw [Selection.AllDistinctKeys])

end

/-- Whether no two selections of one level of a request are reported under one key. -/
def Request.DistinctKeys (request : Request) : Prop :=
  Selection.AllDistinctKeys request.fields
deriving Decidable

namespace Selection.AllDistinctKeys

variable {selections : List Selection}

/-- Selections with distinct keys are reported under different keys. -/
theorem nodup (distinct : AllDistinctKeys selections) : (selections.map key).Nodup := by
  induction selections with
  | nil => exact .nil
  | cons child rest inductionHypothesis =>
    rw [AllDistinctKeys] at distinct
    exact List.nodup_cons.2 ⟨distinct.1, inductionHypothesis distinct.2.2⟩

/-- What is selected below one of several selections with distinct keys has distinct keys. -/
theorem of_mem (distinct : AllDistinctKeys selections) {child : Selection}
    (member : child ∈ selections) : AllDistinctKeys child.selections := by
  induction selections with
  | nil => cases member
  | cons first rest inductionHypothesis =>
    rw [AllDistinctKeys] at distinct
    rcases List.mem_cons.1 member with rfl | member
    · obtain ⟨_, below, _⟩ := distinct
      obtain ⟨name, key?, arguments, selections⟩ := child
      rwa [DistinctKeys] at below
    · exact inductionHypothesis distinct.2.2 member

end Selection.AllDistinctKeys

end EntityGraph
