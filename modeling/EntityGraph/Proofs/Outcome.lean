import Mathlib.Data.List.Forall2

/-!
# Outcomes of computations that may fail

A computation in `Except` that is made of steps has a value exactly if every step has one,
and otherwise fails as its first failing step does. The lemmas here take such computations
apart, so that no later proof unfolds `bind` or `mapM`.
-/

namespace EntityGraph

universe u v w

/-- A computation that does not fail has the value that is read off it. -/
theorem eq_ok_of_isOk {ε α : Type} {outcome : Except ε α} (done : outcome.isOk = true)
    {default : α} : outcome = .ok (outcome.toOption.getD default) := by
  cases outcome with
  | ok value => rfl
  | error error => cases done

/-- A computation without a value fails. -/
theorem exists_error_of_isOk {ε α : Type} {outcome : Except ε α} (failed : outcome.isOk = false) :
    ∃ error, outcome = .error error := by
  cases outcome with
  | ok value => cases failed
  | error error => exact ⟨error, rfl⟩

/-- Two steps have a value exactly if the first has one and the second has one after it. -/
theorem bind_eq_ok_iff {ε : Type u} {α β : Type v} {first : Except ε α}
    {next : α → Except ε β} {result : β} :
    first >>= next = .ok result ↔ ∃ value, first = .ok value ∧ next value = .ok result := by
  cases first <;> simp [bind, Except.bind]

/-- Two steps fail as the first one does, or as the second one does after it. -/
theorem bind_eq_error_iff {ε : Type u} {α β : Type v} {first : Except ε α}
    {next : α → Except ε β} {error : ε} :
    first >>= next = .error error ↔
      first = .error error ∨ ∃ value, first = .ok value ∧ next value = .error error := by
  cases first <;> simp [bind, Except.bind]

/-- Changing the value of a computation leaves its failures alone. -/
theorem map_eq_ok_iff {ε : Type u} {α β : Type v} {first : Except ε α} {change : α → β}
    {result : β} :
    change <$> first = .ok result ↔ ∃ value, first = .ok value ∧ change value = result := by
  cases first <;> simp [Functor.map, Except.map]

/-- Giving failures another form leaves the value of a computation alone. -/
theorem mapError_eq_ok_iff {ε φ : Type u} {α : Type v} {outcome : Except ε α} {change : ε → φ}
    {result : α} : outcome.mapError change = .ok result ↔ outcome = .ok result := by
  cases outcome <;> simp [Except.mapError]

/-- A list of steps has values exactly if every step has the value at its place. -/
theorem mapM_eq_ok_iff {ε : Type u} {α : Type w} {β : Type v} {step : α → Except ε β}
    {items : List α} {results : List β} :
    items.mapM step = .ok results ↔
      List.Forall₂ (fun item result => step item = .ok result) items results := by
  induction items generalizing results with
  | nil => cases results <;> simp [pure, Except.pure]
  | cons item rest inductionHypothesis =>
    simp only [List.mapM_cons, bind_eq_ok_iff, inductionHypothesis, List.forall₂_cons_left_iff]
    constructor
    · rintro ⟨value, first, values, others, same⟩
      cases same
      exact ⟨value, values, first, others, rfl⟩
    · rintro ⟨value, values, first, others, rfl⟩
      exact ⟨value, first, values, others, rfl⟩

/-- Each value of a list of steps is the value of one of them. -/
theorem exists_of_mem_mapM {ε : Type u} {α : Type w} {β : Type v} {step : α → Except ε β}
    {items : List α} {results : List β} (done : items.mapM step = .ok results) {result : β}
    (member : result ∈ results) : ∃ item ∈ items, step item = .ok result := by
  rw [mapM_eq_ok_iff] at done
  induction done with
  | nil => cases member
  | cons first _ inductionHypothesis =>
    rcases List.mem_cons.1 member with rfl | member
    · exact ⟨_, List.mem_cons_self, first⟩
    · obtain ⟨item, present, same⟩ := inductionHypothesis member
      exact ⟨item, List.mem_cons_of_mem _ present, same⟩

/-- Each of a list of steps has one of the values. -/
theorem exists_of_mem_of_mapM {ε : Type u} {α : Type w} {β : Type v} {step : α → Except ε β}
    {items : List α} {results : List β} (done : items.mapM step = .ok results) {item : α}
    (member : item ∈ items) : ∃ result ∈ results, step item = .ok result := by
  rw [mapM_eq_ok_iff] at done
  induction done with
  | nil => cases member
  | cons first _ inductionHypothesis =>
    rcases List.mem_cons.1 member with rfl | member
    · exact ⟨_, List.mem_cons_self, first⟩
    · obtain ⟨result, present, same⟩ := inductionHypothesis member
      exact ⟨result, List.mem_cons_of_mem _ present, same⟩

/-- Steps whose values are known in advance have those values. -/
theorem eq_map_of_mapM {ε : Type u} {α : Type w} {β : Type v} {step : α → Except ε β}
    {value : α → β} {items : List α} {results : List β}
    (known : ∀ item result, step item = .ok result → value item = result)
    (done : items.mapM step = .ok results) : results = items.map value := by
  rw [mapM_eq_ok_iff] at done
  induction done with
  | nil => rfl
  | cons first _ inductionHypothesis =>
    rw [List.map_cons, known _ _ first, inductionHypothesis]

/-- Steps with known values have these values together. -/
theorem mapM_eq_ok_map {ε : Type u} {α : Type w} {β : Type v} {step : α → Except ε β}
    {value : α → β} {items : List α} (each : ∀ item ∈ items, step item = .ok (value item)) :
    items.mapM step = .ok (items.map value) := by
  rw [mapM_eq_ok_iff, List.forall₂_map_right_iff, List.forall₂_same]
  exact each

/-- A list of steps fails only if one of them does. -/
theorem exists_of_mapM_eq_error {ε : Type u} {α : Type w} {β : Type v}
    {step : α → Except ε β} {items : List α} {error : ε}
    (failed : items.mapM step = .error error) : ∃ item ∈ items, step item = .error error := by
  induction items with
  | nil => simp [pure, Except.pure] at failed
  | cons item rest inductionHypothesis =>
    rw [List.mapM_cons, bind_eq_error_iff] at failed
    rcases failed with first | ⟨value, _, later⟩
    · exact ⟨item, List.mem_cons_self, first⟩
    · rcases bind_eq_error_iff.1 later with others | ⟨values, _, impossible⟩
      · obtain ⟨other, member, fails⟩ := inductionHypothesis others
        exact ⟨other, List.mem_cons_of_mem _ member, fails⟩
      · cases impossible

/-- What succeeds has no failure. -/
theorem eq_none_of_fails {ε : Type u} {α : Type v} {outcome : Except ε α} {failure? : Option ε}
    (fails : ∀ error, outcome = .error error ↔ failure? = some error) {value : α}
    (done : outcome = .ok value) : failure? = none := by
  rw [Option.eq_none_iff_forall_ne_some]
  intro error failed
  rw [← fails, done] at failed
  cases failed

/-- A list of steps fails as the first of them that fails. -/
theorem mapM_eq_error_iff {ε : Type u} {α : Type w} {β : Type v} {step : α → Except ε β}
    {failure? : α → Option ε}
    (fails : ∀ item error, step item = .error error ↔ failure? item = some error)
    {items : List α} {error : ε} :
    items.mapM step = .error error ↔ items.findSome? failure? = some error := by
  induction items with
  | nil => simp [pure, Except.pure]
  | cons item rest inductionHypothesis =>
    rw [List.mapM_cons, bind_eq_error_iff, List.findSome?_cons]
    cases outcome : step item with
    | error other =>
      rw [(fails item other).1 outcome]
      simp
    | ok value =>
      rw [eq_none_of_fails (fails item) outcome, ← inductionHypothesis]
      simp [bind_eq_error_iff, pure, Except.pure]

/-- A list of steps that all have values has values. -/
theorem exists_mapM_eq_ok {ε : Type u} {α : Type w} {β : Type v} {step : α → Except ε β}
    {items : List α} (each : ∀ item ∈ items, ∃ value, step item = .ok value) :
    ∃ values, items.mapM step = .ok values := by
  cases outcome : items.mapM step with
  | ok values => exact ⟨values, rfl⟩
  | error error =>
    obtain ⟨item, member, failed⟩ := exists_of_mapM_eq_error outcome
    obtain ⟨value, succeeded⟩ := each item member
    rw [failed] at succeeded
    cases succeeded

/-- A list of steps has values exactly if each of them has one. -/
theorem exists_mapM_eq_ok_iff {ε : Type u} {α : Type w} {β : Type v} {step : α → Except ε β}
    {items : List α} :
    (∃ values, items.mapM step = .ok values) ↔
      ∀ item ∈ items, ∃ value, step item = .ok value := by
  refine ⟨fun ⟨values, done⟩ item member => ?_, exists_mapM_eq_ok⟩
  obtain ⟨value, _, found⟩ := exists_of_mem_of_mapM done member
  exact ⟨value, found⟩

/-- Leaving out steps leaves out their values. -/
theorem mapM_filter_eq_ok {ε : Type u} {α : Type w} {β : Type v} {step : α → Except ε β}
    {items : List α} {results : List β} (keep : α → Bool) (keepResult : β → Bool)
    (agree : ∀ item ∈ items, ∀ result, step item = .ok result → keepResult result = keep item)
    (all : items.mapM step = .ok results) :
    (items.filter keep).mapM step = .ok (results.filter keepResult) := by
  rw [mapM_eq_ok_iff] at all ⊢
  induction all with
  | nil => exact .nil
  | @cons item result rest results first _ inductionHypothesis =>
    have same := agree item List.mem_cons_self result first
    have others := inductionHypothesis fun other member =>
      agree other (List.mem_cons_of_mem _ member)
    cases kept : keep item with
    | true =>
      rw [List.filter_cons_of_pos kept, List.filter_cons_of_pos (same.trans kept)]
      exact .cons first others
    | false =>
      rw [List.filter_cons_of_neg (by simp [kept]),
        List.filter_cons_of_neg (by simp [same, kept])]
      exact others

/-- Whether a computation ends with a value of some property or fails in an allowed way. -/
def Ends {ε : Type u} {α : Type v} (allowed : ε → Prop) (property : α → Prop) :
    Except ε α → Prop
  | .ok value => property value
  | .error error => allowed error

namespace Ends

variable {ε : Type u} {α β : Type v} {allowed : ε → Prop} {property : α → Prop}
  {other : β → Prop}

/-- Less can be said of the value. -/
theorem mono {weaker : α → Prop} {outcome : Except ε α} (ends : Ends allowed property outcome)
    (follows : ∀ value, property value → weaker value) : Ends allowed weaker outcome := by
  cases outcome with
  | ok value => exact follows value ends
  | error error => exact ends

/-- A computation ends with the value that it has. -/
theorem remember {outcome : Except ε α} (ends : Ends allowed property outcome) :
    Ends allowed (fun value => property value ∧ outcome = .ok value) outcome := by
  cases outcome with
  | ok value => exact ⟨ends, rfl⟩
  | error error => exact ends

/-- More failures can be allowed. -/
theorem weaken {more : ε → Prop} {outcome : Except ε α} (ends : Ends allowed property outcome)
    (allows : ∀ error, allowed error → more error) : Ends more property outcome := by
  cases outcome with
  | ok value => exact ends
  | error error => exact allows error ends

/-- Two steps end well if the second does after whatever the first may end with. -/
theorem bind {first : Except ε α} {next : α → Except ε β} (ends : Ends allowed property first)
    (after : ∀ value, property value → Ends allowed other (next value)) :
    Ends allowed other (first >>= next) := by
  cases first with
  | ok value => exact after value ends
  | error error => exact ends

/-- A list of steps ends well if each of them does. -/
theorem mapM {γ : Type w} {step : γ → Except ε α} {items : List γ}
    (each : ∀ item ∈ items, Ends allowed property (step item)) :
    Ends allowed (fun results : List α => ∀ result ∈ results, property result)
      (items.mapM step) := by
  induction items with
  | nil => exact fun _ impossible => by cases impossible
  | cons item rest inductionHypothesis =>
    rw [List.forall_mem_cons] at each
    rw [List.mapM_cons]
    refine each.1.bind fun value first => ?_
    refine (inductionHypothesis each.2).bind fun values others => ?_
    exact List.forall_mem_cons.2 ⟨first, others⟩

/-- Failures that are given another form stay allowed in that form. -/
theorem mapError {φ : Type u} {changed : φ → Prop} {outcome : Except ε α} (change : ε → φ)
    (ends : Ends allowed property outcome)
    (stays : ∀ error, allowed error → changed (change error)) :
    Ends changed property (outcome.mapError change) := by
  cases outcome with
  | ok value => exact ends
  | error error => exact stays error ends

end Ends

/-- Whether a computation has a value whenever the one before it has, of some relation to it. -/
def Follows {ε : Type u} {α β : Type v} (related : α → β → Prop)
    (first : Except ε α) (other : Except ε β) : Prop :=
  ∀ value, first = .ok value → ∃ same, other = .ok same ∧ related value same

namespace Follows

variable {ε : Type u} {α β γ δ : Type v} {related : α → β → Prop}

/-- What has the same value follows. -/
theorem refl (outcome : Except ε α) : Follows Eq outcome outcome :=
  fun value done => ⟨value, done, rfl⟩

/-- Two values that are related follow each other. -/
theorem ok {value : α} {same : β} (alike : related value same) :
    Follows related (.ok value : Except ε α) (.ok same) := by
  rintro _ ⟨⟩
  exact ⟨same, rfl, alike⟩

/-- After a failure anything follows. -/
theorem error (failure : ε) (other : Except ε β) :
    Follows related (.error failure) other := by
  rintro _ ⟨⟩

/-- Two steps follow two steps if the second ones do after related values. -/
theorem bind {after : γ → δ → Prop} {first : Except ε α} {other : Except ε β}
    {next : α → Except ε γ} {otherNext : β → Except ε δ} (follows : Follows related first other)
    (further : ∀ value same, related value same → Follows after (next value) (otherNext same)) :
    Follows after (first >>= next) (other >>= otherNext) := by
  intro result done
  obtain ⟨value, found, done⟩ := bind_eq_ok_iff.1 done
  obtain ⟨same, foundToo, alike⟩ := follows value found
  obtain ⟨sameResult, doneToo, resultsAlike⟩ := further value same alike result done
  exact ⟨sameResult, bind_eq_ok_iff.2 ⟨same, foundToo, doneToo⟩, resultsAlike⟩

/-- After the same first step it is enough that the second ones follow. -/
theorem after {after : γ → δ → Prop} {first : Except ε α} {next : α → Except ε γ}
    {otherNext : α → Except ε δ}
    (further : ∀ value, first = .ok value → Follows after (next value) (otherNext value)) :
    Follows after (first >>= next) (first >>= otherNext) := by
  cases first with
  | ok value => exact further value rfl
  | error failure => exact error _ _

/-- After steps with the same value it is enough that the second ones follow. -/
theorem andThen {after : γ → δ → Prop} {first other : Except ε α} {next : α → Except ε γ}
    {otherNext : α → Except ε δ} (follows : Follows Eq first other)
    (further : ∀ value, Follows after (next value) (otherNext value)) :
    Follows after (first >>= next) (other >>= otherNext) := by
  refine follows.bind fun value _ same => ?_
  rw [← same]
  exact further value

/-- A list of steps has values that are related to those of another one if each of its steps
has. -/
theorem mapM_forall₂ {ι κ : Type w} {step : ι → Except ε α} {otherStep : κ → Except ε β}
    {items : List ι} {others : List κ}
    (each : List.Forall₂ (fun item other => Follows related (step item) (otherStep other))
      items others) :
    Follows (List.Forall₂ related) (items.mapM step) (others.mapM otherStep) := by
  induction each with
  | nil => exact ok .nil
  | cons first _ inductionHypothesis =>
    rw [List.mapM_cons, List.mapM_cons]
    refine first.bind fun value same alike => ?_
    exact inductionHypothesis.bind fun values others allAlike => ok (.cons alike allAlike)

/-- A list of steps has the values of another one if each of its steps has. -/
theorem mapM {ι κ : Type w} {step : ι → Except ε α} {otherStep : κ → Except ε α}
    {items : List ι} {others : List κ}
    (each : List.Forall₂ (fun item other => Follows Eq (step item) (otherStep other))
      items others) :
    Follows Eq (items.mapM step) (others.mapM otherStep) := by
  have follows := mapM_forall₂ each
  rwa [List.forall₂_eq_eq_eq] at follows

end Follows

end EntityGraph
