import EntityGraph.Proofs.Plan.ReadExpressions
import EntityGraph.Proofs.Plan.Scoping

/-!
# Plans are read back from their queries

No two plans have the same query with the same parameters. Every part of a plan ends where its
text says so, whatever follows: a list with its bracket, a comparison with its parenthesis. Joins
are the exception. They are written one after the other, nested ones behind the join that they
are nested under, and only the alias that a join starts from says where it belongs. So the
aliases of the levels of a selection have to differ.
-/

namespace EntityGraph

open EntityGraph.Symbol

/-! ## Aliases of levels -/

mutual

/-- The aliases that a join and the joins nested under it lead to. -/
def Join.targets : Join → List Alias
  | ⟨_, target, _, _, _, joins⟩ => target :: Join.allTargets joins

/-- The aliases that joins and the joins nested under them lead to. -/
def Join.allTargets : List Join → List Alias
  | [] => []
  | join :: rest => join.targets ++ Join.allTargets rest

end

mutual

/-- Whether in each selection inside an expression the aliases of the levels differ. -/
def Expr.LevelsDiffer : Expr → Prop
  | .and left right | .equals left right => left.LevelsDiffer ∧ right.LevelsDiffer
  | .isIn left items => left.LevelsDiffer ∧ Expr.AllLevelsDiffer items
  | .inSelect left select => left.LevelsDiffer ∧ select.LevelsDiffer
  | .column .. | .table _ | .value _ => True

/-- Whether in each selection inside expressions the aliases of the levels differ. -/
def Expr.AllLevelsDiffer : List Expr → Prop
  | [] => True
  | item :: rest => item.LevelsDiffer ∧ Expr.AllLevelsDiffer rest

/-- Whether in each selection inside an expression, if there is one, the aliases of the levels
differ. -/
def Expr.LevelsDifferIfAny : Option Expr → Prop
  | none => True
  | some condition => condition.LevelsDiffer

/-- Whether in each selection inside a join the aliases of the levels differ. -/
def Join.LevelsDiffer : Join → Prop
  | ⟨_, _, _, _, on?, joins⟩ => Expr.LevelsDifferIfAny on? ∧ Join.AllLevelsDiffer joins

/-- Whether in each selection inside joins the aliases of the levels differ. -/
def Join.AllLevelsDiffer : List Join → Prop
  | [] => True
  | join :: rest => join.LevelsDiffer ∧ Join.AllLevelsDiffer rest

/-- Whether in each selection inside the key of an ordering the aliases of the levels differ. -/
def OrderTerm.LevelsDiffer : OrderTerm → Prop
  | ⟨key, _⟩ => key.LevelsDiffer

/-- Whether in each selection inside the keys of an ordering the aliases of the levels differ. -/
def OrderTerm.AllLevelsDiffer : List OrderTerm → Prop
  | [] => True
  | term :: rest => term.LevelsDiffer ∧ OrderTerm.AllLevelsDiffer rest

/-- Whether the aliases of the root and of all joins differ, in a selection and in each selection
inside it. -/
def Select.LevelsDiffer : Select → Prop
  | ⟨_, _, _, root, joins, filter, orderBy⟩ =>
    (root :: Join.allTargets joins).Nodup ∧ Join.AllLevelsDiffer joins ∧ filter.LevelsDiffer ∧
      OrderTerm.AllLevelsDiffer orderBy

end

/-! ## Joins -/

namespace Join

/-- What stands behind joins from some aliases: what stands behind an expression, but neither a
condition nor one more join from one of the aliases. -/
structure Ended (sources : List Alias) (rest : List Symbol) : Prop where
  closes : Closes rest
  condition : Without " ON " rest
  join : ∀ source ∈ sources, ∀ type kind more, rest ≠ opening type kind source ++ more

theorem opening_append (type : JoinType) (kind : JoinKind) (source : Alias)
    (rest : List Symbol) :
    opening type kind source ++ rest =
      ofToken type.token ++ (ofTokens kind.tokens ++ .quoted source.text :: rest) := by
  simp [opening, ofToken, Alias.token]

/-- The opening of a join says its type, its kind and where it starts from. -/
theorem eq_of_opening_append_eq {type type' : JoinType} {kind kind' : JoinKind}
    {source source' : Alias} {rest further : List Symbol}
    (same : opening type kind source ++ rest = opening type' kind' source' ++ further) :
    type = type' ∧ kind = kind' ∧ source = source' ∧ rest = further := by
  rw [opening_append, opening_append] at same
  have types : type = type' := by
    cases type <;> cases type' <;>
      first | rfl | exact absurd same (text_append_ne (by decide))
  subst types
  have marked := List.append_cancel_left same
  have kinds : kind = kind' := by
    cases kind <;> cases kind' <;> first | rfl | cases marked
  subst kinds
  obtain ⟨names, rests⟩ := List.cons.inj (List.append_cancel_left marked)
  exact ⟨rfl, rfl, Alias.text_injective (Symbol.quoted.inj names), rests⟩

/-- A join is not taken for a condition. -/
theorem without_opening_append (type : JoinType) (kind : JoinKind) (source : Alias)
    (rest : List Symbol) : Without " ON " (opening type kind source ++ rest) := by
  rw [opening_append]
  cases type <;> exact without_text_append _ (by decide)

theorem closes_opening_append (type : JoinType) (kind : JoinKind) (source : Alias)
    (rest : List Symbol) : Closes (opening type kind source ++ rest) := by
  rw [opening_append]
  cases type <;> exact closes_text_append (by decide) _

theorem Ended.of_subset {sources others : List Alias} {rest : List Symbol}
    (ends : Ended sources rest) (subset : others ⊆ sources) : Ended others rest :=
  ⟨ends.closes, ends.condition, fun source member => ends.join source (subset member)⟩

/-- What closes a list ends joins. -/
theorem ends_of_closesList {rest : List Symbol} (ends : ClosesList rest) (sources : List Alias) :
    Ended sources rest := by
  refine ⟨ends.closes, ends.without (by decide), ?_⟩
  intro source _ type kind more
  rw [opening_append]
  cases type <;> exact ends.without (by decide) _

/-- A clause whose keyword opens neither a condition nor a join ends joins. -/
theorem ends_clause_append {keyword : String} (blank : keyword.toList.head? = some ' ')
    (apart : ∀ other ∈ [" ON ", " INNER JOIN ", " LEFT OUTER JOIN ", " RIGHT OUTER JOIN "],
      ¬ keyword.toList <+: other.toList ∧ ¬ other.toList <+: keyword.toList)
    (body? : Option (List Symbol)) {sources : List Alias} {rest : List Symbol}
    (ends : Ended sources rest) : Ended sources (clause keyword body? ++ rest) := by
  cases body? with
  | none => exact ends
  | some body =>
    rw [clause, List.append_assoc]
    refine ⟨closes_text_append blank _, without_text_append _ (apart _ (by simp)), ?_⟩
    intro source _ type kind more
    rw [opening_append]
    cases type <;> exact text_append_ne (apart _ (by simp))

/-- Behind joins nested under a join come joins beside it, which start from another alias, or what
comes behind all of them. -/
theorem Ended.beside {sources : List Alias} {source : Alias} (others : List Join)
    {rest : List Symbol} (apart : source ∉ sources) (ends : Ended sources rest) :
    Ended sources (listSymbols source others ++ rest) := by
  cases others with
  | nil => exact ends
  | cons join others =>
    obtain ⟨attr, target, kind, type, on?, joins⟩ := join
    rw [listSymbols_cons_append]
    refine ⟨closes_opening_append .., without_opening_append _ _ _ _, ?_⟩
    intro other member otherType otherKind more same
    obtain ⟨_, _, rfl, _⟩ := eq_of_opening_append_eq same
    exact apart member

/-- Behind the condition of a join come nested joins, or what comes behind them. -/
theorem closes_and_without_listSymbols_append (source : Alias) (joins : List Join)
    {rest : List Symbol} (closes : Closes rest) (without : Without " ON " rest) :
    Closes (listSymbols source joins ++ rest) ∧
      Without " ON " (listSymbols source joins ++ rest) := by
  cases joins with
  | nil => exact ⟨closes, without⟩
  | cons join others =>
    obtain ⟨attr, target, kind, type, on?, joins⟩ := join
    rw [listSymbols_cons_append]
    exact ⟨closes_opening_append .., without_opening_append _ _ _ _⟩

/-- Where there are no joins, none are read. -/
theorem readable_nil (source : Alias) :
    Readable (Ended (source :: allTargets [])) (listSymbols source) [] := by
  intro other rest further ends _ same
  cases other with
  | nil => exact ⟨rfl, same⟩
  | cons join others =>
    obtain ⟨attr, target, kind, type, on?, joins⟩ := join
    rw [listSymbols_cons_append] at same
    exact absurd same (ends.join source List.mem_cons_self _ _ _)

theorem allTargets_cons (attr : String) (target : Alias) (kind : JoinKind) (type : JoinType)
    (on? : Option Expr) (joins others : List Join) :
    allTargets (⟨attr, target, kind, type, on?, joins⟩ :: others) =
      target :: allTargets joins ++ allTargets others := by
  rw [allTargets, targets]

/-- If the levels under a source differ from it and from one another, so do those under each of its
joins. -/
theorem nodup_of_nodup_cons {source target : Alias} {nested beside : List Alias}
    (distinct : (source :: (target :: nested ++ beside)).Nodup) :
    source ∉ target :: nested ∧ (target :: nested).Nodup ∧ (source :: beside).Nodup := by
  obtain ⟨apart, distinct⟩ := List.nodup_cons.1 distinct
  obtain ⟨nestedDistinct, besideDistinct, _⟩ := List.nodup_append.1 distinct
  exact ⟨fun member => apart (List.mem_append_left _ member), nestedDistinct,
    List.nodup_cons.2 ⟨fun member => apart (List.mem_append_right _ member), besideDistinct⟩⟩

/-- A join is read back with all joins beside it, if its condition, the joins nested under it and
the joins beside it are. Joins nested under it are told from those beside it by the alias that they
start from. -/
theorem readable_cons {source target : Alias} {attr : String} {kind : JoinKind} {type : JoinType}
    {on? : Option Expr} {joins others : List Join}
    (apart : source ∉ target :: allTargets joins)
    (condition : ∀ on ∈ on?, Readable Closes Expr.symbols on)
    (nested : Readable (Ended (target :: allTargets joins)) (listSymbols target) joins)
    (beside : Readable (Ended (source :: allTargets others)) (listSymbols source) others) :
    Readable (Ended (source :: allTargets (⟨attr, target, kind, type, on?, joins⟩ :: others)))
      (listSymbols source) (⟨attr, target, kind, type, on?, joins⟩ :: others) := by
  rw [allTargets_cons]
  have below {rest : List Symbol}
      (ends : Ended (source :: (target :: allTargets joins ++ allTargets others)) rest) :
      Ended (target :: allTargets joins) rest :=
    ends.of_subset fun _ member => List.mem_cons_of_mem _ (List.mem_append_left _ member)
  have after {rest : List Symbol}
      (ends : Ended (source :: (target :: allTargets joins ++ allTargets others)) rest) :
      Ended (source :: allTargets others) rest :=
    ends.of_subset (List.cons_subset_cons _ (List.subset_append_right _ _))
  intro other rest further ends endsToo same
  cases other with
  | nil =>
    rw [listSymbols_cons_append] at same
    exact absurd same.symm (endsToo.join source List.mem_cons_self _ _ _)
  | cons join others' =>
    obtain ⟨attr', target', kind', type', on?', joins'⟩ := join
    rw [listSymbols_cons_append, listSymbols_cons_append] at same
    obtain ⟨rfl, rfl, _, named⟩ := eq_of_opening_append_eq same
    obtain ⟨attrs, aliased⟩ := List.cons.inj (List.append_cancel_left named)
    obtain ⟨names, conditioned⟩ := List.cons.inj (List.append_cancel_left aliased)
    obtain rfl := Symbol.quoted.inj attrs
    obtain rfl := Alias.text_injective (Symbol.quoted.inj names)
    -- Which of the following joins are nested is only known from the alias that they start from.
    have endsBelow := (below ends).beside others apart
    have endsBelowToo := (below endsToo).beside others' apart
    obtain ⟨rfl, joined⟩ := readable_clause Function.injective_id condition
      (closes_and_without_listSymbols_append target joins endsBelow.closes endsBelow.condition)
      (closes_and_without_listSymbols_append target joins' endsBelowToo.closes
        endsBelowToo.condition) conditioned
    obtain ⟨rfl, remaining⟩ := nested endsBelow endsBelowToo joined
    obtain ⟨rfl, rests⟩ := beside (after ends) (after endsToo) remaining
    exact ⟨rfl, rests⟩

end Join

/-! ## Orderings -/

namespace OrderTerm

theorem readable_mk {key : Expr} (keyReadable : Readable Closes Expr.symbols key)
    (direction : Direction) : Readable Closes symbols ⟨key, direction⟩ := by
  have closes (direction : Direction) (rest : List Symbol) :
      Closes (ofToken direction.token ++ rest) := by
    cases direction <;> exact closes_text_append (by decide) rest
  intro other rest further _ _ same
  obtain ⟨key', direction'⟩ := other
  rw [symbols_append, symbols_append] at same
  obtain ⟨rfl, remaining⟩ := keyReadable (closes direction rest) (closes direction' further) same
  have directions : direction = direction' := by
    cases direction <;> cases direction' <;>
      first | rfl | exact absurd remaining (text_append_ne (by decide))
  subst directions
  exact ⟨rfl, List.append_cancel_left remaining⟩

end OrderTerm

/-! ## Selections -/

namespace Select

/-- Only the filter that always holds is left out. -/
theorem condition?_injective : Function.Injective condition? := by
  intro filter other same
  unfold condition? at same
  split at same
  · next always =>
    split at same
    · next alwaysToo =>
      rw [Expr.eq_true_of_isTrue always, Expr.eq_true_of_isTrue alwaysToo]
    · cases same
  · split at same
    · cases same
    · exact Option.some.inj same

/-- Only the empty ordering is left out. -/
theorem terms?_injective : Function.Injective terms? := by
  intro terms others same
  cases terms <;> cases others <;> cases same <;> rfl

theorem readable_filter {filter : Expr} (filterReadable : Readable Closes Expr.symbols filter) :
    Readable (fun rest => Closes rest ∧ Without " WHERE " rest) filterSymbols filter := by
  refine readable_clause condition?_injective fun condition present => ?_
  unfold condition? at present
  split at present
  · cases present
  · cases present
    exact filterReadable

theorem readable_ordering {terms : List OrderTerm}
    (termsReadable : ∀ term ∈ terms, Readable Closes OrderTerm.symbols term) :
    Readable (fun rest => ClosesList rest ∧ Without " ORDER BY " rest) orderSymbols terms := by
  have opens (term : OrderTerm) :
      ∃ first others, term.symbols = first :: others ∧ first.Opens := by
    obtain ⟨key, direction⟩ := term
    obtain ⟨first, others, begins, opens⟩ := key.exists_opens
    rw [← List.append_nil (OrderTerm.symbols _), OrderTerm.symbols_append, begins]
    exact ⟨_, _, rfl, opens⟩
  refine readable_clause terms?_injective fun listedTerms present => ?_
  cases terms with
  | nil => cases present
  | cons term others =>
    cases present
    exact readable_listed opens termsReadable

/-- Behind the filter come an ordering or what closes the selection. -/
theorem closes_and_without_orderSymbols_append (terms : List OrderTerm) {rest : List Symbol}
    (ends : ClosesList rest) :
    Closes (orderSymbols terms ++ rest) ∧ Without " WHERE " (orderSymbols terms ++ rest) := by
  cases terms with
  | nil => exact ⟨ends.closes, ends.without (by decide)⟩
  | cons term others =>
    have written : orderSymbols (term :: others) ++ rest =
        text " ORDER BY " ++ (listed ((term :: others).map OrderTerm.symbols) ++ rest) :=
      List.append_assoc ..
    rw [written]
    exact ⟨closes_text_append (by decide) _, without_text_append _ (by decide)⟩

/-- Neither a filter nor an ordering is taken for a join. -/
theorem ends_filterSymbols_append (filter : Expr) (terms : List OrderTerm) {rest : List Symbol}
    (ends : ClosesList rest) (sources : List Alias) :
    Join.Ended sources (filterSymbols filter ++ (orderSymbols terms ++ rest)) := by
  have ordered : Join.Ended sources (orderSymbols terms ++ rest) :=
    Join.ends_clause_append (by decide) (by decide) _ (Join.ends_of_closesList ends sources)
  exact Join.ends_clause_append (by decide) (by decide) _ ordered

/-- A selection is read back if its joins, its filter and its ordering are. -/
theorem readable_mk {distinct : Bool} {projected : Alias} {entity : String} {root : Alias}
    {joins : List Join} {filter : Expr} {orderBy : List OrderTerm}
    (joinsReadable : Readable (Join.Ended (root :: Join.allTargets joins)) (Join.listSymbols root)
      joins)
    (filterReadable : Readable Closes Expr.symbols filter)
    (termsReadable : ∀ term ∈ orderBy, Readable Closes OrderTerm.symbols term) :
    Readable ClosesList symbols ⟨distinct, projected, entity, root, joins, filter, orderBy⟩ := by
  intro other rest further ends endsToo same
  obtain ⟨distinct', projected', entity', root', joins', filter', orderBy'⟩ := other
  rw [symbols_append, symbols_append] at same
  have marked := List.append_cancel_left same
  have distincts : distinct = distinct' := by
    cases distinct <;> cases distinct' <;> first | rfl | cases marked
  subst distincts
  obtain ⟨projections, fromEntity⟩ := List.cons.inj (List.append_cancel_left marked)
  obtain ⟨entities, asRoot⟩ := List.cons.inj (List.append_cancel_left fromEntity)
  obtain ⟨roots, joined⟩ := List.cons.inj (List.append_cancel_left asRoot)
  obtain rfl := Alias.text_injective (Symbol.quoted.inj projections)
  obtain rfl := Symbol.quoted.inj entities
  obtain rfl := Alias.text_injective (Symbol.quoted.inj roots)
  obtain ⟨rfl, filtered⟩ := joinsReadable (ends_filterSymbols_append filter orderBy ends _)
    (ends_filterSymbols_append filter' orderBy' endsToo _) joined
  obtain ⟨rfl, ordered⟩ := readable_filter filterReadable
    (closes_and_without_orderSymbols_append orderBy ends)
    (closes_and_without_orderSymbols_append orderBy' endsToo) filtered
  obtain ⟨rfl, rests⟩ := readable_ordering termsReadable ⟨ends, ends.without (by decide)⟩
    ⟨endsToo, endsToo.without (by decide)⟩ ordered
  exact ⟨rfl, rests⟩

end Select

/-! ## Plans -/

mutual

/-- An expression is read back if the aliases of levels differ in the selections inside it. -/
theorem Expr.readable : (expr : Expr) → expr.LevelsDiffer → Readable Closes Expr.symbols expr
  | .and left right, differ =>
    Expr.readable_and (left.readable differ.1) (right.readable differ.2)
  | .equals left right, differ =>
    Expr.readable_equals (left.readable differ.1) (right.readable differ.2)
  | .isIn left items, differ =>
    Expr.readable_isIn (left.readable differ.1) (Expr.allReadable items differ.2)
  | .inSelect left select, differ =>
    Expr.readable_inSelect (left.readable differ.1) (select.readable differ.2)
  | .column name attr, _ => Expr.readable_column name attr
  | .table name, _ => Expr.readable_table name
  | .value literal, _ => Expr.readable_value literal

/-- Each of several expressions is read back. -/
theorem Expr.allReadable : (items : List Expr) → Expr.AllLevelsDiffer items →
    ∀ item ∈ items, Readable Closes Expr.symbols item
  | [], _ => by simp
  | item :: rest, differ =>
    List.forall_mem_cons.2 ⟨item.readable differ.1, Expr.allReadable rest differ.2⟩

/-- Joins are read back if the aliases of the levels that they make up differ, and so do those in
the selections inside their conditions. -/
theorem Join.allReadable : (joins : List Join) → Join.AllLevelsDiffer joins → ∀ source,
    (source :: Join.allTargets joins).Nodup →
      Readable (Join.Ended (source :: Join.allTargets joins)) (Join.listSymbols source) joins
  | [], _, source, _ => Join.readable_nil source
  | ⟨_, target, _, _, on?, joins⟩ :: others, differ, source, distinct => by
    rw [Join.allTargets_cons] at distinct
    obtain ⟨apart, nestedDistinct, besideDistinct⟩ := Join.nodup_of_nodup_cons distinct
    refine Join.readable_cons apart ?_ (Join.allReadable joins differ.1.2 target nestedDistinct)
      (Join.allReadable others differ.2 source besideDistinct)
    cases on? with
    | none => simp
    | some on => simpa using on.readable differ.1.1

/-- Each element of an ordering is read back. -/
theorem OrderTerm.allReadable : (terms : List OrderTerm) → OrderTerm.AllLevelsDiffer terms →
    ∀ term ∈ terms, Readable Closes OrderTerm.symbols term
  | [], _ => by simp
  | ⟨key, direction⟩ :: others, differ =>
    List.forall_mem_cons.2 ⟨OrderTerm.readable_mk (key.readable differ.1) direction,
      OrderTerm.allReadable others differ.2⟩

/-- A selection is read back if the aliases of its levels differ. -/
theorem Select.readable : (select : Select) → select.LevelsDiffer →
    Readable ClosesList Select.symbols select
  | ⟨_, _, _, root, joins, filter, orderBy⟩, differ =>
    Select.readable_mk (Join.allReadable joins differ.2.1 root differ.1)
      (filter.readable differ.2.2.1) (OrderTerm.allReadable orderBy differ.2.2.2)

end

/-- A plan in which the aliases of levels differ is the only one with its query: no other plan has
the same text with the same parameters. -/
theorem Select.eq_of_sql_eq {select other : Select} (differ : select.LevelsDiffer)
    (same : select.sql = other.sql) : select = other := by
  have written (select : Select) :
      select.sql = ⟨String.ofList (Symbol.chars 1 select.symbols),
        select.symbols.filterMap Symbol.value?⟩ := by
    rw [Select.sql, Select.symbols, chars_ofTokens, values_ofTokens]
  -- Whatever their aliases, plans are legible, so both have the same symbols.
  have legible (select : Select) : Legible (select.symbols ++ []) := select.leads trivial trivial
  simp only [List.append_nil] at legible
  rw [written, written, Sql.mk.injEq] at same
  have sameSymbols := eq_of_chars_eq (legible select) (legible other)
    (String.ofList_injective same.1) same.2
  have ends : ClosesList [] := trivial
  exact (select.readable differ ends ends (congrArg (· ++ []) sameSymbols)).1

/-- A plan whose names and texts look like other parts of queries. -/
def Select.awkward : Select :=
  let root : Alias := ⟨0, "a\"_1"⟩
  let first : Alias := ⟨1, "a\""⟩
  let nested : Alias := ⟨11, "a\""⟩
  let inner : Alias := ⟨0, "a\"_1"⟩
  { Select.everything "x\" AS \"y" root with
    distinct := true
    joins := [{ Join.plain "$1" first .left with
      kind := .fetch
      on? := some (.equals (.table first) (.value (.string "\" AND true")))
      joins := [.plain " ON " nested .inner] }]
    filter := .conjunction [Expr.true,
      .inSelect (.column nested "$2") (.everything "SELECT " inner),
      .inValues (.column root "AS") [.int (-1), .array [.null, .string "$1"]]]
    orderBy := [⟨.column root "\"", .descending⟩] }

theorem Select.awkward_eq_of_sql_eq :
    let root : Alias := ⟨0, "a\"_1"⟩
    let other : Select :=
      ⟨true, root, "x\" AS \"y", root,
        [⟨"$1", ⟨1, "a\""⟩, .fetch, .left,
          some (.equals (.table ⟨1, "a\""⟩) (.value (.string "\" AND true"))),
          [⟨" ON ", ⟨11, "a\""⟩, .join, .inner, none, []⟩]⟩],
        .and
          (.inSelect (.column ⟨11, "a\""⟩ "$2")
            ⟨false, root, "SELECT ", root, [], .value (.bool true), []⟩)
          (.isIn (.column root "AS") [.value (.int (-1)), .value (.array [.null, .string "$1"])]),
        [⟨.column root "\"", .descending⟩]⟩
    Select.awkward.LevelsDiffer ∧ Select.awkward.sql = other.sql ∧ Select.awkward = other := by
  intro root other
  have differ : Select.awkward.LevelsDiffer := by
    change other.LevelsDiffer
    simp [other, root, Select.LevelsDiffer, Expr.LevelsDiffer, Expr.AllLevelsDiffer,
      Expr.LevelsDifferIfAny, Join.AllLevelsDiffer, Join.LevelsDiffer,
      OrderTerm.AllLevelsDiffer, OrderTerm.LevelsDiffer, Join.allTargets, Join.targets]
  have same : Select.awkward.sql = other.sql := rfl
  exact ⟨differ, same, Select.eq_of_sql_eq differ same⟩

/-- Quotes inside a name are doubled, and nothing else in it needs to be. -/
example : (Select.everything "x\" AS \"y" ⟨0, "a$1"⟩).sql.text =
    "SELECT \"a$1_0\" FROM \"x\"\" AS \"\"y\" AS \"a$1_0\"" := by
  decide

end EntityGraph
