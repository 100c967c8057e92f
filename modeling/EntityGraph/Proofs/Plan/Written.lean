import EntityGraph.Proofs.Numerals
import EntityGraph.Proofs.Plan.Symbols
import Mathlib.Data.List.Basic
import Std.Data.String.ToInt

/-!
# The symbols of plans

What the parts of a plan are written as, each in front of what follows it. Whatever names and
values a plan has, it is written legibly: names stand between fixed text, and behind a value
comes a blank, a comma, a bracket or the end.
-/

namespace EntityGraph

open EntityGraph.Symbol

/-! ## Written parts -/

namespace Symbol

/-- Lists of symbols, each with a comma in front of it. -/
def afterCommas (parts : List (List Symbol)) : List Symbol :=
  parts.flatMap (text ", " ++ ·)

/-- Lists of symbols with commas between them. -/
def listed : List (List Symbol) → List Symbol
  | [] => []
  | first :: rest => first ++ afterCommas rest

theorem afterCommas_cons_append (first : List Symbol) (parts : List (List Symbol))
    (rest : List Symbol) :
    afterCommas (first :: parts) ++ rest = text ", " ++ (first ++ (afterCommas parts ++ rest)) := by
  simp [afterCommas]

/-- A clause: a keyword and what it introduces, if there is anything. -/
def clause (keyword : String) : Option (List Symbol) → List Symbol
  | none => []
  | some body => text keyword ++ body

/-- Lists of tokens separated by commas have their symbols with commas between them. -/
theorem ofTokens_separated {α : Type} (tokens : α → List Token) (items : List α) :
    ofTokens (separated (items.map tokens)) =
      listed (items.map fun item => ofTokens (tokens item)) := by
  induction items with
  | nil => rfl
  | cons first rest inductionHypothesis =>
    cases rest with
    | nil => simp [separated, listed, afterCommas]
    | cons second others =>
      have step : separated ((first :: second :: others).map tokens) =
          tokens first ++ .fixed ", " :: separated ((second :: others).map tokens) := rfl
      rw [step, ofTokens_append, ofTokens_cons, inductionHypothesis]
      simp [listed, afterCommas, ofToken]

end Symbol

/-- The symbols of a value. -/
def Value.symbols (value : Value) : List Symbol :=
  ofTokens value.tokens

/-- The symbols of an expression. -/
def Expr.symbols (expr : Expr) : List Symbol :=
  ofTokens expr.tokens

/-- The symbols of an element of an ordering. -/
def OrderTerm.symbols (term : OrderTerm) : List Symbol :=
  ofTokens term.tokens

/-- The symbols of joins from the alias `source`. -/
def Join.listSymbols (source : Alias) (joins : List Join) : List Symbol :=
  ofTokens (Join.listTokens source joins)

/-- The symbols of a selection. -/
def Select.symbols (select : Select) : List Symbol :=
  ofTokens select.tokens

/-- The symbols that a join begins with, up to the alias that it starts from. -/
def Join.opening (type : JoinType) (kind : JoinKind) (source : Alias) : List Symbol :=
  ofTokens (type.token :: kind.tokens ++ [source.token])

/-- The symbols of the condition of a join. -/
def Join.conditionSymbols (on? : Option Expr) : List Symbol :=
  clause " ON " (on?.map Expr.symbols)

/-- The condition that a filter asks for, unless it always holds. -/
def Select.condition? (filter : Expr) : Option Expr :=
  if filter.isTrue then none else some filter

/-- The symbols of a filter. -/
def Select.filterSymbols (filter : Expr) : List Symbol :=
  clause " WHERE " ((condition? filter).map Expr.symbols)

/-- The elements of an ordering, unless it is empty. -/
def Select.terms? : List OrderTerm → Option (List OrderTerm)
  | [] => none
  | terms => some terms

/-- The symbols of an ordering. -/
def Select.orderSymbols (terms : List OrderTerm) : List Symbol :=
  clause " ORDER BY " ((terms? terms).map fun terms => listed (terms.map OrderTerm.symbols))

theorem Value.symbols_array_append (items : List Value) (rest : List Symbol) :
    symbols (.array items) ++ rest =
      text "ARRAY [" ++ (listed (items.map symbols) ++ (text "]" ++ rest)) := by
  have itemTokens (items : List Value) : Value.itemTokens items = items.map Value.tokens := by
    induction items with
    | nil => rfl
    | cons item others inductionHypothesis =>
      rw [Value.itemTokens, inductionHypothesis, List.map_cons]
  have written : ofTokens (separated (items.map tokens)) = listed (items.map symbols) :=
    ofTokens_separated tokens items
  simp [symbols, Value.tokens, itemTokens, written, ofToken]

namespace Expr

variable (left right : Expr) (rest : List Symbol)

theorem symbols_and_append :
    (Expr.and left right).symbols ++ rest =
      text "(" ++ (left.symbols ++ (text " AND " ++ (right.symbols ++ (text ")" ++ rest)))) := by
  simp [symbols, tokens, ofToken]

theorem symbols_equals_append :
    (Expr.equals left right).symbols ++ rest =
      text "(" ++ (left.symbols ++ (text " = " ++ (right.symbols ++ (text ")" ++ rest)))) := by
  simp [symbols, tokens, ofToken]

theorem symbols_isIn_append (items : List Expr) :
    (Expr.isIn left items).symbols ++ rest =
      text "(" ++ (left.symbols ++ (text " IN (" ++
        (listed (items.map symbols) ++ (text "))" ++ rest)))) := by
  have itemTokens (items : List Expr) : Expr.itemTokens items = items.map tokens := by
    induction items with
    | nil => rfl
    | cons item others inductionHypothesis =>
      rw [Expr.itemTokens, inductionHypothesis, List.map_cons]
  have written : ofTokens (separated (items.map tokens)) = listed (items.map symbols) :=
    ofTokens_separated tokens items
  have opening : text " IN (" = text " IN " ++ text "(" := rfl
  have closing : text "))" = text ")" ++ text ")" := rfl
  simp [symbols, tokens, itemTokens, written, ofToken, opening, closing]

theorem symbols_inSelect_append (select : Select) :
    (Expr.inSelect left select).symbols ++ rest =
      text "(" ++ (left.symbols ++ (text " IN (" ++ (select.symbols ++ (text "))" ++ rest)))) := by
  simp [symbols, tokens, Select.symbols, ofToken]

theorem symbols_column_append (name : Alias) (attr : String) :
    (Expr.column name attr).symbols ++ rest =
      .quoted name.text :: (text "." ++ .quoted attr :: rest) := by
  simp [symbols, tokens, Alias.token, ofToken]

theorem symbols_table_append (name : Alias) :
    (Expr.table name).symbols ++ rest = .quoted name.text :: rest := by
  simp [symbols, tokens, Alias.token, ofToken]

end Expr

theorem OrderTerm.symbols_append (key : Expr) (direction : Direction) (rest : List Symbol) :
    symbols ⟨key, direction⟩ ++ rest = key.symbols ++ (ofToken direction.token ++ rest) := by
  simp [symbols, tokens, Expr.symbols]

theorem Join.listSymbols_cons_append (source : Alias) (attr : String) (target : Alias)
    (kind : JoinKind) (type : JoinType) (on? : Option Expr) (joins others : List Join)
    (rest : List Symbol) :
    listSymbols source (⟨attr, target, kind, type, on?, joins⟩ :: others) ++ rest =
      opening type kind source ++ (text "." ++ .quoted attr :: (text " AS " ++
        .quoted target.text :: (conditionSymbols on? ++
          (listSymbols target joins ++ (listSymbols source others ++ rest))))) := by
  cases on? <;>
    simp [listSymbols, listTokens, tokens, opening, conditionSymbols, clause, Alias.token, ofToken,
      Expr.symbols]

theorem Select.symbols_append (distinct : Bool) (projected : Alias) (entity : String)
    (root : Alias) (joins : List Join) (filter : Expr) (orderBy : List OrderTerm)
    (rest : List Symbol) :
    symbols ⟨distinct, projected, entity, root, joins, filter, orderBy⟩ ++ rest =
      text "SELECT " ++ ((if distinct then text "DISTINCT " else []) ++ .quoted projected.text ::
        (text " FROM " ++ .quoted entity :: (text " AS " ++ .quoted root.text ::
          (Join.listSymbols root joins ++ (filterSymbols filter ++
            (orderSymbols orderBy ++ rest)))))) := by
  have listTokens (terms : List OrderTerm) :
      OrderTerm.listTokens terms = terms.map OrderTerm.tokens := by
    induction terms with
    | nil => rfl
    | cons term others inductionHypothesis =>
      rw [OrderTerm.listTokens, inductionHypothesis, List.map_cons]
  have filtered : ofTokens (if filter.isTrue then [] else .fixed " WHERE " :: filter.tokens) =
      filterSymbols filter := by
    unfold filterSymbols condition?
    split <;> rfl
  have marked : ofTokens (if distinct then [.fixed "DISTINCT "] else []) =
      if distinct then text "DISTINCT " else [] := by
    split <;> rfl
  have written : ofTokens (separated (orderBy.map OrderTerm.tokens)) =
      listed (orderBy.map OrderTerm.symbols) :=
    ofTokens_separated OrderTerm.tokens orderBy
  have fromText : text " FROM " = text " " ++ text "FROM " := rfl
  rw [fromText]
  cases orderBy with
  | nil =>
    simp [symbols, tokens, filtered, marked, orderSymbols, terms?, clause, Join.listSymbols,
      Alias.token, ofToken]
  | cons term others =>
    have ordered : orderSymbols (term :: others) =
        text " ORDER BY " ++ ofTokens (separated ((term :: others).map OrderTerm.tokens)) := by
      rw [written]
      rfl
    rw [ordered]
    simp [symbols, tokens, filtered, marked, listTokens, Join.listSymbols, Alias.token, ofToken]

/-! ## Legibility -/

namespace Symbol

/-- Whether symbols are legible in front of everything legible that they are separated from. -/
def Leads (front : List Symbol) : Prop :=
  ∀ ⦃rest⦄, Separated rest → Legible rest → Legible (front ++ rest)

/-- Whether no character of a text opens a name or a parameter. -/
def isPlain (fixed : String) : Bool :=
  fixed.toList.all fun c => c != '"' && c != '$'

theorem legible_text_append (fixed : String) {rest : List Symbol}
    (plain : isPlain fixed) (legible : Legible rest) : Legible (text fixed ++ rest) := by
  rw [isPlain] at plain
  rw [text]
  generalize fixed.toList = chars at plain ⊢
  induction chars with
  | nil => exact legible
  | cons c others inductionHypothesis =>
    simp only [List.all_cons, Bool.and_eq_true, bne_iff_ne] at plain
    exact ⟨plain.1.1, plain.1.2, inductionHypothesis plain.2⟩

/-- A clause is set apart by the blank that its keyword begins with, and it is legible if its body
is. -/
theorem separated_and_leads_clause (keyword : String) {body? : Option (List Symbol)}
    (plain : isPlain keyword) (separates : ∀ rest, Separated (text keyword ++ rest))
    (leads : ∀ body ∈ body?, Leads body) {rest : List Symbol} (separated : Separated rest)
    (legible : Legible rest) :
    Separated (clause keyword body? ++ rest) ∧ Legible (clause keyword body? ++ rest) := by
  cases body? with
  | none => exact ⟨separated, legible⟩
  | some body =>
    rw [clause, List.append_assoc]
    exact ⟨separates _, legible_text_append _ plain (leads body rfl separated legible)⟩

/-- Parts that lead do so behind commas, and a comma separates. -/
theorem separated_and_leads_afterCommas {parts : List (List Symbol)}
    (each : ∀ part ∈ parts, Leads part) {rest : List Symbol} (separated : Separated rest)
    (legible : Legible rest) :
    Separated (afterCommas parts ++ rest) ∧ Legible (afterCommas parts ++ rest) := by
  induction parts with
  | nil => exact ⟨separated, legible⟩
  | cons first others inductionHypothesis =>
    obtain ⟨leads, each⟩ := List.forall_mem_cons.1 each
    obtain ⟨separated, legible⟩ := inductionHypothesis each
    rw [afterCommas_cons_append]
    exact ⟨rfl, legible_text_append _ (by decide) (leads separated legible)⟩

/-- Parts that lead can be listed. -/
theorem leads_listed {parts : List (List Symbol)} (each : ∀ part ∈ parts, Leads part) :
    Leads (listed parts) := by
  intro rest separated legible
  cases parts with
  | nil => exact legible
  | cons first others =>
    obtain ⟨leads, each⟩ := List.forall_mem_cons.1 each
    obtain ⟨separated, legible⟩ := separated_and_leads_afterCommas each separated legible
    rw [listed, List.append_assoc]
    exact leads separated legible

end Symbol

namespace Value

/-- Values that are passed as parameters lead. -/
theorem leads_of_parameter {value : Value} (passed : value.tokens = [.parameter value]) :
    Leads value.symbols := by
  intro rest separated legible
  rw [symbols, passed]
  exact ⟨separated, legible⟩

/-- Values that are written as fixed text lead. -/
theorem leads_of_fixed {value : Value} {fixed : String} (written : value.tokens = [.fixed fixed])
    (plain : isPlain fixed) : Leads value.symbols := by
  intro rest _ legible
  rw [symbols, written, ofTokens_cons, ofTokens_nil, List.append_nil]
  exact legible_text_append _ plain legible

/-- Integers lead: neither digits nor a sign open a name or a parameter. -/
theorem leads_int (n : Int) : Leads (symbols (.int n)) := by
  refine leads_of_fixed (by rw [tokens]) (List.all_eq_true.2 fun c member => ?_)
  simp only [Bool.and_eq_true, bne_iff_ne]
  rcases eq_minus_or_isDigit_of_mem_toString member with rfl | digit
  · decide
  · constructor <;> rintro rfl <;> exact absurd digit (by decide)

mutual

/-- Values are written legibly. -/
theorem leads : (value : Value) → Leads value.symbols
  | .null => leads_of_fixed (by rw [tokens]) (by decide)
  | .bool true => leads_of_fixed (by rw [tokens]) (by decide)
  | .bool false => leads_of_fixed (by rw [tokens]) (by decide)
  | .int n => leads_int n
  | .float _ | .string _ | .uuid _ | .enum .. | .entity _ => leads_of_parameter rfl
  | .array items => by
    intro rest separated legible
    rw [symbols_array_append]
    refine legible_text_append _ (by decide) (leads_listed (allLead items) rfl ?_)
    exact legible_text_append _ (by decide) legible

/-- Lists of values are written legibly. -/
theorem allLead : (items : List Value) → ∀ part ∈ items.map symbols, Leads part
  | [] => by simp
  | item :: rest => List.forall_mem_cons.2 ⟨leads item, allLead rest⟩

end

end Value

namespace Join

/-- Behind joins comes a blank, or what comes behind all of them. -/
theorem separated_listSymbols_append (source : Alias) (joins : List Join) {rest : List Symbol}
    (separated : Separated rest) : Separated (listSymbols source joins ++ rest) := by
  cases joins with
  | nil => exact separated
  | cons join others =>
    obtain ⟨attr, target, kind, type, on?, joins⟩ := join
    rw [listSymbols_cons_append]
    cases type <;> rfl

theorem legible_opening_append (type : JoinType) (kind : JoinKind) (source : Alias)
    {rest : List Symbol} (separated : Separated rest) (legible : Legible rest) :
    Legible (opening type kind source ++ rest) := by
  have written : opening type kind source ++ rest =
      ofToken type.token ++ (ofTokens kind.tokens ++ .quoted source.text :: rest) := by
    simp [opening, ofToken, Alias.token]
  have named : Legible (.quoted source.text :: rest) := ⟨separated, legible⟩
  have marked : Legible (ofTokens kind.tokens ++ .quoted source.text :: rest) := by
    cases kind with
    | join => exact named
    | fetch => exact legible_text_append "FETCH " (by decide) named
  obtain ⟨words, fixed, plain⟩ : ∃ words, type.token = .fixed words ∧
      isPlain words := by
    cases type <;> exact ⟨_, rfl, by decide⟩
  rw [written, fixed]
  exact legible_text_append _ plain marked

/-- A join with a legible condition is legible in front of joins that are. -/
theorem leads_cons {source target : Alias} {attr : String} {kind : JoinKind} {type : JoinType}
    {on? : Option Expr} {joins others : List Join}
    (condition : ∀ body ∈ on?.map Expr.symbols, Leads body)
    (nested : Leads (listSymbols target joins)) (beside : Leads (listSymbols source others)) :
    Leads (listSymbols source (⟨attr, target, kind, type, on?, joins⟩ :: others)) := by
  intro rest separated legible
  have separatedBeside := separated_listSymbols_append source others separated
  have separatedBelow := separated_listSymbols_append target joins separatedBeside
  have legibleBelow := nested separatedBeside (beside separated legible)
  have conditioned : Legible (.quoted target.text :: (conditionSymbols on? ++
      (listSymbols target joins ++ (listSymbols source others ++ rest)))) :=
    separated_and_leads_clause " ON " (by decide) (fun _ => rfl) condition separatedBelow
      legibleBelow
  rw [listSymbols_cons_append]
  refine legible_opening_append type kind source rfl (legible_text_append _ (by decide) ⟨rfl, ?_⟩)
  exact legible_text_append _ (by decide) conditioned

end Join

namespace Select

/-- A selection with legible joins, a legible filter and a legible ordering is legible. -/
theorem leads_mk {distinct : Bool} {projected : Alias} {entity : String} {root : Alias}
    {joins : List Join} {filter : Expr} {orderBy : List OrderTerm}
    (joinsLead : Leads (Join.listSymbols root joins)) (filterLeads : Leads filter.symbols)
    (termsLead : ∀ part ∈ orderBy.map OrderTerm.symbols, Leads part) :
    Leads (symbols ⟨distinct, projected, entity, root, joins, filter, orderBy⟩) := by
  intro rest separated legible
  have ordered : Separated (orderSymbols orderBy ++ rest) ∧
      Legible (orderSymbols orderBy ++ rest) := by
    refine separated_and_leads_clause " ORDER BY " (by decide) (fun _ => rfl) ?_ separated legible
    cases orderBy with
    | nil => simp [terms?]
    | cons term others => simpa [terms?] using leads_listed termsLead
  have filtered : Separated (filterSymbols filter ++ (orderSymbols orderBy ++ rest)) ∧
      Legible (filterSymbols filter ++ (orderSymbols orderBy ++ rest)) := by
    refine separated_and_leads_clause " WHERE " (by decide) (fun _ => rfl) ?_ ordered.1 ordered.2
    unfold condition?
    split
    · simp
    · simpa using filterLeads
  have joined := joinsLead filtered.1 filtered.2
  have separatedJoins := Join.separated_listSymbols_append root joins filtered.1
  rw [symbols_append]
  generalize Join.listSymbols root joins ++ (filterSymbols filter ++ (orderSymbols orderBy ++ rest))
    = behind at joined separatedJoins
  have named : Legible (.quoted root.text :: behind) := ⟨separatedJoins, joined⟩
  have sourced : Legible (.quoted entity :: (text " AS " ++ .quoted root.text :: behind)) :=
    ⟨rfl, legible_text_append _ (by decide) named⟩
  have projecting : Legible (.quoted projected.text ::
      (text " FROM " ++ .quoted entity :: (text " AS " ++ .quoted root.text :: behind))) :=
    ⟨rfl, legible_text_append _ (by decide) sourced⟩
  refine legible_text_append _ (by decide) ?_
  cases distinct with
  | false => exact projecting
  | true => exact legible_text_append "DISTINCT " (by decide) projecting

end Select

mutual

/-- Expressions are written legibly. -/
theorem Expr.leads : (expr : Expr) → Leads expr.symbols
  | .and left right => by
    intro rest separated legible
    rw [Expr.symbols_and_append]
    refine legible_text_append _ (by decide) (left.leads rfl (legible_text_append _ (by decide) ?_))
    exact right.leads rfl (legible_text_append _ (by decide) legible)
  | .equals left right => by
    intro rest separated legible
    rw [Expr.symbols_equals_append]
    refine legible_text_append _ (by decide) (left.leads rfl (legible_text_append _ (by decide) ?_))
    exact right.leads rfl (legible_text_append _ (by decide) legible)
  | .isIn left items => by
    intro rest separated legible
    rw [Expr.symbols_isIn_append]
    refine legible_text_append _ (by decide) (left.leads rfl (legible_text_append _ (by decide) ?_))
    exact leads_listed (Expr.allLead items) rfl (legible_text_append _ (by decide) legible)
  | .inSelect left select => by
    intro rest separated legible
    rw [Expr.symbols_inSelect_append]
    refine legible_text_append _ (by decide) (left.leads rfl (legible_text_append _ (by decide) ?_))
    exact select.leads rfl (legible_text_append _ (by decide) legible)
  | .column name attr => by
    intro rest separated legible
    have named : Legible (.quoted attr :: rest) := ⟨separated, legible⟩
    rw [Expr.symbols_column_append]
    exact ⟨rfl, legible_text_append _ (by decide) named⟩
  | .table name => by
    intro rest separated legible
    rw [Expr.symbols_table_append]
    exact ⟨separated, legible⟩
  | .value value => value.leads

/-- Lists of expressions are written legibly. -/
theorem Expr.allLead : (items : List Expr) → ∀ part ∈ items.map Expr.symbols, Leads part
  | [] => by simp
  | item :: rest => List.forall_mem_cons.2 ⟨item.leads, Expr.allLead rest⟩

/-- Joins are written legibly. -/
theorem Join.allLead : (joins : List Join) → ∀ source, Leads (Join.listSymbols source joins)
  | [], _ => fun _ _ legible => legible
  | ⟨_, target, _, _, none, joins⟩ :: others, source =>
    Join.leads_cons (by simp) (Join.allLead joins target) (Join.allLead others source)
  | ⟨_, target, _, _, some on, joins⟩ :: others, source =>
    Join.leads_cons (by simpa using on.leads) (Join.allLead joins target)
      (Join.allLead others source)

/-- Elements of an ordering are written legibly. -/
theorem OrderTerm.allLead : (terms : List OrderTerm) →
    ∀ part ∈ terms.map OrderTerm.symbols, Leads part
  | [] => by simp
  | ⟨key, direction⟩ :: others => by
    refine List.forall_mem_cons.2 ⟨fun rest separated legible => ?_, OrderTerm.allLead others⟩
    rw [OrderTerm.symbols_append]
    obtain ⟨word, fixed, plain, separates⟩ : ∃ word, direction.token = .fixed word ∧
        isPlain word ∧ Separated (text word ++ rest) := by
      cases direction <;> exact ⟨_, rfl, by decide, rfl⟩
    rw [fixed]
    exact key.leads separates (legible_text_append _ plain legible)

/-- Selections are written legibly. -/
theorem Select.leads : (select : Select) → Leads select.symbols
  | ⟨_, _, _, root, joins, filter, orderBy⟩ =>
    Select.leads_mk (Join.allLead joins root) filter.leads (OrderTerm.allLead orderBy)

end

end EntityGraph
