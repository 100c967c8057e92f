import EntityGraph.Proofs.Plan.Passed
import EntityGraph.Proofs.Plan.Readability

/-!
# Placeholders and parameters

A query is written token by token, with a count of the parameters that have been met. Outside of
names, the text has a placeholder for each parameter, numbered from one on, and the parameters are
the values that the plan passes, in the order in which the query is written. The text says nothing
of them: it stays the same whatever other values are passed in their places.
-/

namespace EntityGraph

open EntityGraph.Symbol

/-! ## Writing -/

/-- A parameter of a query: a text, or any other value. -/
inductive Parameter where
  | string (s : String)
  | value (value : Value)

/-- The parameter that a value is passed as. -/
def Parameter.of : Value → Parameter
  | .string s => .string s
  | other => .value other

/-- A query that is being written: its text so far, the parameters that have been met, and their
count. -/
structure Draft where
  text : List Char
  parameters : List Parameter
  count : Nat

namespace Draft

/-- The query of which nothing has been written. -/
def empty : Draft := ⟨[], [], 0⟩

/-- Write one more token. A parameter counts before its placeholder is written. -/
def write (draft : Draft) : Token → Draft
  | .fixed text => { draft with text := draft.text ++ text.toList }
  | .identifier name => { draft with text := draft.text ++ quotedIdentifier name }
  | .parameter value =>
    { text := draft.text ++ '$' :: (toString (draft.count + 1)).toList
      parameters := draft.parameters ++ [.of value]
      count := draft.count + 1 }

/-- Writing tokens appends their text and their parameters, and counts these. -/
theorem foldl_write (tokens : List Token) (draft : Draft) :
    tokens.foldl write draft =
      { text := draft.text ++ Token.chars (draft.count + 1) tokens
        parameters := draft.parameters ++ (Token.values tokens).map .of
        count := draft.count + (Token.values tokens).length } := by
  induction tokens generalizing draft with
  | nil => simp [Token.chars]
  | cons token rest inductionHypothesis =>
    rw [List.foldl_cons, inductionHypothesis]
    cases token with
    | fixed text => simp [write, Token.chars]
    | identifier name => simp [write, Token.chars]
    | parameter value =>
      simp only [write, Token.chars, Token.values_parameter_cons, List.map_cons, List.length_cons,
        List.append_assoc, List.cons_append, List.nil_append, mk.injEq, true_and]
      omega

end Draft

/-- The query of a plan, as it is written token by token. -/
def Select.draft (select : Select) : Draft :=
  select.tokens.foldl Draft.write Draft.empty

/-! ## Placeholders -/

/-- The numbers behind the dollar signs of a text, outside of names. A quote opens a name or closes
it, so a doubled one inside a name closes it and opens it again. -/
def placeholders (inName : Bool) : List Char → List (List Char)
  | [] => []
  | c :: rest =>
    if c = '"' then placeholders (!inName) rest
    else if c = '$' && !inName then rest.takeWhile Char.isDigit :: placeholders inName rest
    else placeholders inName rest

/-- The numerals of consecutive numbers. -/
def numeralsFrom (first count : Nat) : List (List Char) :=
  (List.range' first count).map fun number => (toString number).toList

/-- Inside a name nothing is a placeholder, whatever characters the name has. -/
theorem placeholders_quotedIdentifier_append (name : String) (rest : List Char) :
    placeholders false (quotedIdentifier name ++ rest) = placeholders false rest := by
  have inside (chars : List Char) :
      placeholders true (doubled chars ++ '"' :: rest) = placeholders false rest := by
    induction chars with
    | nil => simp [doubled, placeholders]
    | cons c others inductionHypothesis =>
      rw [doubled_cons]
      split
      · simpa [placeholders] using inductionHypothesis
      · next other => simpa [placeholders, other] using inductionHypothesis
  have written : quotedIdentifier name ++ rest = '"' :: (doubled name.toList ++ '"' :: rest) := by
    simp [quotedIdentifier, doubled]
  rw [written]
  simpa [placeholders] using inside name.toList

/-- The digits of a number are no placeholders. -/
theorem placeholders_digits_append {digits : List Char} (all : ∀ c ∈ digits, c.isDigit)
    (rest : List Char) : placeholders false (digits ++ rest) = placeholders false rest := by
  induction digits with
  | nil => rfl
  | cons c others inductionHypothesis =>
    obtain ⟨digit, all⟩ := List.forall_mem_cons.1 all
    have notQuote : c ≠ '"' := by
      rintro rfl
      cases digit
    have notDollar : c ≠ '$' := by
      rintro rfl
      cases digit
    simpa [placeholders, notQuote, notDollar] using inductionHypothesis all

theorem isDigit_of_mem_toString {number : Nat} {c : Char}
    (member : c ∈ (toString number).toList) : c.isDigit = true :=
  Nat.isDigit_of_mem_toDigits (by decide) (by decide) (Nat.toList_repr ▸ member)

namespace Symbol

/-- No digit stands behind a parameter. -/
theorem takeWhile_isDigit_chars {index : Nat} {symbols : List Symbol}
    (separated : Separated symbols) : (chars index symbols).takeWhile Char.isDigit = [] := by
  cases symbols with
  | nil => rfl
  | cons symbol rest =>
    cases symbol with
    | char c =>
      have notDigit : c.isDigit = false := separated
      simp [chars, notDigit]
    | quoted _ => exact separated.elim
    | parameter _ => exact separated.elim

/-- Legible symbols have a placeholder for each parameter among them. -/
theorem placeholders_chars {symbols : List Symbol} (legible : Legible symbols) (index : Nat) :
    placeholders false (chars index symbols) =
      numeralsFrom index (symbols.filterMap value?).length := by
  induction symbols generalizing index with
  | nil => rfl
  | cons symbol rest inductionHypothesis =>
    cases symbol with
    | char c =>
      obtain ⟨notQuote, notDollar, legible⟩ := legible
      rw [chars, placeholders, if_neg notQuote, if_neg (by simp [notDollar]),
        inductionHypothesis legible]
      rfl
    | quoted name =>
      rw [chars, placeholders_quotedIdentifier_append, inductionHypothesis legible.2]
      rfl
    | parameter value =>
      have digits : ∀ c ∈ (toString index).toList, c.isDigit := fun _ => isDigit_of_mem_toString
      rw [chars, List.cons_append, placeholders, if_neg (by decide), if_pos (by decide),
        List.takeWhile_append_of_pos digits, takeWhile_isDigit_chars legible.1, List.append_nil,
        placeholders_digits_append digits, inductionHypothesis legible.2]
      rfl

end Symbol

/-- The placeholders of a query are numbered from one on, and the parameters are the values that
the plan passes, in the order in which the query is written: as the query is written, the count of
parameters stays with the placeholders and with the parameters. No value that is passed shows in the
text. -/
theorem placeholders_stand_for_passed_values (select : Select) :
    placeholders false select.sql.text.toList = numeralsFrom 1 select.passed.length ∧
      select.sql.parameters = select.passed ∧
      select.draft = ⟨select.sql.text.toList, select.passed.map .of, select.passed.length⟩ ∧
      ∀ other : Select, other.blanked = select.blanked → other.sql.text = select.sql.text := by
  have text : select.sql.text.toList = Token.chars 1 select.tokens := String.toList_ofList
  have values : Token.values select.tokens = select.passed := select.values_tokens
  refine ⟨?_, values, ?_, fun other alike => ?_⟩
  · have legible : Legible (select.symbols ++ []) := select.leads trivial trivial
    rw [List.append_nil] at legible
    rw [Select.symbols] at legible
    rw [text, ← chars_ofTokens, placeholders_chars legible, values_ofTokens]
    exact congrArg (fun passed => numeralsFrom 1 passed.length) values
  · rw [Select.draft, Draft.foldl_write, values, text]
    simp [Draft.empty]
  · have blankedTokens := congrArg Select.tokens alike
    rw [Select.tokens_blanked, Select.tokens_blanked] at blankedTokens
    have sameChars : Token.chars 1 other.tokens = Token.chars 1 select.tokens := by
      rw [← Token.chars_map_blanked, blankedTokens, Token.chars_map_blanked]
    exact congrArg String.ofList sameChars

/-! ## A plan with dollar signs -/

/-- A plan that passes a value twice, with names that look like placeholders. -/
def Select.titled (title : Value) : Select :=
  { Select.everything "Book\" $1" ⟨0, "$2"⟩ with
    filter := .inValues (.column ⟨0, "$2"⟩ "title$3") [title, .int 7, .array [.null, title]] }

/-- Whatever is passed, the query of the plan has its two placeholders and no more. -/
theorem titles_stand_behind_placeholders :
    (Select.titled (.enum "Genre" "$9")).blanked = (Select.titled (.string "\" OR $3")).blanked ∧
      placeholders false (Select.titled (.string "\" OR $3")).sql.text.toList = [['1'], ['2']] ∧
      (Select.titled (.string "\" OR $3")).sql.parameters =
        [.string "\" OR $3", .string "\" OR $3"] ∧
      (Select.titled (.string "\" OR $3")).draft.count = 2 ∧
      (Select.titled (.enum "Genre" "$9")).sql.text =
        (Select.titled (.string "\" OR $3")).sql.text := by
  have alike : (Select.titled (.enum "Genre" "$9")).blanked =
      (Select.titled (.string "\" OR $3")).blanked := rfl
  obtain ⟨numbered, passed, drafted, unseen⟩ :=
    placeholders_stand_for_passed_values (Select.titled (.string "\" OR $3"))
  have numerals : numeralsFrom 1 2 = [['1'], ['2']] := by decide +kernel
  exact ⟨alike, numbered.trans numerals, passed, congrArg Draft.count drafted, unseen _ alike⟩

end EntityGraph
