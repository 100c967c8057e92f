import EntityGraph.Plan.Sql
import Mathlib.Data.List.Basic

/-!
# Queries as symbols

The text of a query runs its tokens together and sets the values of its parameters apart. A
symbol is what the text is made of before: a character of fixed text, a whole name, or a
parameter together with its value. In a legible list of symbols no fixed character is one that
opens a name or a parameter, and nothing stands behind a name or a parameter that could be taken
for more of it. The text and the values then leave no choice of the symbols.
-/

namespace EntityGraph

/-- A character of fixed text, a name between quotes, or a parameter. -/
inductive Symbol where
  | char (c : Char)
  | quoted (name : String)
  | parameter (value : Value)

namespace Symbol

/-- Fixed text, character by character. -/
def text (fixed : String) : List Symbol :=
  fixed.toList.map char

/-- The symbols of a token. -/
def ofToken : Token → List Symbol
  | .fixed fixed => text fixed
  | .identifier name => [.quoted name]
  | .parameter value => [.parameter value]

/-- The symbols of tokens. -/
def ofTokens (tokens : List Token) : List Symbol :=
  tokens.flatMap ofToken

/-- The characters of symbols, the first parameter having the number `index`. -/
def chars (index : Nat) : List Symbol → List Char
  | [] => []
  | .char c :: rest => c :: chars index rest
  | .quoted name :: rest => quotedIdentifier name ++ chars index rest
  | .parameter _ :: rest => '$' :: (toString index).toList ++ chars (index + 1) rest

/-- The value of a parameter. -/
def value? : Symbol → Option Value
  | .parameter value => some value
  | _ => none

@[simp] theorem ofTokens_nil : ofTokens [] = [] := rfl

@[simp] theorem ofTokens_cons (token : Token) (tokens : List Token) :
    ofTokens (token :: tokens) = ofToken token ++ ofTokens tokens := rfl

@[simp] theorem ofTokens_append (tokens others : List Token) :
    ofTokens (tokens ++ others) = ofTokens tokens ++ ofTokens others :=
  List.flatMap_append

theorem chars_text_append (index : Nat) (fixed : String) (rest : List Symbol) :
    chars index (text fixed ++ rest) = fixed.toList ++ chars index rest := by
  rw [text]
  induction fixed.toList with
  | nil => rfl
  | cons c others inductionHypothesis =>
    rw [List.map_cons, List.cons_append, chars, inductionHypothesis, List.cons_append]

/-- Tokens are written as their symbols are. -/
theorem chars_ofTokens (index : Nat) (tokens : List Token) :
    chars index (ofTokens tokens) = Token.chars index tokens := by
  induction tokens generalizing index with
  | nil => rfl
  | cons token rest inductionHypothesis =>
    rw [ofTokens_cons]
    cases token with
    | fixed fixed => rw [ofToken, chars_text_append, Token.chars, inductionHypothesis]
    | identifier name =>
      rw [ofToken, List.singleton_append, chars, Token.chars, inductionHypothesis]
    | parameter value =>
      rw [ofToken, List.singleton_append, chars, Token.chars, inductionHypothesis]

/-- Tokens have the parameters that their symbols have. -/
theorem values_ofTokens (tokens : List Token) :
    (ofTokens tokens).filterMap value? = tokens.filterMap Token.parameter? := by
  have fixed (fixed : String) : (text fixed).filterMap value? = [] := by
    simp [text, value?]
  induction tokens with
  | nil => rfl
  | cons token rest inductionHypothesis =>
    rw [ofTokens_cons, List.filterMap_append, inductionHypothesis]
    cases token with
    | fixed text => rw [ofToken, fixed]; rfl
    | identifier name => rfl
    | parameter value => rfl

/-! ## Legible symbols -/

/-- Whether symbols begin with something that is not a part of a name or of a number. -/
def Separated : List Symbol → Prop
  | [] => True
  | .char c :: _ => c.isDigit = false
  | _ :: _ => False

/-- Whether every symbol can be told from those around it. -/
def Legible : List Symbol → Prop
  | [] => True
  | .char c :: rest => c ≠ '"' ∧ c ≠ '$' ∧ Legible rest
  | .quoted _ :: rest | .parameter _ :: rest => Separated rest ∧ Legible rest

/-- Characters with the quotes among them doubled. -/
def doubled (chars : List Char) : List Char :=
  chars.flatMap fun c => if c = '"' then ['"', '"'] else [c]

theorem doubled_cons (c : Char) (rest : List Char) :
    doubled (c :: rest) = (if c = '"' then ['"', '"'] else [c]) ++ doubled rest := rfl

/-- Doubled quotes are told from the quote that closes a name by what follows: another quote, or
something else. -/
theorem doubled_append_inj {chars others rest further : List Char}
    (stops : rest.head? ≠ some '"') (stopsToo : further.head? ≠ some '"')
    (same : doubled chars ++ '"' :: rest = doubled others ++ '"' :: further) :
    chars = others ∧ rest = further := by
  induction chars generalizing others with
  | nil =>
    cases others with
    | nil => exact ⟨rfl, (List.cons.inj same).2⟩
    | cons d others =>
      rw [doubled_cons] at same
      split at same
      · obtain ⟨_, rfl⟩ := List.cons.inj same
        exact absurd rfl stops
      · next other => exact absurd (List.cons.inj same).1.symm other
  | cons c chars inductionHypothesis =>
    cases others with
    | nil =>
      rw [doubled_cons] at same
      split at same
      · obtain ⟨_, rfl⟩ := List.cons.inj same
        exact absurd rfl stopsToo
      · next other => exact absurd (List.cons.inj same).1 other
    | cons d others =>
      rw [doubled_cons, doubled_cons] at same
      -- Both sides begin with two quotes or with one other character.
      have heads : c = d ∧ doubled chars ++ '"' :: rest = doubled others ++ '"' :: further := by
        split at same <;> split at same
        · next left right => exact ⟨left.trans right.symm, by simpa using same⟩
        · next left right => exact absurd (List.cons.inj same).1.symm right
        · next left right => exact absurd (List.cons.inj same).1 left
        · exact ⟨(List.cons.inj same).1, (List.cons.inj same).2⟩
      obtain ⟨rfl, remaining⟩ := heads
      obtain ⟨rfl, rests⟩ := inductionHypothesis remaining
      exact ⟨rfl, rests⟩

/-- A name in quotes is read to its end, whatever characters are in it. -/
theorem quotedIdentifier_append_inj {name other : String} {rest further : List Char}
    (stops : rest.head? ≠ some '"') (stopsToo : further.head? ≠ some '"')
    (same : quotedIdentifier name ++ rest = quotedIdentifier other ++ further) :
    name = other ∧ rest = further := by
  have written (name : String) (rest : List Char) :
      quotedIdentifier name ++ rest = '"' :: (doubled name.toList ++ '"' :: rest) := by
    simp [quotedIdentifier, doubled]
  rw [written, written] at same
  obtain ⟨names, rests⟩ := doubled_append_inj stops stopsToo (List.cons.inj same).2
  exact ⟨String.toList_inj.1 names, rests⟩

/-- No quote stands behind a name. -/
theorem head?_chars_ne_quote {index : Nat} {symbols : List Symbol} (separated : Separated symbols)
    (legible : Legible symbols) : (chars index symbols).head? ≠ some '"' := by
  cases symbols with
  | nil => simp [chars]
  | cons symbol rest =>
    cases symbol with
    | char c => simpa [chars] using legible.1
    | quoted _ => exact separated.elim
    | parameter _ => exact separated.elim

/-- The characters and the values of legible symbols determine them. -/
theorem eq_of_chars_eq {left right : List Symbol} (legible : Legible left)
    (legibleToo : Legible right) {index : Nat} (sameChars : chars index left = chars index right)
    (sameValues : left.filterMap value? = right.filterMap value?) : left = right := by
  induction left generalizing right index with
  | nil =>
    cases right with
    | nil => rfl
    | cons symbol rest => cases symbol <;> simp [chars, quotedIdentifier] at sameChars
  | cons symbol rest inductionHypothesis =>
    cases right with
    | nil => cases symbol <;> simp [chars, quotedIdentifier] at sameChars
    | cons other further =>
      cases symbol with
      | char c =>
        cases other with
        | char d =>
          obtain ⟨rfl, remaining⟩ := List.cons.inj sameChars
          rw [inductionHypothesis legible.2.2 legibleToo.2.2 remaining sameValues]
        | quoted _ => exact absurd (List.cons.inj sameChars).1 legible.1
        | parameter _ => exact absurd (List.cons.inj sameChars).1 legible.2.1
      | quoted name =>
        cases other with
        | char d => exact absurd (List.cons.inj sameChars).1.symm legibleToo.1
        | quoted other =>
          obtain ⟨rfl, remaining⟩ := quotedIdentifier_append_inj
            (head?_chars_ne_quote legible.1 legible.2)
            (head?_chars_ne_quote legibleToo.1 legibleToo.2) sameChars
          rw [inductionHypothesis legible.2 legibleToo.2 remaining sameValues]
        | parameter _ => simp [chars, quotedIdentifier] at sameChars
      | parameter value =>
        cases other with
        | char d => exact absurd (List.cons.inj sameChars).1.symm legibleToo.2.1
        | quoted _ => simp [chars, quotedIdentifier] at sameChars
        | parameter other =>
          -- Both parameters have the number `index`, so it is as long on both sides.
          have remaining := List.append_cancel_left (List.cons.inj sameChars).2
          obtain ⟨rfl, remainingValues⟩ := List.cons.inj sameValues
          rw [inductionHypothesis legible.2 legibleToo.2 remaining remainingValues]

end Symbol

end EntityGraph
