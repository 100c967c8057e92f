import EntityGraph.Proofs.Plan.Written
import Mathlib.Data.List.Infix

/-!
# Reading symbols

An item is read back from its symbols if nothing else begins in the same way, whatever follows.
What follows an expression is known by its first symbol, which is never a part of an expression.
Lists are read back item by item, numbers digit by digit, and an alias from the end: its index is
what follows the last underscore.
-/

namespace EntityGraph

open EntityGraph.Symbol

/-- Whether an item is read back from what it is written as, whatever follows in the way that
`ends` says. -/
def Readable {α : Type} (ends : List Symbol → Prop) (written : α → List Symbol) (item : α) :
    Prop :=
  ∀ ⦃other rest further⦄, ends rest → ends further →
    written item ++ rest = written other ++ further → item = other ∧ rest = further

/-- An item in front of the text that closes it is read back together with this text. -/
theorem Readable.closed {α : Type} {ends : List Symbol → Prop} {written : α → List Symbol}
    {item other : α} {closing : String} {rest further : List Symbol}
    (readable : Readable ends written item) (stops : ∀ rest, ends (text closing ++ rest))
    (same : written item ++ text closing ++ rest = written other ++ text closing ++ further) :
    item = other ∧ rest = further := by
  rw [List.append_assoc, List.append_assoc] at same
  obtain ⟨rfl, remaining⟩ := readable (stops rest) (stops further) same
  exact ⟨rfl, List.append_cancel_left remaining⟩

/-! ## What stands behind -/

namespace Symbol

/-- What stands behind an expression: nothing, or a character that is not a part of one. -/
def Closes : List Symbol → Prop
  | [] => True
  | .char c :: _ => c ∈ [' ', ',', ')', ']']
  | _ :: _ => False

/-- What stands behind a list: nothing, or the bracket that closes it. -/
def ClosesList : List Symbol → Prop
  | [] => True
  | .char c :: _ => c ∈ [')', ']']
  | _ :: _ => False

/-- A symbol that an expression can begin with. -/
def Opens : Symbol → Prop
  | .char c => c ∉ [' ', ',', ')', ']', 'S']
  | _ => True

theorem ClosesList.closes {rest : List Symbol} (ends : ClosesList rest) : Closes rest := by
  cases rest with
  | nil => exact trivial
  | cons symbol others =>
    cases symbol with
    | char c =>
      have bracket : c = ')' ∨ c = ']' := by simpa [ClosesList] using ends
      rcases bracket with rfl | rfl <;> simp [Closes]
    | quoted _ => exact ends.elim
    | parameter _ => exact ends.elim

theorem Opens.not_closes {symbol : Symbol} (opens : symbol.Opens) (rest : List Symbol) :
    ¬ Closes (symbol :: rest) := by
  cases symbol with
  | char c =>
    intro closes
    simp only [Opens, Closes, List.mem_cons, List.not_mem_nil, or_false, not_or] at opens closes
    tauto
  | quoted _ => exact id
  | parameter _ => exact id

/-- Texts neither of which is the beginning of the other do not begin the same symbols. -/
theorem text_append_ne {fixed other : String}
    (apart : ¬ fixed.toList <+: other.toList ∧ ¬ other.toList <+: fixed.toList)
    {rest further : List Symbol} : text fixed ++ rest ≠ text other ++ further := by
  have injective : Function.Injective Symbol.char := fun _ _ => Symbol.char.inj
  intro same
  have first : text fixed <+: text fixed ++ rest := List.prefix_append ..
  have second : text other <+: text fixed ++ rest := same ▸ List.prefix_append ..
  rcases List.prefix_or_prefix_of_prefix first second with within | within
  · exact apart.1 ((List.prefix_map_iff_of_injective injective).1 within)
  · exact apart.2 ((List.prefix_map_iff_of_injective injective).1 within)

/-- Whether symbols do not begin with a text. -/
def Without (keyword : String) (rest : List Symbol) : Prop :=
  ∀ more, rest ≠ text keyword ++ more

theorem without_text_append {keyword other : String} (rest : List Symbol)
    (apart : ¬ keyword.toList <+: other.toList ∧ ¬ other.toList <+: keyword.toList) :
    Without other (text keyword ++ rest) :=
  fun _ => text_append_ne apart

/-- A text that begins with a blank is not a part of the expression in front of it. -/
theorem closes_text_append {keyword : String} (blank : keyword.toList.head? = some ' ')
    (rest : List Symbol) : Closes (text keyword ++ rest) := by
  obtain ⟨others, written⟩ := List.head?_eq_some_iff.1 blank
  simp [text, written, Closes]

/-- What closes a list does not begin with a blank. -/
theorem ClosesList.without {keyword : String} {rest : List Symbol} (ends : ClosesList rest)
    (blank : keyword.toList.head? = some ' ') : Without keyword rest := by
  rintro more rfl
  obtain ⟨others, written⟩ := List.head?_eq_some_iff.1 blank
  simp [text, written, ClosesList] at ends

/-! ## Clauses and lists -/

variable {α β : Type} {written : α → List Symbol}

/-- A clause is read back if its body is, and it is seen that there is none. -/
theorem readable_clause {keyword : String} {ends : List Symbol → Prop} {body? : β → Option α}
    (injective : Function.Injective body?) {item : β}
    (body : ∀ part ∈ body? item, Readable ends written part) :
    Readable (fun rest => ends rest ∧ Without keyword rest)
      (fun item => clause keyword ((body? item).map written)) item := by
  intro other rest further stops stopsToo same
  dsimp only at same
  cases present : body? item with
  | none =>
    cases presentToo : body? other with
    | none =>
      rw [present, presentToo] at same
      exact ⟨injective (present.trans presentToo.symm), same⟩
    | some part =>
      rw [present, presentToo] at same
      exact absurd (same.trans (List.append_assoc ..)) (stops.2 _)
  | some part =>
    cases presentToo : body? other with
    | none =>
      rw [present, presentToo] at same
      exact absurd (same.symm.trans (List.append_assoc ..)) (stopsToo.2 _)
    | some part' =>
      rw [present, presentToo] at same
      simp only [Option.map_some, clause, List.append_assoc] at same
      obtain ⟨rfl, rests⟩ := body part present stops.1 stopsToo.1 (List.append_cancel_left same)
      exact ⟨injective (present.trans presentToo.symm), rests⟩

/-- Items that are written alike begin alike. -/
theorem initial_eq_of_append_eq {initial : α → Symbol}
    (begins : ∀ item, ∃ others, written item = initial item :: others) {item other : α}
    {rest further : List Symbol} (same : written item ++ rest = written other ++ further) :
    initial item = initial other := by
  obtain ⟨_, first⟩ := begins item
  obtain ⟨_, second⟩ := begins other
  rw [first, second] at same
  exact (List.cons.inj same).1

/-- Behind an item comes a comma, or what closes the list. -/
theorem closes_afterCommas_append (parts : List (List Symbol)) {rest : List Symbol}
    (ends : ClosesList rest) : Closes (afterCommas parts ++ rest) := by
  cases parts with
  | nil => exact ends.closes
  | cons first others =>
    rw [afterCommas_cons_append]
    simp [text, Closes]

/-- What closes a list is no comma. -/
theorem ne_afterCommas_append {rest : List Symbol} (ends : ClosesList rest) (first : List Symbol)
    (others : List (List Symbol)) (further : List Symbol) :
    rest ≠ afterCommas (first :: others) ++ further := by
  rintro rfl
  rw [afterCommas_cons_append] at ends
  simp [text, ClosesList] at ends

/-- Items behind commas are read back one after the other. -/
theorem readable_afterCommas {items : List α}
    (each : ∀ item ∈ items, Readable Closes written item) :
    Readable ClosesList (fun items => afterCommas (items.map written)) items := by
  induction items with
  | nil =>
    intro other rest further ends _ same
    cases other with
    | nil => exact ⟨rfl, same⟩
    | cons first others => exact (ne_afterCommas_append ends _ _ _ same).elim
  | cons item items inductionHypothesis =>
    obtain ⟨readable, each⟩ := List.forall_mem_cons.1 each
    intro other rest further ends endsToo same
    cases other with
    | nil => exact (ne_afterCommas_append endsToo _ _ _ same.symm).elim
    | cons first others =>
      simp only [List.map_cons, afterCommas_cons_append] at same
      obtain ⟨rfl, behind⟩ := readable (closes_afterCommas_append _ ends)
        (closes_afterCommas_append _ endsToo) (List.append_cancel_left same)
      obtain ⟨rfl, rests⟩ := inductionHypothesis each ends endsToo behind
      exact ⟨rfl, rests⟩

/-- Items that can be told from what closes a list are read back from a list of them. -/
theorem readable_listed {items : List α}
    (opens : ∀ item, ∃ first others, written item = first :: others ∧ first.Opens)
    (each : ∀ item ∈ items, Readable Closes written item) :
    Readable ClosesList (fun items => listed (items.map written)) items := by
  have ended {rest : List Symbol} (ends : ClosesList rest) (item : α) (further : List Symbol) :
      rest ≠ written item ++ further := by
    obtain ⟨first, others, begins, opening⟩ := opens item
    rintro rfl
    rw [begins] at ends
    exact opening.not_closes _ ends.closes
  intro other rest further ends endsToo same
  cases items with
  | nil =>
    cases other with
    | nil => exact ⟨rfl, same⟩
    | cons first others =>
      exact absurd (same.trans (List.append_assoc ..)) (ended ends first _)
  | cons item items =>
    cases other with
    | nil => exact absurd (same.symm.trans (List.append_assoc ..)) (ended endsToo item _)
    | cons first others =>
      obtain ⟨readable, each⟩ := List.forall_mem_cons.1 each
      simp only [List.map_cons, listed, List.append_assoc] at same
      obtain ⟨rfl, behind⟩ := readable (closes_afterCommas_append _ ends)
        (closes_afterCommas_append _ endsToo) same
      obtain ⟨rfl, rests⟩ := readable_afterCommas each ends endsToo behind
      exact ⟨rfl, rests⟩

end Symbol

/-! ## Numbers -/

/-- Two runs of items that have a property, each in front of something that does not, are the same
run. -/
theorem eq_of_append_eq_append {α : Type} {property : α → Bool} {front other back behind : List α}
    (all : ∀ item ∈ front, property item) (allToo : ∀ item ∈ other, property item)
    (stops : back.takeWhile property = []) (stopsToo : behind.takeWhile property = [])
    (same : front ++ back = other ++ behind) : front = other ∧ back = behind := by
  have fronts : front = other := by
    have taken := congrArg (List.takeWhile property) same
    rwa [List.takeWhile_append_of_pos all, List.takeWhile_append_of_pos allToo, stops, stopsToo,
      List.append_nil, List.append_nil] at taken
  subst fronts
  exact ⟨rfl, List.append_cancel_left same⟩

/-- The index of an alias is what follows the last underscore of its text. -/
theorem Alias.text_injective : Function.Injective Alias.text := by
  intro left right same
  -- A name may itself end in an underscore and digits, so the text is read from its end.
  have reversed (name : Alias) : name.text.toList.reverse =
      (Nat.toDigits 10 name.index).reverse ++ '_' :: name.name.toList.reverse := by
    simp [text]
  have digits (name : Alias) : ∀ c ∈ (Nat.toDigits 10 name.index).reverse, c.isDigit := by
    intro c member
    exact Nat.isDigit_of_mem_toDigits (by decide) (by decide) (List.mem_reverse.1 member)
  have sameReversed := congrArg (fun text => text.toList.reverse) same
  simp only [reversed] at sameReversed
  obtain ⟨indices, names⟩ := eq_of_append_eq_append (digits left) (digits right)
    (List.takeWhile_cons_of_neg (by decide)) (List.takeWhile_cons_of_neg (by decide)) sameReversed
  have sameIndex : left.index = right.index :=
    Nat.repr_inj.1 (String.toList_inj.1 (by simpa using indices))
  have sameName : left.name = right.name :=
    String.toList_inj.1 (List.reverse_inj.1 (List.cons.inj names).2)
  cases left
  cases right
  rw [Alias.mk.injEq]
  exact ⟨sameIndex, sameName⟩

/-! ## Values -/

namespace Value

/-- The first character of an integer. -/
def firstChar (n : Int) : Char :=
  (toString n).toList.headD '-'

/-- The symbol that a value begins with. -/
def initial : Value → Symbol
  | .null => .char 'N'
  | .bool b => .char (if b then 't' else 'f')
  | .int n => .char (firstChar n)
  | .array _ => .char 'A'
  | value => .parameter value

/-- An integer begins with a digit or a sign. -/
theorem eq_minus_or_isDigit_firstChar (n : Int) : firstChar n = '-' ∨ (firstChar n).isDigit := by
  unfold firstChar
  cases written : (toString n).toList with
  | nil => exact .inl rfl
  | cons c rest =>
    exact eq_minus_or_isDigit_of_mem_toString (written ▸ List.mem_cons_self)

theorem firstChar_ne {c : Char} (other : c ≠ '-' ∧ c.isDigit = false) (n : Int) :
    firstChar n ≠ c := by
  rintro rfl
  rcases eq_minus_or_isDigit_firstChar n with minus | digit
  · exact other.1 minus
  · simp [digit] at other

theorem exists_toString_eq (n : Int) : ∃ rest, (toString n).toList = firstChar n :: rest := by
  have nonempty : (toString n).toList ≠ [] := by
    rw [toList_toString_int]
    exact List.append_ne_nil_of_right_ne_nil _ Nat.toDigits_ne_nil
  obtain ⟨c, rest, written⟩ := List.exists_cons_of_ne_nil nonempty
  exact ⟨rest, by rw [firstChar, written, List.headD_cons]⟩

theorem symbols_int (n : Int) : symbols (.int n) = text (toString n) := by
  rw [symbols, tokens, ofTokens_cons, ofTokens_nil, List.append_nil, ofToken]

theorem exists_symbols_eq (value : Value) : ∃ rest, value.symbols = value.initial :: rest := by
  cases value with
  | int n =>
    obtain ⟨rest, written⟩ := exists_toString_eq n
    exact ⟨rest.map .char, by rw [symbols_int, text, written, List.map_cons, initial]⟩
  | bool b => cases b <;> exact ⟨_, rfl⟩
  | _ => exact ⟨_, rfl⟩

/-- Integers begin with none of the letters that other values begin with. -/
theorem firstChar_ne_letter (n : Int) :
    firstChar n ≠ 'N' ∧ firstChar n ≠ 't' ∧ firstChar n ≠ 'f' ∧ firstChar n ≠ 'A' :=
  ⟨firstChar_ne (by decide) n, firstChar_ne (by decide) n, firstChar_ne (by decide) n,
    firstChar_ne (by decide) n⟩

/-- What begins like an integer is one. -/
theorem exists_int_of_initial_eq {n : Int} {other : Value}
    (start : initial (.int n) = other.initial) : ∃ m, other = .int m := by
  have letters := firstChar_ne_letter n
  cases other <;> grind [initial]

/-- What begins like an array is one. -/
theorem exists_array_of_initial_eq {items : List Value} {other : Value}
    (start : initial (.array items) = other.initial) : ∃ others, other = .array others := by
  have letters := firstChar_ne_letter
  cases other <;> grind [initial]

/-- No other value begins like a value that is neither an integer nor an array. -/
theorem eq_of_initial_eq {value other : Value} (notInt : ∀ n, value ≠ .int n)
    (notArray : ∀ items, value ≠ .array items) (start : value.initial = other.initial) :
    value = other := by
  have letters := firstChar_ne_letter
  cases value <;> cases other <;> grind [initial]

/-- A value begins in a way that an expression can. -/
theorem opens_initial (value : Value) : value.initial.Opens := by
  cases value with
  | int n =>
    have ne {c : Char} (other : c ≠ '-' ∧ c.isDigit = false) := firstChar_ne other n
    simp [initial, Opens, ne]
  | bool b => cases b <;> simp [initial, Opens]
  | _ => simp [initial, Opens]

theorem exists_opens (value : Value) :
    ∃ first others, value.symbols = first :: others ∧ first.Opens := by
  obtain ⟨others, begins⟩ := exists_symbols_eq value
  exact ⟨_, others, begins, opens_initial value⟩

/-- A value begins neither with a parenthesis nor with a name. -/
theorem initial_ne (value : Value) :
    value.initial ≠ .char '(' ∧ ∀ name, value.initial ≠ .quoted name := by
  cases value with
  | int n =>
    have ne : firstChar n ≠ '(' := firstChar_ne (by decide) n
    simp [initial, ne]
  | bool b => cases b <;> simp [initial]
  | _ => simp [initial]

/-- Integers are read back digit by digit. -/
theorem eq_of_text_toString_append_eq {n m : Int} {rest further : List Symbol}
    (ends : Closes rest) (endsToo : Closes further)
    (same : text (toString n) ++ rest = text (toString m) ++ further) :
    n = m ∧ rest = further := by
  let numeric : Symbol → Bool
    | .char c => c = '-' || c.isDigit
    | _ => false
  have all (n : Int) : ∀ symbol ∈ text (toString n), numeric symbol := by
    intro symbol member
    obtain ⟨c, digit, rfl⟩ := List.mem_map.1 member
    simpa [numeric] using eq_minus_or_isDigit_of_mem_toString digit
  have stops {rest : List Symbol} (ends : Closes rest) : rest.takeWhile numeric = [] := by
    cases rest with
    | nil => rfl
    | cons symbol others =>
      cases symbol with
      | char c =>
        have closing : c = ' ' ∨ c = ',' ∨ c = ')' ∨ c = ']' := by simpa [Closes] using ends
        rcases closing with rfl | rfl | rfl | rfl <;> rfl
      | quoted _ => rfl
      | parameter _ => rfl
  obtain ⟨texts, rests⟩ := eq_of_append_eq_append (all n) (all m) (stops ends) (stops endsToo) same
  have chars := List.map_injective_iff.2 (fun _ _ => Symbol.char.inj) texts
  exact ⟨Int.repr_inj.1 (String.toList_inj.1 chars), rests⟩

mutual

/-- Values are read back. -/
theorem readable : (value : Value) → Readable Closes symbols value
  | .int n => by
    intro other rest further ends endsToo same
    have start := initial_eq_of_append_eq exists_symbols_eq same
    obtain ⟨m, rfl⟩ := exists_int_of_initial_eq start
    rw [symbols_int, symbols_int] at same
    obtain ⟨rfl, rests⟩ := eq_of_text_toString_append_eq ends endsToo same
    exact ⟨rfl, rests⟩
  | .array items => by
    intro other rest further _ _ same
    have start := initial_eq_of_append_eq exists_symbols_eq same
    obtain ⟨others, rfl⟩ := exists_array_of_initial_eq start
    rw [symbols_array_append, symbols_array_append] at same
    have listedSame := List.append_cancel_left same
    rw [← List.append_assoc, ← List.append_assoc] at listedSame
    obtain ⟨rfl, rests⟩ := (readable_listed exists_opens (allReadable items)).closed
      (fun _ => by simp [text, ClosesList]) listedSame
    exact ⟨rfl, rests⟩
  | .null | .bool _ | .float _ | .string _ | .uuid _ | .enum .. | .entity _ => by
    intro other rest further _ _ same
    have start := initial_eq_of_append_eq exists_symbols_eq same
    obtain rfl := eq_of_initial_eq (by simp) (by simp) start
    exact ⟨rfl, List.append_cancel_left same⟩

/-- Each of several values is read back. -/
theorem allReadable : (items : List Value) → ∀ item ∈ items, Readable Closes symbols item
  | [] => by simp
  | item :: rest => List.forall_mem_cons.2 ⟨readable item, allReadable rest⟩

end

end Value

end EntityGraph
