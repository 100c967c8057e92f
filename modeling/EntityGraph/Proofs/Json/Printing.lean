import EntityGraph.Json.Printer
import EntityGraph.Json.Reader
import EntityGraph.Proofs.Numerals
import EntityGraph.Proofs.Outcome

/-!
# JSON text is read back

A value that is written over several lines and read again is the same value, with the members of
its objects in the same order, provided that its numbers are integers of 64 bits and that it is
not nested too deeply. Every part of a value is written in front of what follows it, and reading
the part stops exactly there.
-/

namespace EntityGraph

namespace Json

/-- Whether every number in a JSON value is an integer that fits 64 bits. -/
inductive Integral : Json → Prop where
  | null : Integral .null
  | bool (b : Bool) : Integral (.bool b)
  | number {n : Int} (least : Number.leastSigned ≤ n) (greatest : n ≤ Number.greatestUnsigned) :
    Integral (.number (.int n))
  | string (s : String) : Integral (.string s)
  | array {items : List Json} (each : ∀ item ∈ items, Integral item) : Integral (.array items)
  | object {members : List (String × Json)} (each : ∀ member ∈ members, Integral member.2) :
    Integral (.object members)

/-- Whether something is read and leaves a rest of the text, however many bytes that takes. -/
def Gives {α : Type} (outcome : Except Fault (α × Cursor)) (value : α) (rest : List Char) : Prop :=
  ∃ offset, outcome = .ok (value, ⟨rest, offset⟩)

/-- What is read first decides what is read next. -/
theorem Gives.bind {α β : Type} {first : Except Fault (α × Cursor)} {value : α}
    {middle rest : List Char} {next : α × Cursor → Except Fault (β × Cursor)} {result : β}
    (gives : Gives first value middle)
    (after : ∀ offset, Gives (next (value, ⟨middle, offset⟩)) result rest) :
    Gives (first >>= next) result rest := by
  obtain ⟨offset, rfl⟩ := gives
  exact after offset

/-! ## Blanks -/

theorem skipBlanks_of_not_blank {c : Char} (solid : isBlank c = false) (offset : Nat)
    (rest : List Char) : skipBlanks offset (c :: rest) = ⟨c :: rest, offset⟩ := by
  rw [skipBlanks, if_neg (by simp [solid])]

/-- Blanks are skipped. -/
theorem skipBlanks_append {blanks : List Char} (blank : ∀ c ∈ blanks, isBlank c = true)
    (offset : Nat) (rest : List Char) :
    skipBlanks offset (blanks ++ rest) = skipBlanks (offset + blanks.length) rest := by
  induction blanks generalizing offset with
  | nil => rfl
  | cons c blanks inductionHypothesis =>
    rw [List.forall_mem_cons] at blank
    rw [List.cons_append, skipBlanks, if_pos blank.1, inductionHypothesis blank.2,
      List.length_cons, Nat.add_assoc, Nat.add_comm 1]

/-- The start of a line is blank. -/
theorem isBlank_of_mem_lineStart {level : Nat} : ∀ c ∈ lineStart level, isBlank c = true := by
  intro c member
  rcases List.mem_cons.1 member with rfl | member
  · rfl
  · rw [List.eq_of_mem_replicate member]
    rfl

/-- The start of a line is skipped. -/
theorem skipBlanks_lineStart {c : Char} (solid : isBlank c = false) (level offset : Nat)
    (rest : List Char) :
    skipBlanks offset (lineStart level ++ c :: rest) =
      ⟨c :: rest, offset + (lineStart level).length⟩ := by
  rw [skipBlanks_append isBlank_of_mem_lineStart, skipBlanks_of_not_blank solid]

/-! ## Strings -/

theorem hexValue?_digitChar : ∀ digit < 16, Text.hexValue? (Nat.digitChar digit) = some digit := by
  decide

/-- The four digits of a code unit are read back. -/
theorem readUnit_hexPlaces {n : Nat} (small : n < 65536) (offset : Nat) (rest : List Char) :
    readUnit ⟨Text.hexPlaces 4 n ++ rest, offset⟩ = .ok (n, ⟨rest, offset + 4⟩) := by
  have digit (m : Nat) := hexValue?_digitChar (m % 16) (Nat.mod_lt m (by decide))
  have whole : ((n / 16 / 16 / 16 % 16 * 16 + n / 16 / 16 % 16) * 16 + n / 16 % 16) * 16 + n % 16 =
      n := by
    omega
  simp [Text.hexPlaces, readUnit, digit, whole]

/-- A control is read back. -/
theorem readEscape_control {c : Char} (control : c.toNat < 32) (offset : Nat) (rest : List Char) :
    readEscape ⟨'u' :: Text.hexPlaces 4 c.toNat ++ rest, offset⟩ = .ok (c, ⟨rest, offset + 5⟩) := by
  have unit := readUnit_hexPlaces (n := c.toNat) (by omega) (offset + 1) rest
  have noSecond : ¬ (0xDC00 ≤ c.toNat ∧ c.toNat ≤ 0xDFFF) := by omega
  have noFirst : ¬ (0xD800 ≤ c.toNat ∧ c.toNat ≤ 0xDBFF) := by omega
  simp [readEscape, readCodePoint, unit, noSecond, noFirst, bind, Except.bind, pure, Except.pure]

/-- A character of a string is read back, and then the characters behind it. -/
theorem readChars_escaped (fuel offset : Nat) (c : Char) (rest : List Char) :
    ∃ offset', readChars (fuel + 1) ⟨escaped c ++ rest, offset⟩ = (do
      let (values, cursor) ← readChars fuel ⟨rest, offset'⟩
      return (c :: values, cursor)) := by
  have known {d : Char} (same : c.toNat = d.toNat) : c = d := Char.toNat_inj.1 same
  unfold escaped
  split_ifs with quote backslash eight nine ten twelve thirteen control
  · subst quote
    exact ⟨_, rfl⟩
  · subst backslash
    exact ⟨_, rfl⟩
  · obtain rfl := known (d := '\x08') eight
    exact ⟨_, rfl⟩
  · obtain rfl := known (d := '\t') nine
    exact ⟨_, rfl⟩
  · obtain rfl := known (d := '\n') ten
    exact ⟨_, rfl⟩
  · obtain rfl := known (d := '\x0c') twelve
    exact ⟨_, rfl⟩
  · obtain rfl := known (d := '\r') thirteen
    exact ⟨_, rfl⟩
  · refine ⟨offset + 1 + 5, ?_⟩
    have escape := readEscape_control control (offset + 1) rest
    rw [List.cons_append] at escape
    rw [controlEscape, readChars]
    simp [escape, bind, Except.bind]
  · refine ⟨offset + c.utf8Size, ?_⟩
    simp [readChars, quote, backslash, control]

theorem length_escaped_pos (c : Char) : 0 < (escaped c).length := by
  unfold escaped
  split_ifs <;> simp [controlEscape]

/-- The characters of a string are read back up to its closing quote. -/
theorem gives_readChars {rest : List Char} (chars : List Char) :
    ∀ {fuel : Nat} (offset : Nat), (chars.flatMap escaped).length < fuel →
      Gives (readChars fuel ⟨chars.flatMap escaped ++ '"' :: rest, offset⟩) chars rest := by
  induction chars with
  | nil =>
    rintro (_ | fuel) offset enough
    · cases enough
    · exact ⟨offset + 1, rfl⟩
  | cons c chars inductionHypothesis =>
    rintro (_ | fuel) offset enough
    · cases enough
    · have positive := length_escaped_pos c
      rw [List.flatMap_cons, List.length_append] at enough
      obtain ⟨next, continues⟩ :=
        readChars_escaped fuel offset c (chars.flatMap escaped ++ '"' :: rest)
      rw [List.flatMap_cons, List.append_assoc, continues]
      exact (inductionHypothesis next (by omega)).bind fun last => ⟨last, rfl⟩

/-- A string starts with a quote. -/
theorem stringChars_append (s : String) (rest : List Char) :
    stringChars s ++ rest = '"' :: (s.toList.flatMap escaped ++ '"' :: rest) := by
  simp [stringChars]

/-! ## Numbers -/

/-- Whether a text can come behind a value: it ends or goes on with a comma or a new line. -/
def Stops (rest : List Char) : Prop :=
  ∀ c ∈ rest.head?, c = ',' ∨ c = '\n'

/-- Digits are read up to something that stops them. -/
theorem leadingDigits_append {digits rest : List Char} (each : ∀ c ∈ digits, c.isDigit = true)
    (stops : Stops rest) : leadingDigits (digits ++ rest) = digits := by
  rw [leadingDigits, List.takeWhile_append_of_pos each]
  cases rest with
  | nil => simp
  | cons c rest =>
    rcases stops c rfl with rfl | rfl <;> simp

/-- The digits of a number that fits 64 bits are taken in as the number. -/
theorem wholeDigits_toDigits {n : Nat} (fits : n ≤ Number.greatestUnsigned) :
    wholeDigits (Nat.toDigits 10 n) = (n, 0) := by
  have value : ∀ digit < 10, digitValue (Nat.digitChar digit) = digit := by decide
  induction n using Nat.strongRecOn with
  | _ n inductionHypothesis =>
    rw [Nat.toDigits_eq_if (by decide)]
    split
    · next small =>
      simp [wholeDigits, value n small, fits]
    · next large =>
      have front := inductionHypothesis (n / 10) (by omega) (by omega)
      have next : n / 10 * 10 + n % 10 = n := by omega
      rw [wholeDigits] at front ⊢
      rw [List.foldl_append, front]
      simp [value (n % 10) (by omega), next, fits]

/-- A numeral is read back as the number that it stands for, with or without a sign in front. -/
theorem gives_readNumber {n : Nat} (fits : n ≤ Number.greatestUnsigned) (negative : Bool)
    (offset : Nat) {rest : List Char} (stops : Stops rest) :
    Gives (readNumber negative ⟨Nat.toDigits 10 n ++ rest, offset⟩) (wholeNumber negative n)
      rest := by
  have digits : leadingDigits (Nat.toDigits 10 n ++ rest) = Nat.toDigits 10 n :=
    leadingDigits_append
      (fun c member => Nat.isDigit_of_mem_toDigits (by decide) (by decide) member) stops
  unfold readNumber
  rw [digits]
  split
  · next none => exact absurd none Nat.toDigits_ne_nil
  · next leading =>
    rcases Nat.eq_zero_or_pos n with rfl | positive
    · simp at leading
    · exact absurd (by rw [leading]; rfl) (head?_toDigits_ne_zero positive)
  · refine ⟨offset + (Nat.toDigits 10 n).length, ?_⟩
    simp only [wholeDigits_toDigits fits, List.drop_left]
    split
    · exact absurd (stops '.' rfl) (by decide)
    · exact absurd (stops 'e' rfl) (by decide)
    · exact absurd (stops 'E' rfl) (by decide)
    · rfl

/-! ## Values -/

/-- Whether a character opens a value: it is no blank and closes no list. -/
def Opens (c : Char) : Prop :=
  isBlank c = false ∧ c ≠ ']'

/-- The text of an integer starts with a sign or a digit. -/
theorem exists_text_int (n : Int) : ∃ first tail, (Number.int n).text.toList = first :: tail ∧
    (first = '-' ∨ first.isDigit = true) := by
  have nonempty : (Number.int n).text.toList ≠ [] := by
    rw [Number.text, toList_toString_int]
    exact List.append_ne_nil_of_right_ne_nil _ Nat.toDigits_ne_nil
  obtain ⟨first, tail, same⟩ := List.exists_cons_of_ne_nil nonempty
  exact ⟨first, tail, same, eq_minus_or_isDigit_of_mem_toString (same ▸ List.mem_cons_self)⟩

theorem opens_of_minus_or_isDigit {c : Char} (numeral : c = '-' ∨ c.isDigit = true) : Opens c := by
  have other {d : Char} (noMinus : d ≠ '-') (noDigit : d.isDigit = false) : c ≠ d := by
    rintro rfl
    rcases numeral with rfl | digit
    · exact noMinus rfl
    · rw [noDigit] at digit
      cases digit
  refine ⟨?_, other (by decide) (by decide)⟩
  simp [isBlank, other (d := ' '), other (d := '\n'), other (d := '\t'), other (d := '\r')]

/-- A value is written with a character that opens it. -/
theorem Integral.exists_prettyChars_eq {json : Json} (integral : json.Integral) (level : Nat) :
    ∃ first tail, json.prettyChars level = first :: tail ∧ Opens first := by
  cases integral with
  | null => exact ⟨_, _, rfl, ⟨by decide, by decide⟩⟩
  | bool b => cases b <;> exact ⟨_, _, rfl, ⟨by decide, by decide⟩⟩
  | @number n =>
    obtain ⟨first, tail, same, numeral⟩ := exists_text_int n
    exact ⟨first, tail, same, opens_of_minus_or_isDigit numeral⟩
  | string s => exact ⟨_, _, rfl, ⟨by decide, by decide⟩⟩
  | @array items => cases items <;> exact ⟨_, _, rfl, ⟨by decide, by decide⟩⟩
  | @object members => cases members <;> exact ⟨_, _, rfl, ⟨by decide, by decide⟩⟩

/-- Whether a value is read back from its text, in front of everything that can come behind it. -/
def ReadsBack (json : Json) : Prop :=
  ∀ (level : Nat) {fuel depth : Nat} (offset : Nat) {rest : List Char}, json.depth ≤ depth →
    (json.prettyChars level).length < fuel → Stops rest →
      Gives (readValue fuel depth .any ⟨json.prettyChars level ++ rest, offset⟩) json rest

/-- A character that opens neither a list nor an object opens a scalar. -/
theorem readValue_scalar {c : Char} (solid : isBlank c = false) (noList : c ≠ '[')
    (noObject : c ≠ '\x7b') (fuel depth offset : Nat) (rest : List Char) :
    readValue (fuel + 1) depth .any ⟨c :: rest, offset⟩ =
      readScalar fuel .any ⟨c :: rest, offset⟩ := by
  unfold readValue
  simp only [Cursor.pastBlanks, skipBlanks_of_not_blank solid]
  split
  · next impossible => cases impossible
  · next impossible => cases impossible
  · next same _ _ => exact absurd (List.cons.inj same).1 noList
  · next same _ _ => exact absurd (List.cons.inj same).1 noObject
  · rfl

/-- A digit opens a number. -/
theorem readScalar_digit {c : Char} (digit : c.isDigit = true) (fuel offset : Nat)
    (rest : List Char) :
    readScalar fuel .any ⟨c :: rest, offset⟩ = (do
      let (value, after) ← readNumber false ⟨c :: rest, offset⟩
      return (.number value, after)) := by
  have other {d : Char} (noDigit : d.isDigit = false) : c ≠ d := by
    rintro rfl
    rw [noDigit] at digit
    cases digit
  unfold readScalar
  split
  all_goals
    first
      | next impossible => cases impossible
      | next same => exact absurd (List.cons.inj same).1 (other (by decide))
      | next same =>
        obtain ⟨rfl, rfl⟩ := List.cons.inj same
        rw [if_pos digit]
        rfl

theorem readsBack_null : ReadsBack .null := by
  rintro level (_ | fuel) depth offset rest _ enough _
  · cases enough
  · rw [prettyChars, nullChars, List.cons_append,
      readValue_scalar (by decide) (by decide) (by decide)]
    exact ⟨_, rfl⟩

theorem readsBack_bool (b : Bool) : ReadsBack (.bool b) := by
  rintro level (_ | fuel) depth offset rest _ enough _
  · cases enough
  · cases b
    all_goals
      rw [prettyChars, boolChars]
      exact ⟨_, readValue_scalar (by decide) (by decide) (by decide) _ _ _ _⟩

theorem readsBack_string (s : String) : ReadsBack (.string s) := by
  rintro level (_ | fuel) depth offset rest _ enough _
  · cases enough
  · have fits : (s.toList.flatMap escaped).length < fuel := by
      simp only [prettyChars, stringChars, List.length_append, List.length_cons] at enough
      omega
    rw [prettyChars, stringChars_append, readValue_scalar (by decide) (by decide) (by decide),
      readScalar]
    refine (gives_readChars s.toList (offset + 1) fits).bind fun last => ⟨last, ?_⟩
    simp [scalar, Shape.accepts]

/-- Digits are read as the number that they write. -/
theorem gives_readValue_digits {n fuel depth : Nat} (fits : n ≤ Number.greatestUnsigned)
    (offset : Nat) {rest : List Char} (stops : Stops rest) :
    Gives (readValue (fuel + 1) depth .any ⟨Nat.toDigits 10 n ++ rest, offset⟩)
      (.number (.int n)) rest := by
  obtain ⟨first, tail, same⟩ := List.exists_cons_of_ne_nil
    (Nat.toDigits_ne_nil (n := n) (b := 10))
  have digit : first.isDigit = true :=
    Nat.isDigit_of_mem_toDigits (by decide) (by decide) (same ▸ List.mem_cons_self)
  have opens := opens_of_minus_or_isDigit (.inr digit)
  have noList : first ≠ '[' := by
    rintro rfl
    cases digit
  have noObject : first ≠ '\x7b' := by
    rintro rfl
    cases digit
  have number : wholeNumber false n = .int n := by
    rw [wholeNumber, if_pos (by decide)]
  have reads := gives_readNumber fits false offset stops
  rw [same, List.cons_append] at reads ⊢
  rw [readValue_scalar opens.1 noList noObject, readScalar_digit digit]
  refine reads.bind fun last => ⟨last, ?_⟩
  rw [number]
  rfl

/-- Digits behind a sign are read as the opposite number. -/
theorem gives_readValue_minus {n fuel depth : Nat} (nonzero : n ≠ 0)
    (fits : n ≤ Number.greatestSigned + 1) (offset : Nat) {rest : List Char}
    (stops : Stops rest) :
    Gives (readValue (fuel + 1) depth .any ⟨'-' :: (Nat.toDigits 10 n ++ rest), offset⟩)
      (.number (.int (-n))) rest := by
  have small : n ≤ Number.greatestUnsigned := by
    simp only [Number.greatestSigned, Number.greatestUnsigned] at fits ⊢
    omega
  have number : wholeNumber true n = .int (-n) := by
    rw [wholeNumber, if_neg (by decide), if_neg (by omega)]
  rw [readValue_scalar (by decide) (by decide) (by decide), readScalar]
  refine (gives_readNumber small true (offset + 1) stops).bind fun last => ⟨last, ?_⟩
  rw [number]
  rfl

theorem readsBack_number {n : Int} (least : Number.leastSigned ≤ n)
    (greatest : n ≤ Number.greatestUnsigned) : ReadsBack (.number (.int n)) := by
  rintro level (_ | fuel) depth offset rest _ enough stops
  · cases enough
  · have written : (Json.number (.int n)).prettyChars level =
        (if n < 0 then ['-'] else []) ++ Nat.toDigits 10 n.natAbs := by
      rw [prettyChars]
      exact toList_toString_int n
    simp only [Number.leastSigned, Number.greatestUnsigned] at least greatest
    rw [written]
    split
    · next negative =>
      obtain ⟨m, rfl⟩ := Int.eq_negSucc_of_lt_zero negative
      exact gives_readValue_minus (Nat.succ_ne_zero m)
        (by simp only [Number.greatestSigned]; omega) offset stops
    · next natural =>
      obtain ⟨m, rfl⟩ := Int.eq_ofNat_of_zero_le (Int.not_lt.1 natural)
      exact gives_readValue_digits (by simp only [Number.greatestUnsigned]; omega) offset stops

/-! ## Lists -/

/-- The end of a list stops what stands in front of it. -/
theorem stops_lineStart (level : Nat) (rest : List Char) : Stops (lineStart level ++ rest) := by
  rintro c ⟨⟩
  exact .inr rfl

/-- The other items of a list stop what stands in front of them. -/
theorem stops_prettyItems (level : Nat) (items : List Json) (rest : List Char) :
    Stops (prettyItems (level + 1) items ++ (lineStart level ++ rest)) := by
  cases items with
  | nil => exact stops_lineStart level rest
  | cons item items =>
    rintro c ⟨⟩
    exact .inl rfl

/-- An item behind others follows a comma on a line of its own. -/
theorem toItem_comma {first : Char} (solid : isBlank first = false) (noBracket : first ≠ ']')
    (position level offset : Nat) (rest : List Char) :
    toItem (position + 1) ⟨',' :: (lineStart level ++ first :: rest), offset⟩ =
      .ok ⟨first :: rest, offset + 1 + (lineStart level).length⟩ := by
  rw [toItem]
  · rw [skipBlanks_lineStart solid]
    split
    · next closes => exact absurd (List.cons.inj closes).1 noBracket
    · rfl
  · rfl

/-- An item is read, and then the items behind it. -/
theorem gives_readItems_cons {fuel depth position : Nat} {cursor next : Cursor} {item : Json}
    {items : List Json} {middle rest : List Char} (goesOn : cursor.pastBlanks.rest.head? ≠ some ']')
    (reached : toItem position cursor.pastBlanks = .ok next)
    (first : Gives (readValue fuel depth .any next) item middle)
    (others : ∀ offset,
      Gives (readItems fuel depth .any (position + 1) ⟨middle, offset⟩) items rest) :
    Gives (readItems (fuel + 1) depth .any position cursor) (item :: items) rest := by
  rw [readItems]
  split
  · next closes => simp [closes] at goesOn
  · next impossible _ => cases impossible
  · next found _ =>
    cases found
    simp only [reached, bind, Except.bind]
    exact first.bind fun offset => (others offset).bind fun last => ⟨last, rfl⟩

/-- The items of a list behind its first are read up to its bracket. -/
theorem gives_readItems {items : List Json} (integral : ∀ item ∈ items, item.Integral)
    (each : ∀ item ∈ items, ReadsBack item) (level : Nat) {depth : Nat} {rest : List Char} :
    ∀ {fuel : Nat} (position offset : Nat), itemsDepth items ≤ depth →
      (prettyItems (level + 1) items ++ lineStart level).length < fuel →
        Gives (readItems fuel depth .any (position + 1)
          ⟨prettyItems (level + 1) items ++ (lineStart level ++ ']' :: rest), offset⟩)
          items rest := by
  induction items with
  | nil =>
    rintro (_ | fuel) position offset _ enough
    · cases enough
    · have reached : (Cursor.mk (lineStart level ++ ']' :: rest) offset).pastBlanks =
          ⟨']' :: rest, offset + (lineStart level).length⟩ :=
        skipBlanks_lineStart (by decide) level offset rest
      rw [prettyItems, List.nil_append, readItems, reached]
      exact ⟨_, rfl⟩
  | cons item items inductionHypothesis =>
    rintro (_ | fuel) position offset shallow enough
    · cases enough
    · rw [List.forall_mem_cons] at integral each
      rw [itemsDepth, Nat.max_le] at shallow
      simp only [prettyItems, List.length_append, List.length_cons] at enough
      obtain ⟨first, tail, same, solid, noBracket⟩ := integral.1.exists_prettyChars_eq (level + 1)
      have written : prettyItems (level + 1) (item :: items) ++ (lineStart level ++ ']' :: rest) =
          ',' :: (lineStart (level + 1) ++ (item.prettyChars (level + 1) ++
            (prettyItems (level + 1) items ++ (lineStart level ++ ']' :: rest)))) := by
        simp [prettyItems]
      rw [written]
      have comma (behind : List Char) :
          (Cursor.mk (',' :: behind) offset).pastBlanks = ⟨',' :: behind, offset⟩ :=
        skipBlanks_of_not_blank (by decide) offset behind
      refine gives_readItems_cons ?_ ?_
        (each.1 (level + 1) (offset + 1 + (lineStart (level + 1)).length) shallow.1 (by omega)
          (stops_prettyItems level items _))
        fun last => inductionHypothesis integral.2 each.2 (position + 1) last shallow.2 ?_
      · simp [comma]
      · rw [comma, same]
        exact toItem_comma solid noBracket position (level + 1) offset _
      · rw [List.length_append]
        omega

/-- The items of a list that has some are read up to its bracket, the first on a line of its own. -/
theorem gives_readItems_first {item : Json} {items : List Json}
    (integral : ∀ each ∈ item :: items, each.Integral)
    (each : ∀ each ∈ item :: items, ReadsBack each) (level : Nat) {fuel depth : Nat}
    (offset : Nat) {rest : List Char} (shallow : itemsDepth (item :: items) ≤ depth)
    (enough : (item.prettyChars (level + 1)).length +
      (prettyItems (level + 1) items ++ lineStart level).length < fuel) :
    Gives (readItems (fuel + 1) depth .any 0
      ⟨lineStart (level + 1) ++ (item.prettyChars (level + 1) ++
        (prettyItems (level + 1) items ++ (lineStart level ++ ']' :: rest))), offset⟩)
      (item :: items) rest := by
  rw [List.forall_mem_cons] at integral each
  rw [itemsDepth, Nat.max_le] at shallow
  obtain ⟨first, tail, same, solid, noBracket⟩ := integral.1.exists_prettyChars_eq (level + 1)
  have reached (behind : List Char) :
      (Cursor.mk (lineStart (level + 1) ++ (item.prettyChars (level + 1) ++ behind))
        offset).pastBlanks = ⟨item.prettyChars (level + 1) ++ behind,
          offset + (lineStart (level + 1)).length⟩ := by
    rw [same]
    exact skipBlanks_lineStart solid (level + 1) offset _
  refine gives_readItems_cons ?_ ?_
    (each.1 (level + 1) (offset + (lineStart (level + 1)).length) shallow.1 (by omega)
      (stops_prettyItems level items _))
    fun last => gives_readItems integral.2 each.2 level 0 last shallow.2 (by omega)
  · rw [reached, same]
    simpa using noBracket
  · rw [reached, same]
    rfl

/-! ## Objects -/

/-- The other members of an object stop what stands in front of them. -/
theorem stops_prettyMembers (level : Nat) (members : List (String × Json)) (rest : List Char) :
    Stops (prettyMembers (level + 1) members ++ (lineStart level ++ rest)) := by
  cases members with
  | nil => exact stops_lineStart level rest
  | cons member members =>
    rintro c ⟨⟩
    exact .inl rfl

/-- A name is read back. -/
theorem gives_readName {name : String} {fuel : Nat} (offset : Nat)
    (fits : (stringChars name).length ≤ fuel) (rest : List Char) :
    Gives (readName fuel ⟨stringChars name ++ ':' :: rest, offset⟩) name (':' :: rest) := by
  simp only [stringChars, List.length_append, List.length_cons] at fits
  rw [stringChars_append, readName]
  refine (gives_readChars name.toList (offset + 1) (by omega)).bind fun last => ⟨last, ?_⟩
  simp [Cursor.pastBlanks, skipBlanks_of_not_blank, isBlank, pure, Except.pure]

/-- A blank in front of a value is skipped. -/
theorem Gives.readValue_blank {fuel depth offset : Nat} {chars rest : List Char} {value : Json}
    (reads : Gives (readValue fuel depth .any ⟨chars, offset + 1⟩) value rest) :
    Gives (readValue fuel depth .any ⟨' ' :: chars, offset⟩) value rest := by
  cases fuel with
  | zero =>
    obtain ⟨_, impossible⟩ := reads
    rw [readValue] at impossible
    cases impossible
  | succ fuel =>
    unfold readValue at reads ⊢
    exact reads

/-- A member is read, and then the members behind it. -/
theorem gives_readMembers_cons {fuel depth : Nat} {earlier : List String} {cursor : Cursor}
    {offset : Nat} {name : String} {value : Json} {members : List (String × Json)} {next : Char}
    {tail chars middle rest : List Char} (goesOn : cursor.pastBlanks.rest = next :: tail)
    (noBrace : next ≠ '\x7d')
    (reached : toMember earlier.isEmpty cursor.pastBlanks =
      .ok ⟨stringChars name ++ ':' :: ' ' :: chars, offset⟩)
    (fits : (stringChars name).length ≤ fuel)
    (first : ∀ offset, Gives (readValue fuel depth .any ⟨chars, offset⟩) value middle)
    (others : ∀ offset,
      Gives (readMembers fuel depth .any (name :: earlier) ⟨middle, offset⟩) members rest) :
    Gives (readMembers (fuel + 1) depth .any earlier cursor) ((name, value) :: members) rest := by
  rw [readMembers]
  split
  · next ends => simp [goesOn] at ends
  · next closes => exact absurd (List.cons.inj (goesOn.symm.trans closes)).1 noBrace
  · simp only [reached, bind, Except.bind]
    refine (gives_readName offset fits _).bind fun afterName => ?_
    have colon : readColon ⟨':' :: ' ' :: chars, afterName⟩ = .ok ⟨' ' :: chars, afterName + 1⟩ :=
      rfl
    have unknown : Shape.any.repeated name earlier = false := rfl
    simp only [unknown, colon]
    exact (first _).readValue_blank.bind fun afterValue =>
      (others afterValue).bind fun last => ⟨last, rfl⟩

/-- A member behind others follows a comma on a line of its own. -/
theorem toMember_comma (level offset : Nat) (name : String) (rest : List Char) :
    toMember false ⟨',' :: (lineStart level ++ (stringChars name ++ rest)), offset⟩ =
      .ok ⟨stringChars name ++ rest, offset + 1 + (lineStart level).length⟩ := by
  rw [toMember]
  · rw [stringChars, List.cons_append, List.cons_append,
      skipBlanks_lineStart (c := '"') (by decide)]
    rfl
  · rfl

/-- The members of an object behind some `earlier` ones are read up to its brace. -/
theorem gives_readMembers {members : List (String × Json)}
    (each : ∀ member ∈ members, ReadsBack member.2) (level : Nat) {depth : Nat}
    {rest : List Char} :
    ∀ {fuel : Nat} {earlier : List String} (offset : Nat), earlier ≠ [] →
      membersDepth members ≤ depth →
      (prettyMembers (level + 1) members ++ lineStart level).length < fuel →
        Gives (readMembers fuel depth .any earlier
          ⟨prettyMembers (level + 1) members ++ (lineStart level ++ '\x7d' :: rest), offset⟩)
          members rest := by
  induction members with
  | nil =>
    rintro (_ | fuel) earlier offset _ _ enough
    · cases enough
    · have reached : (Cursor.mk (lineStart level ++ '\x7d' :: rest) offset).pastBlanks =
          ⟨'\x7d' :: rest, offset + (lineStart level).length⟩ :=
        skipBlanks_lineStart (by decide) level offset rest
      rw [prettyMembers, List.nil_append, readMembers, reached]
      exact ⟨_, rfl⟩
  | cons member members inductionHypothesis =>
    obtain ⟨name, value⟩ := member
    rintro (_ | fuel) earlier offset nonempty shallow enough
    · cases enough
    · rw [List.forall_mem_cons] at each
      rw [membersDepth, Nat.max_le] at shallow
      simp only [prettyMembers, List.length_append, List.length_cons] at enough
      have written : prettyMembers (level + 1) ((name, value) :: members) ++
            (lineStart level ++ '\x7d' :: rest) =
          ',' :: (lineStart (level + 1) ++ (stringChars name ++ ':' :: ' ' ::
            (value.prettyChars (level + 1) ++
              (prettyMembers (level + 1) members ++ (lineStart level ++ '\x7d' :: rest))))) := by
        simp [prettyMembers]
      have comma (behind : List Char) :
          (Cursor.mk (',' :: behind) offset).pastBlanks = ⟨',' :: behind, offset⟩ :=
        skipBlanks_of_not_blank (by decide) offset behind
      have later : earlier.isEmpty = false := by simpa using nonempty
      have reads : value.ReadsBack := each.1
      rw [written]
      refine gives_readMembers_cons (congrArg Cursor.rest (comma _)) (by decide)
        (by rw [later, comma]; exact toMember_comma (level + 1) offset name _) (by omega)
        (fun afterName => reads (level + 1) afterName shallow.1 (by omega)
          (stops_prettyMembers level members _))
        fun last => inductionHypothesis each.2 last (by simp) shallow.2 ?_
      rw [List.length_append]
      omega

/-- The members of an object that has some are read up to its brace, the first on a line of its
own. -/
theorem gives_readMembers_first {name : String} {value : Json} {members : List (String × Json)}
    (first : value.ReadsBack) (others : ∀ member ∈ members, ReadsBack member.2) (level : Nat)
    {fuel depth : Nat} (offset : Nat) {rest : List Char}
    (shallow : membersDepth ((name, value) :: members) ≤ depth)
    (enough : (stringChars name).length + (value.prettyChars (level + 1)).length +
      (prettyMembers (level + 1) members ++ lineStart level).length < fuel) :
    Gives (readMembers (fuel + 1) depth .any []
      ⟨lineStart (level + 1) ++ (stringChars name ++ ':' :: ' ' ::
        (value.prettyChars (level + 1) ++
          (prettyMembers (level + 1) members ++ (lineStart level ++ '\x7d' :: rest)))), offset⟩)
      ((name, value) :: members) rest := by
  rw [membersDepth, Nat.max_le] at shallow
  have reached (behind : List Char) :
      (Cursor.mk (lineStart (level + 1) ++ (stringChars name ++ behind)) offset).pastBlanks =
        ⟨stringChars name ++ behind, offset + (lineStart (level + 1)).length⟩ :=
    skipBlanks_lineStart (c := '"') (by decide) (level + 1) offset _
  exact gives_readMembers_cons
    ((congrArg Cursor.rest (reached _)).trans (stringChars_append name _)) (by decide)
    (by rw [reached]; rfl) (by omega)
    (fun afterName => first (level + 1) afterName shallow.1 (by omega)
      (stops_prettyMembers level members _))
    fun last => gives_readMembers others level last (by simp) shallow.2 (by omega)

/-! ## Whole values -/

/-- A bracket opens a list. -/
theorem readValue_bracket (fuel depth offset : Nat) (rest : List Char) :
    readValue (fuel + 1) (depth + 1) .any ⟨'[' :: rest, offset⟩ = (do
      let (items, after) ← readItems fuel depth .any 0 ⟨rest, offset + 1⟩
      return (.array items, after)) := by
  unfold readValue
  rfl

/-- A brace opens an object. -/
theorem readValue_brace (fuel depth offset : Nat) (rest : List Char) :
    readValue (fuel + 1) (depth + 1) .any ⟨'\x7b' :: rest, offset⟩ = (do
      let (members, after) ← readMembers fuel depth .any [] ⟨rest, offset + 1⟩
      return (.object members, after)) := by
  unfold readValue
  rfl

/-- A list is read back if its items are. -/
theorem readsBack_array {items : List Json} (integral : ∀ item ∈ items, item.Integral)
    (each : ∀ item ∈ items, ReadsBack item) : ReadsBack (.array items) := by
  rintro level (_ | _ | fuel) (_ | depth) offset rest shallow enough _
  · cases enough
  · cases enough
  · cases shallow
  · cases items <;> simp [prettyChars] at enough
  · cases shallow
  · rw [Json.depth, Nat.add_le_add_iff_right] at shallow
    cases items with
    | nil =>
      rw [prettyChars, List.cons_append, readValue_bracket, readItems]
      exact ⟨_, rfl⟩
    | cons item items =>
      simp only [prettyChars, List.length_append, List.length_cons] at enough
      have written : (Json.array (item :: items)).prettyChars level ++ rest =
          '[' :: (lineStart (level + 1) ++ (item.prettyChars (level + 1) ++
            (prettyItems (level + 1) items ++ (lineStart level ++ ']' :: rest)))) := by
        simp [prettyChars]
      rw [written, readValue_bracket]
      refine (gives_readItems_first integral each level (offset + 1) shallow ?_).bind
        fun last => ⟨last, rfl⟩
      rw [List.length_append]
      omega

/-- An object is read back if the values of its members are. -/
theorem readsBack_object {members : List (String × Json)}
    (each : ∀ member ∈ members, ReadsBack member.2) : ReadsBack (.object members) := by
  rintro level (_ | _ | fuel) (_ | depth) offset rest shallow enough _
  · cases enough
  · cases enough
  · cases shallow
  · cases members <;> simp [prettyChars] at enough
  · cases shallow
  · rw [Json.depth, Nat.add_le_add_iff_right] at shallow
    cases members with
    | nil =>
      rw [prettyChars, List.cons_append, readValue_brace, readMembers]
      exact ⟨_, rfl⟩
    | cons member members =>
      obtain ⟨name, value⟩ := member
      rw [List.forall_mem_cons] at each
      simp only [prettyChars, List.length_append, List.length_cons] at enough
      have written : (Json.object ((name, value) :: members)).prettyChars level ++ rest =
          '\x7b' :: (lineStart (level + 1) ++ (stringChars name ++ ':' :: ' ' ::
            (value.prettyChars (level + 1) ++
              (prettyMembers (level + 1) members ++ (lineStart level ++ '\x7d' :: rest))))) := by
        simp [prettyChars]
      have reads : value.ReadsBack := each.1
      rw [written, readValue_brace]
      refine (gives_readMembers_first reads each.2 level (offset + 1) shallow ?_).bind
        fun last => ⟨last, rfl⟩
      rw [List.length_append]
      omega

/-- A value whose numbers are integers of 64 bits is read back. -/
theorem Integral.readsBack {json : Json} (integral : json.Integral) : json.ReadsBack := by
  induction integral with
  | null => exact readsBack_null
  | bool b => exact readsBack_bool b
  | number least greatest => exact readsBack_number least greatest
  | string s => exact readsBack_string s
  | array each inductionHypothesis => exact readsBack_array each inductionHypothesis
  | object each inductionHypothesis => exact readsBack_object inductionHypothesis

/-- Whether a value has integers of 64 bits for its numbers and some levels at the most. -/
def Storable (levels : Nat) (json : Json) : Prop :=
  json.Integral ∧ json.depth ≤ levels

@[simp] theorem storable_bool (levels : Nat) (b : Bool) : Storable (levels + 1) (.bool b) :=
  ⟨.bool b, Nat.le_add_left 1 levels⟩

@[simp] theorem storable_string (levels : Nat) (s : String) : Storable (levels + 1) (.string s) :=
  ⟨.string s, Nat.le_add_left 1 levels⟩

theorem storable_int {n : Int} (least : Number.leastSigned ≤ n)
    (greatest : n ≤ Number.greatestUnsigned) (levels : Nat) :
    Storable (levels + 1) (.number (.int n)) :=
  ⟨.number least greatest, Nat.le_add_left 1 levels⟩

theorem itemsDepth_le {items : List Json} {levels : Nat}
    (each : ∀ item ∈ items, item.depth ≤ levels) : itemsDepth items ≤ levels := by
  induction items with
  | nil => exact Nat.zero_le levels
  | cons item items inductionHypothesis =>
    rw [List.forall_mem_cons] at each
    exact Nat.max_le.2 ⟨each.1, inductionHypothesis each.2⟩

theorem membersDepth_le {members : List (String × Json)} {levels : Nat}
    (each : ∀ member ∈ members, member.2.depth ≤ levels) : membersDepth members ≤ levels := by
  induction members with
  | nil => exact Nat.zero_le levels
  | cons member members inductionHypothesis =>
    rw [List.forall_mem_cons] at each
    exact Nat.max_le.2 ⟨each.1, inductionHypothesis each.2⟩

/-- A list needs one level more than its items. -/
theorem storable_array {levels : Nat} {items : List Json}
    (each : ∀ item ∈ items, item.Storable levels) : Storable (levels + 1) (.array items) :=
  ⟨.array fun item member => (each item member).1,
    Nat.succ_le_succ (itemsDepth_le fun item member => (each item member).2)⟩

/-- An object needs one level more than its members. -/
theorem storable_object {levels : Nat} {members : List (String × Json)}
    (each : ∀ member ∈ members, member.2.Storable levels) :
    Storable (levels + 1) (.object members) :=
  ⟨.object fun member isMember => (each member isMember).1,
    Nat.succ_le_succ (membersDepth_le fun member isMember => (each member isMember).2)⟩

/-- Reading the text of a value over several lines, with a line break at its end, gives the value
back. -/
theorem Storable.read_pretty {json : Json} (storable : json.Storable depthLimit) :
    Json.read (json.pretty ++ "\n") = .ok json := by
  obtain ⟨integral, shallow⟩ := storable
  have written : (json.pretty ++ "\n").toList = json.prettyChars 0 ++ ['\n'] := by
    simp [pretty]
  have reads : Gives (readValue (2 * (json.prettyChars 0 ++ ['\n']).length + 2) depthLimit .any
      ⟨json.prettyChars 0 ++ ['\n'], 0⟩) json ['\n'] :=
    integral.readsBack 0 0 shallow (by rw [List.length_append]; omega)
      (by rintro c ⟨⟩; exact .inr rfl)
  obtain ⟨offset, reads⟩ := reads
  rw [read, readShaped, readText, written, reads]
  rfl

end Json

end EntityGraph
