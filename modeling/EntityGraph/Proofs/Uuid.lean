import EntityGraph.Uuid
import Mathlib.Algebra.Group.Nat.Defs
import Mathlib.Data.List.Basic
import Mathlib.Data.List.Induction

/-!
# How an identifier is written

An identifier is written as its 32 digits in lower case, in five groups. What a text writes is
found in the text itself: of its hexadecimal digits the last 32 count, whichever form the text has.
-/

namespace EntityGraph

/-! ## Digits -/

/-- The digit of a value is in lower case. -/
theorem digitChar_of_hexValue? {c : Char} {value : Nat} (read : Text.hexValue? c = some value) :
    value < 16 ∧ Nat.digitChar value = c.toLower := by
  have table : ∀ n < 128, ∀ value ∈ Text.hexValue? (Char.ofNat n),
      value < 16 ∧ Nat.digitChar value = (Char.ofNat n).toLower := by
    decide
  have ascii : c.toNat < 128 := by
    have bound {last : Char} (ends : c ≤ last) : c.toNat ≤ last.toNat := ends
    unfold Text.hexValue? at read
    split at read
    · next digit => exact Nat.lt_of_le_of_lt (bound digit.2) (by decide)
    · split at read
      · next letter => exact Nat.lt_of_le_of_lt (bound letter.2) (by decide)
      · split at read
        · next letter => exact Nat.lt_of_le_of_lt (bound letter.2) (by decide)
        · cases read
  have found := table c.toNat ascii value
  rw [Char.ofNat_toNat] at found
  exact found read

/-- The number that digits of base 16 write. -/
def hexNumber (values : List Nat) : Nat :=
  values.foldl (fun sum digit => sum * 16 + digit) 0

/-- As many places as a number was written with give its digits back. -/
theorem hexPlaces_hexNumber {values : List Nat} (small : ∀ value ∈ values, value < 16) :
    hexNumber values < 16 ^ values.length ∧
      Text.hexPlaces values.length (hexNumber values) = values.map Nat.digitChar := by
  induction values using List.reverseRecOn with
  | nil => exact ⟨by decide, rfl⟩
  | append_singleton values last inductionHypothesis =>
    have bound : last < 16 := small last (by simp)
    obtain ⟨fits, places⟩ := inductionHypothesis fun value member => small value (by simp [member])
    have number : hexNumber (values ++ [last]) = hexNumber values * 16 + last := by
      simp [hexNumber]
    rw [number, List.length_append, List.length_singleton]
    refine ⟨by rw [Nat.pow_succ]; omega, ?_⟩
    rw [Text.hexPlaces, show (hexNumber values * 16 + last) / 16 = hexNumber values by omega,
      show (hexNumber values * 16 + last) % 16 = last by omega, places, List.map_append,
      List.map_singleton]

namespace Uuid

/-- Whether a character is a hexadecimal digit. -/
def isHex (c : Char) : Bool :=
  (Text.hexValue? c).isSome

/-- Digits in five groups of 8, 4, 4, 4 and 12, with hyphens between them. -/
def hyphenated (digits : List Char) : List Char :=
  let group (start length : Nat) := (digits.drop start).take length
  group 0 8 ++ '-' :: group 8 4 ++ '-' :: group 12 4 ++ '-' :: group 16 4 ++ '-' :: group 20 12

/-- The last 32 hexadecimal digits of a text, in lower case and hyphenated. -/
def respelled (text : String) : String :=
  let digits := text.toList.filter isHex
  String.ofList (hyphenated ((digits.drop (digits.length - 32)).map Char.toLower))

/-- Values that are read digit by digit are written by the same digits in lower case. -/
theorem digits_of_mapM_hexValue? {digits : List Char} {values : List Nat}
    (read : digits.mapM Text.hexValue? = some values) :
    values.map Nat.digitChar = digits.map Char.toLower ∧ (∀ c ∈ digits, isHex c = true) ∧
      ∀ value ∈ values, value < 16 := by
  induction digits generalizing values with
  | nil =>
    cases read
    simp
  | cons c rest inductionHypothesis =>
    simp only [List.mapM_cons, bind, Option.bind_eq_some_iff, pure, Option.some.injEq] at read
    obtain ⟨value, first, others, remaining, rfl⟩ := read
    obtain ⟨small, lower⟩ := digitChar_of_hexValue? first
    obtain ⟨lowers, hex, smalls⟩ := inductionHypothesis remaining
    exact ⟨by rw [List.map_cons, List.map_cons, lower, lowers],
      List.forall_mem_cons.2 ⟨by rw [isHex, first]; rfl, hex⟩,
      List.forall_mem_cons.2 ⟨small, smalls⟩⟩

/-- An identifier is written as the digits that it was read from, in lower case. -/
theorem text_of_ofDigits? {digits : List Char} {id : Uuid} (read : ofDigits? digits = some id) :
    digits.length = 32 ∧ (∀ c ∈ digits, isHex c = true) ∧
      id.text = String.ofList (hyphenated (digits.map Char.toLower)) := by
  unfold ofDigits? at read
  split at read
  · next values each =>
    split at read
    · next count =>
      cases read
      obtain ⟨lower, hex, small⟩ := digits_of_mapM_hexValue? each
      obtain ⟨fits, places⟩ := hexPlaces_hexNumber small
      rw [count] at fits places
      refine ⟨?_, hex, ?_⟩
      · have sameLength := congrArg List.length lower
        rw [List.length_map, List.length_map, count] at sameLength
        exact sameLength.symm
      · have number : (BitVec.ofNat 128 (hexNumber values)).toNat = hexNumber values := by
          rw [BitVec.toNat_ofNat]
          exact Nat.mod_eq_of_lt (by simpa using fits)
        rw [text]
        change String.ofList (joinGroups (cut groupLengths
          (Text.hexPlaces 32 (BitVec.ofNat 128 (hexNumber values)).toNat))) = _
        rw [number, places, lower]
        simp [groupLengths, cut, joinGroups, hyphenated]
    · cases read
  · cases read

/-! ## Forms -/

/-- Cutting a text at its hyphens drops the hyphens. -/
theorem flatten_groups (chars : List Char) :
    groups chars ≠ [] ∧ (groups chars).flatten = chars.filter fun c => c ≠ '-' := by
  induction chars with
  | nil => simp [groups]
  | cons c rest inductionHypothesis =>
    obtain ⟨nonempty, dropped⟩ := inductionHypothesis
    rw [groups]
    split
    · next none => exact absurd none nonempty
    · next first others cut =>
      rw [cut] at dropped
      rw [List.flatten_cons] at dropped
      by_cases hyphen : c = '-' <;> simp [hyphen, dropped]

/-- Digits in hyphenated groups are written as they are without the hyphens. -/
theorem text_of_ofGroups? {chars : List Char} {id : Uuid} (read : ofGroups? chars = some id) :
    (chars.filter isHex).length = 32 ∧
      id.text = String.ofList (hyphenated ((chars.filter isHex).map Char.toLower)) := by
  unfold ofGroups? at read
  split at read
  · obtain ⟨count, hex, written⟩ := text_of_ofDigits? read
    have digits : (groups chars).flatten = chars.filter isHex := by
      rw [← List.filter_eq_self.2 hex, (flatten_groups chars).2, List.filter_filter]
      refine List.filter_congr fun c _ => ?_
      by_cases hyphen : c = '-'
      · subst hyphen
        decide
      · simp [hyphen]
    rw [← digits]
    exact ⟨count, written⟩
  · cases read

/-- What stands around the last 32 digits of a text does not count. -/
theorem respelled_of_split {text : String} {before part after : List Char}
    (split : text.toList = before ++ part ++ after) (count : (part.filter isHex).length = 32)
    (none : after.filter isHex = []) :
    respelled text = String.ofList (hyphenated ((part.filter isHex).map Char.toLower)) := by
  rw [respelled, split, List.filter_append, List.filter_append, none, List.append_nil]
  simp only [List.length_append, count, Nat.add_sub_cancel, List.drop_left]

/-- What braces hold is a part of the text. -/
theorem split_of_insideBraces? {chars part : List Char} (inside : insideBraces? chars = some part) :
    chars = ['\x7b'] ++ part ++ ['\x7d'] := by
  unfold insideBraces? at inside
  split at inside
  · next rest =>
    split at inside
    · next closed =>
      cases inside
      rw [List.append_assoc, List.dropLast_append_getLast? _ closed, List.singleton_append]
    · cases inside
  · cases inside

/-- What follows the scheme is the end of the text. -/
theorem split_of_afterScheme? {chars part : List Char} (follows : afterScheme? chars = some part) :
    ∃ scheme, chars = scheme ++ part := by
  unfold afterScheme? at follows
  dsimp only at follows
  split at follows
  · cases follows
    exact ⟨_, (List.take_append_drop _ chars).symm⟩
  · cases follows

/-- An identifier is written as the last 32 digits of the text that it was read from, in lower
case and hyphenated. -/
theorem text_of_read {text : String} {id : Uuid} (done : read text = .ok id) :
    id.text = respelled text := by
  have ofPart (before part after : List Char) (split : text.toList = before ++ part ++ after)
      (none : after.filter isHex = []) (read : ofGroups? part = some id) :
      id.text = respelled text := by
    obtain ⟨count, written⟩ := text_of_ofGroups? read
    rw [written, respelled_of_split split count none]
  unfold read at done
  dsimp only at done
  split at done
  · cases done
  · split at done
    · next part found =>
      split at done
      · next grouped =>
        cases done
        unfold hyphenatedPart? at found
        split at found
        · cases found
          exact ofPart [] text.toList [] (by simp) rfl grouped
        · split at found
          · exact ofPart _ part _ (split_of_insideBraces? found) (by decide) grouped
          · split at found
            · obtain ⟨scheme, split⟩ := split_of_afterScheme? found
              exact ofPart scheme part [] (by rw [List.append_nil, split]) rfl grouped
            · cases found
      · cases done
    · split at done
      · next digits =>
        cases done
        obtain ⟨count, hex, written⟩ := text_of_ofDigits? digits
        have all := List.filter_eq_self.2 hex
        have whole : text.toList = [] ++ text.toList ++ [] := by simp
        rw [written, respelled_of_split whole (by rw [all]; exact count) rfl, all]
      · split at done <;> cases done

end Uuid

end EntityGraph
