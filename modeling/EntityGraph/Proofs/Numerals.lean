import Mathlib.Data.Nat.Notation
import Mathlib.Data.List.Basic

/-!
# Numerals

How integers are written: with decimal digits that do not start with a zero, unless the number
is zero, and with a sign in front if the number is negative.
-/

namespace EntityGraph

/-- An integer is written with digits, and with a sign if it is negative. -/
theorem toList_toString_int (n : Int) :
    (toString n).toList = (if n < 0 then ['-'] else []) ++ Nat.toDigits 10 n.natAbs := by
  cases n with
  | ofNat m =>
    have natural : ¬ Int.ofNat m < 0 := Int.not_lt.2 (Int.natCast_nonneg m)
    rw [if_neg natural, List.nil_append]
    exact Nat.toList_repr
  | negSucc m =>
    have written : toString (Int.negSucc m) = "-" ++ Nat.repr (m + 1) := rfl
    rw [if_pos (Int.negSucc_lt_zero m), written, String.toList_append, Nat.toList_repr]
    rfl

theorem eq_minus_or_isDigit_of_mem_toString {n : Int} {c : Char}
    (member : c ∈ (toString n).toList) : c = '-' ∨ c.isDigit = true := by
  rw [toList_toString_int] at member
  rcases List.mem_append.1 member with sign | digit
  · split at sign
    · exact .inl (List.mem_singleton.1 sign)
    · cases sign
  · exact .inr (Nat.isDigit_of_mem_toDigits (by decide) (by decide) digit)

/-- The numeral of a number that is not zero does not start with a zero. -/
theorem head?_toDigits_ne_zero {n : Nat} (positive : 0 < n) :
    (Nat.toDigits 10 n).head? ≠ some '0' := by
  induction n using Nat.strongRecOn with
  | _ n inductionHypothesis =>
    rw [Nat.toDigits_eq_if (by decide)]
    split
    · next small =>
      have digits : ∀ digit < 10, 0 < digit → [Nat.digitChar digit].head? ≠ some '0' := by decide
      exact digits n small positive
    · next large =>
      have front := inductionHypothesis (n / 10) (by omega) (by omega)
      rwa [List.head?_append_of_ne_nil _ Nat.toDigits_ne_nil]

end EntityGraph
