import Mathlib.Data.String.Basic

namespace Banlieue.Data

/-! # Numbers as texts -/

theorem toString_inj {first second : Nat} : toString first = toString second ↔ first = second := by
  refine ⟨fun same => ?_, congrArg toString⟩
  have digits : Nat.toDigits 10 first = Nat.toDigits 10 second := by
    simpa [← String.toList_inj] using same
  rw [← @Nat.ofDigitChars_toDigits 10 first (by decide) (by decide), digits,
    Nat.ofDigitChars_toDigits (by decide) (by decide)]

theorem toList_toString (number : Nat) : (toString number).toList = Nat.toDigits 10 number := by
  rw [Nat.toString_eq_repr, Nat.toList_repr]

theorem isDigit_of_mem_toString {number : Nat} {char : Char} (member : char ∈ (toString number).toList) :
    char.isDigit = true := by
  rw [toList_toString] at member
  exact Nat.isDigit_of_mem_toDigits (by decide) (by decide) member

theorem toString_ne_of_head {number : Nat} {head : Char} {rest : List Char} (other : head.isDigit = false) :
    (toString number).toList ≠ head :: rest := by
  intro same
  have digit := isDigit_of_mem_toString (same ▸ List.mem_cons_self)
  rw [other] at digit
  cases digit

end Banlieue.Data
