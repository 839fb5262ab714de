import LiveTemplate.Value.Reader
import Mathlib.Data.List.Basic

/-!
Decimal digits are read back.  A number that was written in digits is read as itself, as far as its last
digit and no further; so are its digits one by one, wherever a reader collects them.
-/

namespace LiveTemplate

namespace Text

variable {c : Char}

theorem digit?_of_isDigit (isDigit : c.isDigit) : digit? c = some (c.toNat - '0'.toNat) := by
  have within : '0' ≤ c ∧ c ≤ '9' := by simpa [Char.isDigit, Char.le_def] using isDigit
  rw [digit?, if_pos within]

theorem digit?_of_not_isDigit (other : c.isDigit = false) : digit? c = none := by
  have outside : ¬ ('0' ≤ c ∧ c ≤ '9') := by simpa [Char.isDigit, Char.le_def] using other
  rw [digit?, if_neg outside]

end Text

namespace Value

open Text (digit? digit?_of_isDigit digit?_of_not_isDigit)

/-- The numbers that digits stand for. -/
def digitValues (digits : List Char) : List Nat :=
  digits.map fun c => c.toNat - '0'.toNat

/-- Digits are read up to the first character that is none. -/
theorem readDigits_append {digits rest : List Char} (areDigits : ∀ c ∈ digits, c.isDigit)
    (ends : ∀ c ∈ rest.head?, c.isDigit = false) : readDigits (digits ++ rest) = (digitValues digits, rest) := by
  induction digits with
  | nil =>
      cases rest with
      | nil => rfl
      | cons c rest => simp only [List.nil_append, readDigits, digit?_of_not_isDigit (ends c rfl)]; rfl
  | cons c digits inductionHypothesis =>
      have others := inductionHypothesis fun d mem => areDigits d (List.mem_cons_of_mem _ mem)
      simp only [List.cons_append, readDigits, digit?_of_isDigit (areDigits c List.mem_cons_self), others]
      rfl

/-- The digits of a number form the number. -/
theorem ofDigits_toDigits (n : Nat) : ofDigits (digitValues (Nat.toDigits 10 n)) = n := by
  rw [ofDigits, digitValues, List.foldl_map]
  exact Nat.ofDigitChars_toDigits (by decide) (by decide)

theorem isDigit_of_mem_toDigits (n : Nat) : ∀ c ∈ Nat.toDigits 10 n, c.isDigit :=
  fun _ mem => Nat.isDigit_of_mem_toDigits (by decide) (by decide) mem

/-- A number is read back from its digits. -/
theorem readDigits_toDigits (n : Nat) {rest : List Char} (ends : ∀ c ∈ rest.head?, c.isDigit = false) :
    readDigits (Nat.toDigits 10 n ++ rest) = (digitValues (Nat.toDigits 10 n), rest) :=
  readDigits_append (isDigit_of_mem_toDigits n) ends

/-- There is a first digit, and none before another one is zero. -/
theorem exists_toDigits_eq_cons (n : Nat) :
    ∃ c rest, Nat.toDigits 10 n = c :: rest ∧ c.isDigit ∧ (c.toNat - '0'.toNat = 0 → rest = []) := by
  induction n using Nat.strongRecOn with
  | ind n inductionHypothesis =>
      by_cases small : n < 10
      · rw [Nat.toDigits_of_lt_base small]
        exact ⟨_, [], rfl, by simpa [Nat.isDigit_digitChar] using small, fun _ => rfl⟩
      · have large : 10 ≤ n := Nat.le_of_not_lt small
        obtain ⟨c, rest, digits, isDigit, alone⟩ := inductionHypothesis (n / 10) (by omega)
        refine ⟨c, rest ++ [Nat.digitChar (n % 10)], ?_, isDigit, fun isZero => ?_⟩
        · rw [Nat.toDigits_of_base_le (by decide) large, digits]
          rfl
        · -- a zero alone would be the digit of a number below ten
          have formed : ofDigits (digitValues [c]) = n / 10 := by rw [← alone isZero, ← digits, ofDigits_toDigits]
          simp only [digitValues, List.map_cons, List.map_nil, isZero, ofDigits, List.foldl_cons, List.foldl_nil]
            at formed
          omega

/-- A whole number is written as its digits, behind a minus sign if it is below zero. -/
theorem toList_toString (i : Int) :
    (toString i).toList = (if i < 0 then ['-'] else []) ++ Nat.toDigits 10 i.natAbs := by
  rw [Int.toString_eq_repr, Int.repr_eq_if]
  split_ifs with notNegative negative
  · omega
  · rw [Nat.repr_eq_ofList_toDigits, String.toList_ofList, show i.toNat = i.natAbs by omega]
    rfl
  · rw [String.toList_append, Nat.repr_eq_ofList_toDigits, String.toList_ofList, String.toList_ofList,
      show (-i).toNat = i.natAbs by omega]
  · omega

end Value

namespace Numeral

/-- Digits are collected as long as what they form fits 64 bits. -/
theorem accumulate_eq {significand : Nat} {digits : List Nat}
    (fits : digits.foldl (fun n d => 10 * n + d) significand < Nat.pow 2 64) :
    accumulate significand digits = (digits.foldl (fun n d => 10 * n + d) significand, []) := by
  -- what was collected is never more than what is collected in the end
  have grows : ∀ (digits : List Nat) (n : Nat), n ≤ digits.foldl (fun n d => 10 * n + d) n := by
    intro digits
    induction digits with
    | nil => exact fun n => Nat.le_refl n
    | cons d rest inductionHypothesis => exact fun n => Nat.le_trans (by omega) (inductionHypothesis (10 * n + d))
  induction digits generalizing significand with
  | nil => rfl
  | cons d rest inductionHypothesis =>
      have next : significand * 10 + d = 10 * significand + d := by omega
      have room : significand * 10 + d < Nat.pow 2 64 := next ▸ Nat.lt_of_le_of_lt (grows rest _) fits
      rw [accumulate, if_pos room, next]
      exact inductionHypothesis fits

theorem accumulate_toDigits {n : Nat} (fits : n < Nat.pow 2 64) :
    accumulate 0 (Value.digitValues (Nat.toDigits 10 n)) = (n, []) := by
  have formed : (Value.digitValues (Nat.toDigits 10 n)).foldl (fun n d => 10 * n + d) 0 = n :=
    Value.ofDigits_toDigits n
  rw [accumulate_eq (formed.symm ▸ fits), formed]

end Numeral

end LiveTemplate
