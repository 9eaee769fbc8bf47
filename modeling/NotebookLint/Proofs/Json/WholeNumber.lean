import Mathlib.Data.List.TakeWhile
import NotebookLint.Json.Magnitude
import NotebookLint.Proofs.Text.Decimal

/-! Whole numbers of 64 bits are far from infinite: all their digits are kept, and rounding adds at
most one unit to them. -/
namespace NotebookLint.Json.Magnitude
open Text

theorem round_le {value : Nat} (small : value < UInt64.size) : round value ≤ value + 2048 := by
  have short : value.log2 + 1 - 53 ≤ 11 := by
    by_cases zero : value = 0
    · simp [zero]
    · have bits := (Nat.log2_lt zero).mpr (show value < 2 ^ 64 from small)
      omega
  have unit : Nat.pow 2 (value.log2 + 1 - 53) ≤ 2048 :=
    Nat.pow_le_pow_right (by decide) short
  have low := Nat.div_mul_le_self value (Nat.pow 2 (value.log2 + 1 - 53))
  unfold round
  dsimp only
  split
  · rw [Nat.add_mul,Nat.one_mul]
    omega
  · omega

theorem not_isInfinite_of_small {value : Nat} (small : value < UInt64.size) :
    (Scaled.mk value 0).isInfinite = false := by
  have one : round (Nat.pow 10 (0 : Int).toNat) = 1 := by decide
  have least : UInt64.size + 2048 < infinite := by decide +kernel
  have bound := round_le small
  simp only [Scaled.isInfinite,one,Nat.mul_one]
  simp
  omega

theorem wholeDigits_of_small (digits : List Nat) (scaled : Scaled)
    (small : digits.foldl (fun value digit => value * 10 + digit) scaled.digits < UInt64.size) :
    wholeDigits scaled digits =
      ⟨digits.foldl (fun value digit => value * 10 + digit) scaled.digits, scaled.power⟩ := by
  induction digits generalizing scaled with
  | nil => rfl
  | cons digit rest ih =>
    have grows (rest : List Nat) (value : Nat) :
        value ≤ rest.foldl (fun value digit => value * 10 + digit) value := by
      induction rest generalizing value with
      | nil => exact Nat.le_refl _
      | cons digit rest ih => exact Nat.le_trans (by omega) (ih (value * 10 + digit))
    rw [List.foldl_cons] at small
    have fit : fits scaled.digits digit = true := by
      have first := grows rest (scaled.digits * 10 + digit)
      simp only [fits,decide_eq_true_eq]
      omega
    simp only [wholeDigits,fit,if_true]
    exact ih _ small

/-- A whole number of 64 bits can be read, with a minus before it or without one. -/
theorem not_isInfinite_toDigits {value : Nat} (small : value < UInt64.size) (sign : List Char)
    (minus : sign = [] ∨ sign = ['-']) :
    isInfinite (sign ++ Nat.toDigits 10 value) = false := by
  have digits := isDigit_toDigits value
  have unsigned : (sign ++ Nat.toDigits 10 value).dropWhile (· == '-') = Nat.toDigits 10 value := by
    have bare : (Nat.toDigits 10 value).dropWhile (· == '-') = Nat.toDigits 10 value := by
      rw [List.dropWhile_eq_self_iff]
      intro some first
      have digit := digits _ (List.getElem_mem some)
      rw [beq_iff_eq.mp first] at digit
      simp at digit
    rcases minus with rfl | rfl <;> simp [bare]
  have whole : (Nat.toDigits 10 value).takeWhile Char.isDigit = Nat.toDigits 10 value :=
    List.takeWhile_eq_self_iff.mpr digits
  have tail : (Nat.toDigits 10 value).dropWhile Char.isDigit = [] :=
    List.dropWhile_eq_nil_iff.mpr digits
  have read := wholeDigits_of_small ((Nat.toDigits 10 value).map digitValue) ⟨0, 0⟩
  rw [List.foldl_map] at read
  change numeral 10 (Nat.toDigits 10 value) < UInt64.size → _ = Scaled.mk (numeral 10 _) 0 at read
  rw [numeral_toDigits] at read
  simp only [isInfinite,scale,unsigned,whole,tail,read small]
  exact not_isInfinite_of_small small

end NotebookLint.Json.Magnitude
