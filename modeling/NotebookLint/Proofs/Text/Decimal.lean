import NotebookLint.Text.Numeral

/-! Decimal digits of whole numbers: what they look like, and that their numeral is the number. -/
namespace NotebookLint.Text

theorem hexDigit?_of_isDigit {c : Char} (digit : c.isDigit = true) :
    hexDigit? c = some (c.toNat - '0'.toNat) := by
  have range : '0' ≤ c ∧ c ≤ '9' := by
    simpa [Char.isDigit,Char.le_def] using digit
  simp [hexDigit?,range]

theorem numeral_eq_ofDigitChars (base : Nat) (digits : List Char)
    (decimal : ∀ c ∈ digits, c.isDigit = true) :
    numeral base digits = Nat.ofDigitChars base digits 0 := by
  unfold numeral
  generalize 0 = value
  induction digits generalizing value with
  | nil => simp
  | cons c rest ih =>
    have value_c : digitValue c = c.toNat - '0'.toNat := by
      simp [digitValue,hexDigit?_of_isDigit (decimal c (by simp))]
    rw [List.foldl_cons,ih fun c member => decimal c (by simp [member]),Nat.ofDigitChars_cons,
      value_c,Nat.mul_comm]

theorem isDigit_toDigits (value : Nat) : ∀ c ∈ Nat.toDigits 10 value, c.isDigit = true :=
  fun _ member => Nat.isDigit_of_mem_toDigits (by decide) (by decide) member

theorem toDigits_ne_cons (value : Nat) {first : Char} (strange : first.isDigit = false)
    (rest : List Char) : Nat.toDigits 10 value ≠ first :: rest := by
  intro same
  have digit := isDigit_toDigits value first (by simp [same])
  rw [strange] at digit
  cases digit

theorem isDigitOf_ten {c : Char} (digit : c.isDigit = true) : isDigitOf 10 c = true := by
  have range := digit
  simp only [Char.isDigit,Bool.and_eq_true,decide_eq_true_eq] at range
  have high : c.toNat ≤ 57 := range.2
  have zero : '0'.toNat = 48 := rfl
  have small : c.toNat - '0'.toNat < 10 := by omega
  rw [isDigitOf,hexDigit?_of_isDigit digit]
  simpa using small

theorem numeral_toDigits (value : Nat) : numeral 10 (Nat.toDigits 10 value) = value := by
  rw [numeral_eq_ofDigitChars 10 _ (isDigit_toDigits value),Nat.ofDigitChars_ten_toDigits]

/-- Only the number zero begins with a zero, and that is all there is to it. -/
theorem toDigits_cases (value : Nat) :
    value = 0 ∧ Nat.toDigits 10 value = ['0'] ∨
      ∃ first rest, Nat.toDigits 10 value = first :: rest ∧ first ≠ '0' := by
  induction value using Nat.strongRecOn with
  | ind value ih =>
    by_cases small : value < 10
    · rw [Nat.toDigits_of_lt_base small]
      by_cases zero : value = 0
      · exact .inl ⟨zero,by simp [zero]⟩
      · have nonzero : ∀ digit < 10, digit ≠ 0 → digit.digitChar ≠ '0' := by decide
        exact .inr ⟨_,[],rfl,nonzero value small zero⟩
    · rw [Nat.toDigits_of_base_le (by decide) (by omega)]
      rcases ih (value / 10) (by omega) with ⟨zero,-⟩ | ⟨first,rest,digits,nonzero⟩
      · omega
      · exact .inr ⟨first,rest ++ [(value % 10).digitChar],by rw [digits]; rfl,nonzero⟩

end NotebookLint.Text
