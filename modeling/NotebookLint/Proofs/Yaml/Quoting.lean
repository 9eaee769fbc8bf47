import NotebookLint.Proofs.Rules.Written
import NotebookLint.Yaml.Scalar

/-! YAML scalars as rules files hold them: texts in double quotes, words and whole numbers. -/
namespace NotebookLint.Yaml
open Text

namespace Spot

/-- The place so many characters further on a line. -/
def along (spot : Spot) (count : Nat) : Spot :=
  ⟨spot.line, spot.column + count, spot.offset + count⟩

@[simp]
theorem along_zero (spot : Spot) : spot.along 0 = spot :=
  rfl

@[simp]
theorem along_along (spot : Spot) (first second : Nat) :
    (spot.along first).along second = spot.along (first + second) := by
  simp [along,Nat.add_assoc]

end Spot

theorem not_isBreak_of_isPrintable {c : Char} (printable : IsPrintable c) : isBreak c = false := by
  have other (d : Char) (strange : ¬ IsPrintable d) : c ≠ d := by
    rintro rfl
    exact strange printable
  simp [isBreak,other '\n' (by simp [IsPrintable]),other '\u2028' (by simp [IsPrintable]),
    other '\u2029' (by simp [IsPrintable])]

theorem past_of_isPrintable {c : Char} (printable : IsPrintable c) (spot : Spot) :
    spot.past c = spot.along 1 := by
  have size : c.utf8Size = 1 := by
    have low : c.val ≤ 0x7F := by
      rw [UInt32.le_iff_toNat_le]
      exact Nat.le_trans printable.2 (by decide)
    simp [Char.utf8Size,low]
  simp [Spot.past,not_isBreak_of_isPrintable printable,size,Spot.along]

theorem doubleQuoted_capitalDigits (spot : Spot) (read rest : List Char) (width due value : Nat)
    {code : Nat} (small : code < codeCount width) (more : 0 < due) :
    doubleQuoted spot read .none (some (.hex (width + due) value))
        (capitalDigits code width ++ rest) =
      doubleQuoted (spot.along width) read .none (some (.hex due (value * codeCount width + code)))
        rest := by
  induction width generalizing code due rest with
  | zero =>
    have zero : code = 0 := Nat.lt_one_iff.mp small
    simp [capitalDigits,zero,codeCount]
  | succ width ih =>
    have higher := div_lt_codeCount small
    have last : code % 16 < 16 := Nat.mod_lt _ (by decide)
    rw [capitalDigits,List.append_assoc,List.singleton_append,
      show width + 1 + due = width + (due + 1) by omega,ih _ (due + 1) higher (by omega),
      doubleQuoted]
    simp [hexDigit?_capitalDigit last,past_of_isPrintable (isPrintable_capitalDigit last),more,
      codeCount_shift]

theorem doubleQuoted_backslash (spot : Spot) (read : List Char) (gap : Gap) (more : List Char) :
    doubleQuoted spot read gap none ('\\' :: more) =
      doubleQuoted (spot.along 1) (gap.fold ++ read) .none (some .backslash) more := by
  rw [doubleQuoted]
  simp [past_of_isPrintable (show IsPrintable '\\' by simp [IsPrintable])]

theorem doubleQuoted_code (spot : Spot) (read : List Char) (c : Char) (rest : List Char) :
    doubleQuoted spot read .none (some .backslash) ('U' :: (capitalDigits c.toNat 8 ++ rest)) =
      doubleQuoted (spot.along 9) (c :: read) .none none rest := by
  have code : c.toNat = c.toNat / 16 * 16 + c.toNat % 16 := by omega
  have valid : c.toNat.isValidChar := c.valid
  have last : c.toNat % 16 < 16 := Nat.mod_lt _ (by decide)
  have opened (more : List Char) :
      doubleQuoted spot read .none (some .backslash) ('U' :: more) =
        doubleQuoted (spot.along 1) read .none (some (.hex 8 0)) more := by
    rw [doubleQuoted]
    simp [isBreak,shortEscape?,hexEscape?,
      past_of_isPrintable (show IsPrintable 'U' by simp [IsPrintable])]
  -- Seven digits leave the escape open, and the eighth completes the character.
  rw [opened,capitalDigits,List.append_assoc,
    doubleQuoted_capitalDigits _ _ _ 7 1 0 (toNat_div_lt_codeCount c) (by decide),Nat.zero_mul,
    Nat.zero_add,List.singleton_append,doubleQuoted]
  simp [hexDigit?_capitalDigit last,← code,valid,
    past_of_isPrintable (isPrintable_capitalDigit last)]

/-- One character in double quotes. A space stays in the gap before the next character; gap and text
together grow by the character that is meant. -/
theorem doubleQuoted_escape {spot : Spot} (inside : 0 < spot.column) (read : List Char) {gap : Gap}
    (unbroken : gap.hasBreaks = false) (c : Char) (rest : List Char) :
    ∃ read' gap', Gap.hasBreaks gap' = false ∧ gap'.fold ++ read' = c :: (gap.fold ++ read) ∧
      doubleQuoted spot read gap none (escape c ++ rest) =
        doubleQuoted (spot.along (escape c).length) read' gap' none rest := by
  have column : (spot.column == 0) = false := by
    rw [beq_eq_false_iff_ne]
    omega
  unfold escape
  split
  · next special =>
    refine ⟨c :: (gap.fold ++ read),.none,rfl,rfl,?_⟩
    have printable : IsPrintable c := by rcases special with rfl | rfl <;> simp [IsPrintable]
    have meant : shortEscape? c = some c := by simp [shortEscape?,Or.comm.mp special]
    rw [List.cons_append,doubleQuoted_backslash,List.singleton_append,doubleQuoted]
    simp [not_isBreak_of_isPrintable printable,meant,past_of_isPrintable printable]
  split
  · next noEscape printable =>
    rw [not_or] at noEscape
    rw [List.singleton_append,doubleQuoted]
    by_cases space : c = ' '
    · refine ⟨read,gap.addBlank ' ',?_,?_,?_⟩
      · cases gap <;> simp_all [Gap.addBlank,Gap.hasBreaks]
      · cases gap <;> simp_all [Gap.addBlank,Gap.hasBreaks,Gap.fold]
      · simp [space,isBlank,column,past_of_isPrintable (show IsPrintable ' ' by simp [IsPrintable])]
    · have tab : c ≠ '\t' := by
        rintro rfl
        simp at printable
      refine ⟨c :: (gap.fold ++ read),.none,rfl,rfl,?_⟩
      simp [noEscape,column,isBlank,space,tab,not_isBreak_of_isPrintable printable,
        past_of_isPrintable printable]
  · refine ⟨c :: (gap.fold ++ read),.none,rfl,rfl,?_⟩
    rw [List.cons_append,List.cons_append,doubleQuoted_backslash,doubleQuoted_code]
    simp [Nat.add_comm]

theorem doubleQuoted_escapes {spot : Spot} (inside : 0 < spot.column) (read : List Char) {gap : Gap}
    (unbroken : gap.hasBreaks = false) (chars rest : List Char) :
    ∃ read' gap', gap'.fold ++ read' = chars.reverse ++ (gap.fold ++ read) ∧
      doubleQuoted spot read gap none (chars.flatMap escape ++ rest) =
        doubleQuoted (spot.along (chars.flatMap escape).length) read' gap' none rest := by
  induction chars generalizing spot read gap with
  | nil => exact ⟨read,gap,rfl,rfl⟩
  | cons c chars ih =>
    obtain ⟨between,gap',whole,grown,first⟩ := doubleQuoted_escape inside read unbroken c
      (chars.flatMap escape ++ rest)
    have further : 0 < (spot.along (escape c).length).column := Nat.add_pos_left inside _
    obtain ⟨read',gap'',all,others⟩ := ih further between whole
    refine ⟨read',gap'',?_,?_⟩
    · rw [all,grown]
      simp
    · rw [List.flatMap_cons,List.append_assoc,first,others,List.length_append,Spot.along_along]

theorem doubleQuoted_quote {spot : Spot} (inside : 0 < spot.column) (text : String)
    (rest : List Char) :
    doubleQuoted spot [] .none none (text.toList.flatMap escape ++ '"' :: rest) =
      some ⟨text.toList, spot.along ((text.toList.flatMap escape).length + 1), rest, false⟩ := by
  obtain ⟨read,gap,all,reached⟩ := doubleQuoted_escapes inside []
    (show Gap.hasBreaks .none = false from rfl) text.toList ('"' :: rest)
  have whole : (gap.fold ++ read).reverse = text.toList := by
    rw [all]
    simp [Gap.fold]
  have quote : IsPrintable '"' := by simp [IsPrintable]
  rw [reached,doubleQuoted]
  simp only [whole,past_of_isPrintable quote,Spot.along_along,if_true]

theorem plain_chars {text : List Char} (word : ∀ c ∈ text, c.isAlphanum = true ∨ c = '_')
    (level : Nat) (inFlow : Bool) (spot : Spot) (read rest : List Char) :
    plain level inFlow spot read .none (text ++ rest) =
      plain level inFlow (spot.along text.length) (text.reverse ++ read) .none rest := by
  induction text generalizing spot read with
  | nil => rfl
  | cons c more ih =>
    have whole : IsWord (c :: more) := ⟨by simp,word⟩
    have other := whole.ne (c := c) (by simp)
    have printable := isPrintable_of_isWord whole c (by simp)
    rw [List.forall_mem_cons] at word
    have blank : isBlank c = false := by simp [isBlank,other ' ',other '\t']
    have indicator : isFlowIndicator c = false := by
      simp [isFlowIndicator,other ',',other '[',other ']',other '\x7b',other '\x7d']
    rw [List.cons_append,plain]
    simp only [blank,not_isBreak_of_isPrintable printable,indicator,past_of_isPrintable printable,
      ih word.2,beq_eq_false_iff_ne.mpr (other ':' (by decide))]
    simp [Gap.fold,Nat.add_comm]

theorem plain_word {text : List Char} (word : IsWord text) (level : Nat) (inFlow : Bool)
    (spot : Spot) (rest : List Char) :
    plain level inFlow spot [] .none (text ++ ':' :: ' ' :: rest) =
      some ⟨text, spot.along text.length, ':' :: ' ' :: rest, false⟩ := by
  rw [plain_chars word.2,plain]
  simp [isBlank,isBreak,isFlowIndicator,endsWord,Gap.hasBreaks]

/-- A number takes the end of its line with it, unless the next line is indented. -/
theorem plain_number {text : List Char} (word : IsWord text) {level : Nat} (indented : 0 < level)
    (spot : Spot) {rest : List Char}
    (next : ∀ c ∈ rest.head?, isBlank c = false ∧ isBreak c = false) :
    plain level false spot [] .none (text ++ '\n' :: rest) =
      some ⟨text, ⟨spot.line + 1, 0, spot.offset + text.length + 1⟩, rest, true⟩ := by
  have broken : plain level false (spot.along text.length) (text.reverse ++ []) .none
      ('\n' :: rest) =
        plain level false ⟨spot.line + 1, 0, spot.offset + text.length + 1⟩ text.reverse
          (.breaks (some '\n') []) rest := by
    rw [plain]
    simp [isBlank,isBreak,Gap.addBreak,Spot.past,Spot.along,show '\n'.utf8Size = 1 from rfl]
  rw [plain_chars word.2,broken]
  cases rest with
  | nil => simp [plain,Gap.hasBreaks]
  | cons c rest =>
    obtain ⟨blank,unbroken⟩ := next c rfl
    rw [plain]
    simp [blank,unbroken,endsAfterGap,indented,Gap.hasBreaks]

end NotebookLint.Yaml
