import NotebookLint.Proofs.Rules.Settings
import NotebookLint.Proofs.Text.Decimal
import NotebookLint.Rules.File

/-! Rules files as they may be written, with a line for each setting. The two formats differ in what
stands between a name and its value. -/
namespace NotebookLint

namespace Text

def IsPrintable (c : Char) : Prop :=
  0x20 ≤ c.toNat ∧ c.toNat ≤ 0x7E

def IsWord (text : List Char) : Prop :=
  text ≠ [] ∧ ∀ c ∈ text, c.isAlphanum = true ∨ c = '_'

def capitalDigit (digit : Nat) : Char :=
  digit.digitChar.toUpper

/-- So many digits of base sixteen. -/
def capitalDigits (code : Nat) : Nat → List Char
  | 0 => []
  | width + 1 => capitalDigits (code / 16) width ++ [capitalDigit (code % 16)]

/-- How many numbers so many digits of base sixteen write. -/
def codeCount : Nat → Nat
  | 0 => 1
  | width + 1 => codeCount width * 16

/-- A character within double quotes. -/
def escape (c : Char) : List Char :=
  if c = '\\' ∨ c = '"' then ['\\', c]
  else if 0x20 ≤ c.toNat ∧ c.toNat ≤ 0x7E then [c]
  else '\\' :: 'U' :: capitalDigits c.toNat 8

def quote (text : String) : List Char :=
  '"' :: text.toList.flatMap escape ++ ['"']

/-- Texts between brackets, with a comma and a space between each two. -/
def enclose (opening closing : Char) (items : List (List Char)) : List Char :=
  opening :: [',', ' '].intercalate items ++ [closing]

theorem isWord_of_all {text : List Char} (some' : text ≠ [])
    (all : text.all fun c => c.isAlphanum || c == '_') : IsWord text := by
  refine ⟨some',?_⟩
  simpa using all

theorem IsWord.ne {text : List Char} (word : IsWord text) {c : Char} (among : c ∈ text) (d : Char)
    (other : d.isAlphanum = false ∧ d ≠ '_') : c ≠ d := by
  rintro rfl
  rcases word.2 c among with letter | underscore
  · simp [other.1] at letter
  · exact other.2 underscore

theorem isWord_toDigits (value : Nat) : IsWord (Nat.toDigits 10 value) := by
  refine ⟨Nat.toDigits_ne_nil,?_⟩
  intro c among
  simp [Char.isAlphanum,isDigit_toDigits value c among]

theorem isPrintable_of_isWord {text : List Char} (word : IsWord text) :
    ∀ c ∈ text, IsPrintable c := by
  intro c among
  rcases word.2 c among with letter | rfl
  · have upper : c.isUpper = true → 65 ≤ c.toNat ∧ c.toNat ≤ 90 :=
      fun held => of_decide_eq_true held
    have lower : c.isLower = true → 97 ≤ c.toNat ∧ c.toNat ≤ 122 := fun held =>
      (Bool.and_eq_true_iff.mp held).imp of_decide_eq_true of_decide_eq_true
    have digit : c.isDigit = true → 48 ≤ c.toNat ∧ c.toNat ≤ 57 := fun held =>
      (Bool.and_eq_true_iff.mp held).imp of_decide_eq_true of_decide_eq_true
    have kinds : (c.isUpper = true ∨ c.isLower = true) ∨ c.isDigit = true :=
      (Bool.or_eq_true_iff.mp letter).imp_left Bool.or_eq_true_iff.mp
    have range := kinds.imp (Or.imp upper lower) digit
    unfold IsPrintable
    omega
  · simp [IsPrintable]

theorem hexDigit?_capitalDigit {digit : Nat} (small : digit < 16) :
    hexDigit? (capitalDigit digit) = some digit := by
  have table : ∀ digit < 16, hexDigit? (capitalDigit digit) = some digit := by decide
  exact table digit small

theorem div_lt_codeCount {code width : Nat} (small : code < codeCount (width + 1)) :
    code / 16 < codeCount width := by
  rw [Nat.div_lt_iff_lt_mul (by decide)]
  exact small

theorem codeCount_shift (value code width : Nat) :
    (value * codeCount width + code / 16) * 16 + code % 16 =
      value * codeCount (width + 1) + code := by
  rw [codeCount,← Nat.mul_assoc]
  omega

theorem toNat_div_lt_codeCount (c : Char) : c.toNat / 16 < codeCount 7 := by
  have valid : c.toNat.isValidChar := c.valid
  have count : codeCount 7 = 268435456 := rfl
  simp only [Nat.isValidChar] at valid
  omega

@[simp]
theorem length_capitalDigits (code width : Nat) : (capitalDigits code width).length = width := by
  induction width generalizing code with
  | zero => rfl
  | succ width ih => simp [capitalDigits,ih]

theorem isPrintable_capitalDigit {digit : Nat} (small : digit < 16) :
    IsPrintable (capitalDigit digit) := by
  have table : ∀ digit < 16, 0x20 ≤ (capitalDigit digit).toNat ∧
      (capitalDigit digit).toNat ≤ 0x7E := by
    decide
  exact table digit small

theorem isPrintable_capitalDigits (code width : Nat) :
    ∀ c ∈ capitalDigits code width, IsPrintable c := by
  induction width generalizing code with
  | zero => nofun
  | succ width ih =>
    intro c among
    rcases List.mem_append.mp among with before | last
    · exact ih _ c before
    · rw [List.mem_singleton.mp last]
      exact isPrintable_capitalDigit (Nat.mod_lt _ (by decide))

theorem isPrintable_escape (c : Char) : ∀ d ∈ escape c, IsPrintable d := by
  unfold escape
  split
  · next special =>
    rcases special with rfl | rfl <;> simp [IsPrintable]
  split
  · next printable => simpa [IsPrintable] using printable
  · intro d among
    simp only [List.mem_cons] at among
    rcases among with rfl | rfl | digit
    · simp [IsPrintable]
    · simp [IsPrintable]
    · exact isPrintable_capitalDigits _ _ d digit

theorem isPrintable_quote (text : String) : ∀ c ∈ quote text, IsPrintable c := by
  intro c among
  simp only [quote,List.cons_append,List.mem_cons,List.mem_append,List.mem_flatMap,
    List.not_mem_nil,or_false] at among
  rcases among with rfl | ⟨meant,-,escaped⟩ | rfl
  · simp [IsPrintable]
  · exact isPrintable_escape meant c escaped
  · simp [IsPrintable]

theorem isPrintable_enclose {opening closing : Char} (opens : IsPrintable opening)
    (closes : IsPrintable closing) {items : List (List Char)}
    (inside : ∀ item ∈ items, ∀ c ∈ item, IsPrintable c) :
    ∀ c ∈ enclose opening closing items, IsPrintable c := by
  have between : ∀ c ∈ [',', ' '].intercalate items, IsPrintable c := by
    induction items with
    | nil => simp
    | cons item rest ih =>
      rw [List.forall_mem_cons] at inside
      cases rest with
      | nil => simpa using inside.1
      | cons next rest =>
        rw [List.intercalate_cons_cons]
        simp only [List.mem_append,List.mem_cons,List.not_mem_nil,or_false]
        rintro c ((among | rfl | rfl) | later)
        · exact inside.1 c among
        · simp [IsPrintable]
        · simp [IsPrintable]
        · exact ih inside.2 c later
  intro c among
  simp only [enclose,List.cons_append,List.mem_cons,List.mem_append,List.not_mem_nil,
    or_false] at among
  rcases among with rfl | among | rfl
  · exact opens
  · exact between c among
  · exact closes

end Text

namespace Rules
open Text

/-- What stands between a name and its value. -/
def FileFormat.mark : FileFormat → List Char
  | .toml => [' ', '=', ' ']
  | .yaml => [':', ' ']

def writeMember (mark : List Char) (name text : String) : List Char :=
  name.toList ++ mark ++ quote text

def writeEntry (mark : List Char) (entry : Abbreviation) : List Char :=
  enclose '\x7b' '\x7d'
    [writeMember mark "term" entry.term, writeMember mark "expansion" entry.expansion]

def writeSetting (mark : List Char) : Setting → List Char
  | .text text => quote text
  | .number value => Nat.toDigits 10 value
  | .texts texts => enclose '[' ']' (texts.map quote)
  | .entries entries => enclose '[' ']' (entries.map (writeEntry mark))

def writeLine (mark : List Char) (line : String × Setting) : List Char :=
  line.1.toList ++ mark ++ writeSetting mark line.2 ++ ['\n']

/-- The text of a file with these lines. -/
def FileFormat.write (format : FileFormat) (lines : List (String × Setting)) : String :=
  String.ofList (lines.flatMap (writeLine format.mark))

theorem isPrintable_mark (format : FileFormat) : ∀ c ∈ format.mark, IsPrintable c := by
  cases format <;> simp [FileFormat.mark,IsPrintable]

theorem isPrintable_writeMember {mark : List Char} (between : ∀ c ∈ mark, IsPrintable c)
    {name : String} (named : ∀ c ∈ name.toList, IsPrintable c) (text : String) :
    ∀ c ∈ writeMember mark name text, IsPrintable c := by
  intro c among
  simp only [writeMember,List.mem_append] at among
  rcases among with (inName | inMark) | inText
  · exact named c inName
  · exact between c inMark
  · exact isPrintable_quote text c inText

theorem isPrintable_writeEntry {mark : List Char} (between : ∀ c ∈ mark, IsPrintable c)
    (entry : Abbreviation) : ∀ c ∈ writeEntry mark entry, IsPrintable c := by
  apply isPrintable_enclose (by simp [IsPrintable]) (by simp [IsPrintable])
  simp only [List.forall_mem_cons,List.not_mem_nil,false_implies,implies_true,and_true]
  exact ⟨isPrintable_writeMember between (by simp [IsPrintable]) _,
    isPrintable_writeMember between (by simp [IsPrintable]) _⟩

theorem isPrintable_writeSetting {mark : List Char} (between : ∀ c ∈ mark, IsPrintable c)
    (setting : Setting) : ∀ c ∈ writeSetting mark setting, IsPrintable c := by
  cases setting with
  | text text => exact isPrintable_quote text
  | number value => exact isPrintable_of_isWord (isWord_toDigits value)
  | texts texts =>
    apply isPrintable_enclose (by simp [IsPrintable]) (by simp [IsPrintable])
    intro item among
    obtain ⟨text,-,rfl⟩ := List.mem_map.mp among
    exact isPrintable_quote text
  | entries entries =>
    apply isPrintable_enclose (by simp [IsPrintable]) (by simp [IsPrintable])
    intro item among
    obtain ⟨entry,-,rfl⟩ := List.mem_map.mp among
    exact isPrintable_writeEntry between entry

end Rules

theorem Overrides.SetsOut.isWord {overrides : Overrides} {extras : List (String × String)}
    {lines : List (String × Setting)} (sets : overrides.SetsOut extras lines)
    {line : String × Setting} (among : line ∈ lines) : Text.IsWord line.1.toList := by
  rcases (sets.mem_iff line).mp among with set | ⟨extra,known,rfl⟩
  · have table : ∀ name ∈ Format.fieldNames, name.toList ≠ [] ∧
        name.toList.all fun c => c.isAlphanum || c == '_' := by
      decide
    have known := overrides.settings_names_sublist.mem (List.mem_map.mpr ⟨_,set,rfl⟩)
    exact Text.isWord_of_all (table _ known).1 (table _ known).2
  · refine ⟨fun empty => sets.worded extra known (by simpa using empty),?_⟩
    intro c inside
    simp [Char.isAlphanum,sets.lettered extra known c inside]

end NotebookLint
