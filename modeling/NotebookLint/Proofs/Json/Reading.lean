import NotebookLint.Proofs.Json.WholeNumber
import NotebookLint.Proofs.Json.Written

/-! Reading undoes writing: whichever of its texts a value is written as, the reader comes back to
that value. -/
namespace NotebookLint.Json.Reader
open Text

theorem after_blank {state : State} (waits : ∀ c, isSpace c = true → step state c = .next state)
    {blank : List Char} (space : IsBlank blank) (rest : List Char) :
    after state (blank ++ rest) = after state rest := by
  rw [isBlank_iff] at space
  induction blank with
  | nil => rfl
  | cons c more ih =>
    simp only [List.all_cons,Bool.and_eq_true] at space
    rw [List.cons_append,after_cons_of_step (waits c space.1),ih space.2]

theorem value_waits (frames : List Frame) (slot : Slot) (c : Char) (space : isSpace c = true) :
    step ⟨frames, .value slot⟩ c = .next ⟨frames, .value slot⟩ := by
  simp only [step,beginValue,space,if_true]

theorem separator_waits (frames : List Frame) (c : Char) (space : isSpace c = true) :
    step ⟨frames, .separator⟩ c = .next ⟨frames, .separator⟩ := by
  simp only [step,betweenValues,space,if_true]

theorem name_waits (frames : List Frame) (isFirst : Bool) (c : Char) (space : isSpace c = true) :
    step ⟨frames, .name isFirst⟩ c = .next ⟨frames, .name isFirst⟩ := by
  simp only [step,beginName,space,if_true]

theorem colon_waits (frames : List Frame) (c : Char) (space : isSpace c = true) :
    step ⟨frames, .colon⟩ c = .next ⟨frames, .colon⟩ := by
  simp only [step,space,if_true]

section
variable (frames : List Frame) (isName : Bool) (read : List Char)

theorem after_code {code : Nat} {text : List Char} (written : WritesCode code text) :
    ∃ digits, text = '\\' :: 'u' :: digits ∧ ∀ high rest,
      after ⟨frames, .string isName read (.hex high 4 (some 0))⟩ (digits ++ rest) =
        match endHex frames isName read high code with
        | .ok state => after state rest
        | .error _ => none := by
  obtain ⟨a,b,c,d,known⟩ := written
  refine ⟨[a.1, b.1, c.1, d.1],rfl,?_⟩
  intro high rest
  have table : ∀ digit ∈ hexDigits, hexDigit? digit.1 = some digit.2 ∧ digit.1.utf8Size = 1 := by
    decide
  obtain ⟨aValue,aSize⟩ := table a (known a (by simp))
  obtain ⟨bValue,bSize⟩ := table b (known b (by simp))
  obtain ⟨cValue,cSize⟩ := table c (known c (by simp))
  obtain ⟨dValue,dSize⟩ := table d (known d (by simp))
  simp only [List.cons_append,List.nil_append,after,step,stepString,aValue,bValue,cValue,dValue,
    aSize,bSize,cSize,dSize,Option.bind_some,Option.map_some,Nat.reduceLT,Nat.reduceSub,if_true,if_false,Nat.zero_mul,
    Nat.zero_add]
  cases endHex frames isName read high (((a.2 * 16 + b.2) * 16 + c.2) * 16 + d.2) <;> rfl

theorem endHex_toNat (c : Char) :
    endHex frames isName read none c.toNat = .ok ⟨frames, .string isName (c :: read) .none⟩ := by
  have scalar : c.toNat < 0xD800 ∨ 0xDFFF < c.toNat ∧ c.toNat < 0x110000 := c.valid
  have low : ¬ (0xDC00 ≤ c.toNat ∧ c.toNat ≤ 0xDFFF) := by omega
  have high : ¬ (0xD800 ≤ c.toNat ∧ c.toNat ≤ 0xDBFF) := by omega
  simp only [endHex,Bool.and_eq_true,decide_eq_true_eq,low,high,if_false,Char.ofNat_toNat]

theorem endHex_highHalf {high : Nat} (half : 0xD800 ≤ high ∧ high ≤ 0xDBFF) :
    endHex frames isName read none high =
      .ok ⟨frames, .string isName read (.pairBackslash high)⟩ := by
  have other : ¬ (0xDC00 ≤ high ∧ high ≤ 0xDFFF) := by omega
  simp only [endHex,Bool.and_eq_true,decide_eq_true_eq,other,half,and_self,if_false,if_true]

theorem endHex_lowHalf {c : Char} {high low : Nat} (half : 0xDC00 ≤ low ∧ low ≤ 0xDFFF)
    (joined : c.toNat = 0x10000 + (high - 0xD800) * 0x400 + (low - 0xDC00)) :
    endHex frames isName read (some high) low =
      .ok ⟨frames, .string isName (c :: read) .none⟩ := by
  simp only [endHex,Bool.and_eq_true,decide_eq_true_eq,half,and_self,if_true,← joined,
    Char.ofNat_toNat]

theorem after_char {c : Char} {spelling : List Char} (written : WritesChar c spelling)
    (rest : List Char) :
    after ⟨frames, .string isName read .none⟩ (spelling ++ rest) =
      after ⟨frames, .string isName (c :: read) .none⟩ rest := by
  cases written with
  | raw printable noQuote noBackslash =>
    have plain : ¬ c.toNat < 0x20 := by omega
    apply after_cons_of_step
    simp only [step,stepString,noQuote,noBackslash,plain,if_false]
  | short known =>
    have table : ∀ escape ∈ shortEscapes, shortEscape? escape.1 = some escape.2 ∧ escape.1 ≠ 'u' := by
      decide
    obtain ⟨meant,other⟩ := table _ known
    dsimp only at meant other
    simp [after,step,stepString,meant,other]
  | code code =>
    obtain ⟨digits,rfl,digitsRead⟩ := after_code frames isName read code
    calc after ⟨frames, .string isName read .none⟩ ('\\' :: 'u' :: digits ++ rest)
      _ = after ⟨frames, .string isName read (.hex none 4 (some 0))⟩ (digits ++ rest) := by
        simp [after,step,stepString]
      _ = after ⟨frames, .string isName (c :: read) .none⟩ rest := by
        rw [digitsRead,endHex_toNat]
  | @pair _ high low first second highHalf lowHalf joined highCode lowCode =>
    obtain ⟨digits,rfl,digitsRead⟩ := after_code frames isName read highCode
    obtain ⟨more,rfl,moreRead⟩ := after_code frames isName read lowCode
    -- The first code leaves the reader waiting for the second half of its pair.
    rw [List.append_assoc]
    calc after ⟨frames, .string isName read .none⟩
          ('\\' :: 'u' :: digits ++ ('\\' :: 'u' :: more ++ rest))
      _ = after ⟨frames, .string isName read (.hex none 4 (some 0))⟩
          (digits ++ ('\\' :: 'u' :: more ++ rest)) := by
        simp [after,step,stepString]
      _ = after ⟨frames, .string isName read (.pairBackslash high)⟩
          ('\\' :: 'u' :: more ++ rest) := by
        rw [digitsRead,endHex_highHalf frames isName read highHalf]
      _ = after ⟨frames, .string isName read (.hex (some high) 4 (some 0))⟩ (more ++ rest) := by
        simp [after,step,stepString]
      _ = after ⟨frames, .string isName (c :: read) .none⟩ rest := by
        rw [moreRead,endHex_lowHalf frames isName read lowHalf joined]

theorem after_chars {chars text : List Char} (written : WritesChars chars text)
    (rest : List Char) :
    after ⟨frames, .string isName read .none⟩ (text ++ rest) =
      after ⟨frames, .string isName (chars.reverse ++ read) .none⟩ rest := by
  induction written generalizing read with
  | nil => rfl
  | cons first more ih =>
    rw [List.append_assoc,after_char frames isName read first,ih,List.reverse_cons,
      List.append_assoc,List.singleton_append]

end

theorem after_string {string : String} {text : List Char} (written : WritesString string text)
    (frames : List Frame) (slot : Slot) (rest : List Char) :
    after ⟨frames, .value slot⟩ (text ++ rest) = after (settle (.string string) frames) rest := by
  obtain ⟨inner,chars,rfl⟩ := written
  calc after ⟨frames, .value slot⟩ ('"' :: inner ++ ['"'] ++ rest)
    _ = after ⟨frames, .string false [] .none⟩ (inner ++ ('"' :: rest)) := by
      simp [after,step,beginValue,isSpace]
    _ = after ⟨frames, .string false (string.toList.reverse ++ []) .none⟩ ('"' :: rest) :=
      after_chars frames false [] chars _
    _ = after (settle (.string string) frames) rest := by
      simp [after,step,stepString]

theorem after_name {string : String} {text : List Char} (written : WritesString string text)
    (read : List (String × Json)) (outer : List Frame) (isFirst : Bool) (rest : List Char) :
    after ⟨.members read :: outer, .name isFirst⟩ (text ++ rest) =
      after ⟨.member read string :: outer, .colon⟩ rest := by
  obtain ⟨inner,chars,rfl⟩ := written
  calc after ⟨.members read :: outer, .name isFirst⟩ ('"' :: inner ++ ['"'] ++ rest)
    _ = after ⟨.members read :: outer, .string true [] .none⟩ (inner ++ ('"' :: rest)) := by
      simp [after,step,beginName,isSpace]
    _ = after ⟨.members read :: outer, .string true (string.toList.reverse ++ []) .none⟩
        ('"' :: rest) :=
      after_chars _ true [] chars _
    _ = after ⟨.member read string :: outer, .colon⟩ rest := by
      simp [after,step,stepString,settleName]

/-- What may follow a value: white space, a comma or a bracket that closes. -/
def EndsValue (rest : List Char) : Prop :=
  ∃ c more, rest = c :: more ∧ (isSpace c = true ∨ c = ',' ∨ c = ']' ∨ c = '\x7d')

theorem after_word (value : Json) (frames : List Frame) (due : Char) (left rest : List Char) :
    after ⟨frames, .word due left value⟩ (due :: left ++ rest) =
      after (settle value frames) rest := by
  induction left generalizing due with
  | nil => simp [after,step]
  | cons next left ih => simpa [after,step] using ih next

/-- The character that ends a value means the same to a number before it as to what stands around
the number. -/
theorem after_numberEnd {phase : Phase} {read : List Char} (frames : List Frame)
    (whole : phase = .zero ∨ phase = .whole)
    (finite : Magnitude.isInfinite read.reverse = false) {rest : List Char}
    (ends : EndsValue rest) :
    after ⟨frames, .number phase read⟩ rest = after (settle (.number read.reverse) frames) rest := by
  obtain ⟨c,more,rfl,delimiter⟩ := ends
  have other : c.isDigit = false ∧ c ≠ '.' ∧ c ≠ 'e' ∧ c ≠ 'E' := by
    simp only [isSpace,Bool.or_eq_true,beq_iff_eq] at delimiter
    rcases delimiter with (((rfl | rfl) | rfl) | rfl) | rfl | rfl | rfl <;> decide
  obtain ⟨digit,point,small,capital⟩ := other
  have same : afterValue (settle (.number read.reverse) frames) c =
      step (settle (.number read.reverse) frames) c := by
    rcases settle_mode (.number read.reverse) frames with settled | ⟨-,settled⟩ <;>
      simp only [afterValue,step,settled]
  have ended : step ⟨frames, .number phase read⟩ c =
      step (settle (.number read.reverse) frames) c := by
    rcases whole with rfl | rfl <;>
      simp [step,stepNumber,endNumber,digit,point,small,capital,finite,same]
  simp only [after,ended]

theorem after_digits (frames : List Frame) (read digits rest : List Char)
    (decimal : ∀ c ∈ digits, c.isDigit = true) :
    after ⟨frames, .number .whole read⟩ (digits ++ rest) =
      after ⟨frames, .number .whole (digits.reverse ++ read)⟩ rest := by
  induction digits generalizing read with
  | nil => rfl
  | cons c more ih =>
    have grown : step ⟨frames, .number .whole read⟩ c = .next ⟨frames, .number .whole (c :: read)⟩ := by
      simp [step,stepNumber,decimal c (by simp)]
    rw [List.cons_append,after_cons_of_step grown,
      ih _ (fun c member => decimal c (by simp [member]))]
    simp

theorem after_toDigits {state : State} {frames : List Frame} {sign : List Char}
    (signed : sign = [] ∨ sign = ['-'])
    (opens : ∀ c, c.isDigit = true →
      step state c = .next ⟨frames, .number (if c = '0' then .zero else .whole) (c :: sign)⟩)
    {value : Nat} (small : value < UInt64.size) {rest : List Char} (ends : EndsValue rest) :
    after state (Nat.toDigits 10 value ++ rest) =
      after (settle (.number (sign ++ Nat.toDigits 10 value)) frames) rest := by
  have finite := Magnitude.not_isInfinite_toDigits small sign signed
  have decimal := isDigit_toDigits value
  have mirror : sign.reverse = sign := by rcases signed with rfl | rfl <;> rfl
  rcases toDigits_cases value with ⟨-,zero⟩ | ⟨first,more,digits,nonzero⟩
  · rw [zero] at finite ⊢
    have opened := opens '0' (by decide)
    rw [if_pos rfl] at opened
    rw [List.cons_append,List.nil_append,after_cons_of_step opened,
      after_numberEnd frames (.inl rfl) (by simpa [mirror] using finite) ends]
    simp [mirror]
  · rw [digits] at finite decimal ⊢
    have opened := opens first (decimal first (by simp))
    rw [if_neg nonzero] at opened
    rw [List.cons_append,after_cons_of_step opened,
      after_digits frames _ more rest (fun c member => decimal c (by simp [member])),
      after_numberEnd frames (.inr rfl) (by simpa [mirror] using finite) ends]
    simp [mirror]

theorem value_opens_digit (frames : List Frame) (slot : Slot) (c : Char) (digit : c.isDigit = true) :
    step ⟨frames, .value slot⟩ c =
      .next ⟨frames, .number (if c = '0' then .zero else .whole) [c]⟩ := by
  have other (d : Char) (unlike : d.isDigit = false) : c ≠ d := by
    rintro rfl
    simp [unlike] at digit
  have space : isSpace c = false := by
    simp [isSpace,other ' ' rfl,other '\t' rfl,other '\n' rfl,other '\r' rfl]
  simp only [step,beginValue,space,other ']' rfl,other 'n' rfl,other 't' rfl,other 'f' rfl,
    other '-' rfl,digit]
  by_cases zero : c = '0' <;> simp [zero]

theorem minus_opens_digit (frames : List Frame) (c : Char) (digit : c.isDigit = true) :
    step ⟨frames, .number .minus ['-']⟩ c =
      .next ⟨frames, .number (if c = '0' then .zero else .whole) [c, '-']⟩ := by
  by_cases zero : c = '0' <;> simp [step,stepNumber,zero,digit]

theorem after_scalar {value : Json} {text : List Char} (written : WritesScalar value text)
    (frames : List Frame) (slot : Slot) {rest : List Char} (ends : EndsValue rest) :
    after ⟨frames, .value slot⟩ (text ++ rest) = after (settle value frames) rest := by
  have opens (c : Char) (next : State) (stepped : step ⟨frames, .value slot⟩ c = .next next)
      (more : List Char) : after ⟨frames, .value slot⟩ (c :: more ++ rest) =
        after next (more ++ rest) :=
    after_cons_of_step stepped _
  cases written with
  | null =>
    rw [opens 'n' ⟨frames, .word 'u' ['l', 'l'] .null⟩ (by simp [step,beginValue,isSpace])]
    exact after_word _ _ _ _ _
  | true =>
    rw [opens 't' ⟨frames, .word 'r' ['u', 'e'] (.boolean true)⟩
      (by simp [step,beginValue,isSpace])]
    exact after_word _ _ _ _ _
  | false =>
    rw [opens 'f' ⟨frames, .word 'a' ['l', 's', 'e'] (.boolean false)⟩
      (by simp [step,beginValue,isSpace])]
    exact after_word _ _ _ _ _
  | natural value small => exact after_toDigits (.inl rfl) (value_opens_digit frames slot) small ends
  | negative value small =>
    rw [opens '-' ⟨frames, .number .minus ['-']⟩ (by simp [step,beginValue,isSpace])]
    exact after_toDigits (.inr rfl) (minus_opens_digit frames) small ends
  | string written => exact after_string written frames slot rest

/-- What is written comes back as the value it is written for, wherever there is room to open so many
more arrays and objects. -/
def Reads (room : Nat) (writes : Json → List Char → Prop) : Prop :=
  ∀ value text, writes value text → ∀ frames slot rest, frames.length + room ≤ deepest →
    EndsValue rest → after ⟨frames, .value slot⟩ (text ++ rest) = after (settle value frames) rest

theorem endsValue_blank {blank : List Char} (space : IsBlank blank) {c : Char} (rest : List Char)
    (delimiter : c = ',' ∨ c = ']' ∨ c = '\x7d') : EndsValue (blank ++ c :: rest) := by
  cases blank with
  | nil => exact ⟨c,rest,rfl,.inr delimiter⟩
  | cons first more =>
    rw [isBlank_iff,List.all_cons,Bool.and_eq_true] at space
    exact ⟨first,_,rfl,.inl space.1⟩

section
variable {room : Nat} {writes : Json → List Char → Prop} (reads : Reads room writes)
include reads

theorem after_items {items : List Json} {text : List Char} (written : Separated writes items text)
    (frames : List Frame) (enough : frames.length + 1 + room ≤ deepest) (read : List Json)
    (slot : Slot) (rest : List Char) :
    after ⟨.items read :: frames, .value slot⟩ (text ++ ']' :: rest) =
      after (settle (.array (read.reverse ++ items)) frames) rest := by
  induction written generalizing read slot with
  | @last before text behind item leading written trailing =>
    calc after ⟨.items read :: frames, .value slot⟩ (before ++ text ++ behind ++ ']' :: rest)
      _ = after ⟨.items read :: frames, .value slot⟩ (text ++ (behind ++ ']' :: rest)) := by
        rw [List.append_assoc,List.append_assoc,after_blank (value_waits _ _) leading]
      _ = after ⟨.items (item :: read) :: frames, .separator⟩ (behind ++ ']' :: rest) :=
        reads item text written _ _ _ enough (endsValue_blank trailing _ (by simp))
      _ = after (settle (.array (read.reverse ++ [item])) frames) rest := by
        rw [after_blank (separator_waits _) trailing]
        simp [after,step,betweenValues,isSpace,close]
  | @more before text behind others item items leading written trailing _ ih =>
    calc after ⟨.items read :: frames, .value slot⟩
          (before ++ text ++ behind ++ ',' :: others ++ ']' :: rest)
      _ = after ⟨.items read :: frames, .value slot⟩
          (text ++ (behind ++ ',' :: (others ++ ']' :: rest))) := by
        simp only [List.append_assoc,List.cons_append]
        rw [after_blank (value_waits _ _) leading]
      _ = after ⟨.items (item :: read) :: frames, .separator⟩
          (behind ++ ',' :: (others ++ ']' :: rest)) :=
        reads item text written _ _ _ enough (endsValue_blank trailing _ (by simp))
      _ = after ⟨.items (item :: read) :: frames, .value .next⟩ (others ++ ']' :: rest) := by
        rw [after_blank (separator_waits _) trailing]
        simp [after,step,betweenValues,isSpace]
      _ = after (settle (.array (read.reverse ++ item :: items)) frames) rest := by
        rw [ih (item :: read) .next]
        simp

theorem after_member {member : String × Json} {text : List Char}
    (written : WritesMember writes member text) (frames : List Frame)
    (enough : frames.length + 1 + room ≤ deepest) (read : List (String × Json)) (isFirst : Bool)
    {rest : List Char} (ends : EndsValue rest) :
    after ⟨.members read :: frames, .name isFirst⟩ (text ++ rest) =
      after ⟨.members (member :: read) :: frames, .separator⟩ rest := by
  obtain ⟨spelled,leading,trailing,written⟩ := written
  next name value nameText before behind text =>
  calc after ⟨.members read :: frames, .name isFirst⟩
        (nameText ++ before ++ ':' :: behind ++ text ++ rest)
    _ = after ⟨.member read name :: frames, .colon⟩
        (before ++ ':' :: (behind ++ (text ++ rest))) := by
      simp only [List.append_assoc,List.cons_append]
      exact after_name spelled _ _ _ _
    _ = after ⟨.member read name :: frames, .value .member⟩ (behind ++ (text ++ rest)) := by
      rw [after_blank (colon_waits _) leading]
      simp [after,step,isSpace]
    _ = after ⟨.members ((name, value) :: read) :: frames, .separator⟩ rest := by
      rw [after_blank (value_waits _ _) trailing]
      exact reads value text written _ _ _ enough ends

theorem after_members {members : List (String × Json)} {text : List Char}
    (written : Separated (WritesMember writes) members text) (frames : List Frame)
    (enough : frames.length + 1 + room ≤ deepest) (read : List (String × Json)) (isFirst : Bool)
    (rest : List Char) :
    after ⟨.members read :: frames, .name isFirst⟩ (text ++ '\x7d' :: rest) =
      after (settle (.object (read.reverse ++ members)) frames) rest := by
  induction written generalizing read isFirst with
  | @last before text behind member leading written trailing =>
    calc after ⟨.members read :: frames, .name isFirst⟩ (before ++ text ++ behind ++ '\x7d' :: rest)
      _ = after ⟨.members read :: frames, .name isFirst⟩ (text ++ (behind ++ '\x7d' :: rest)) := by
        rw [List.append_assoc,List.append_assoc,after_blank (name_waits _ _) leading]
      _ = after ⟨.members (member :: read) :: frames, .separator⟩ (behind ++ '\x7d' :: rest) :=
        after_member reads written _ enough _ _ (endsValue_blank trailing _ (by simp))
      _ = after (settle (.object (read.reverse ++ [member])) frames) rest := by
        rw [after_blank (separator_waits _) trailing]
        simp [after,step,betweenValues,isSpace,close]
  | @more before text behind others member members leading written trailing _ ih =>
    calc after ⟨.members read :: frames, .name isFirst⟩
          (before ++ text ++ behind ++ ',' :: others ++ '\x7d' :: rest)
      _ = after ⟨.members read :: frames, .name isFirst⟩
          (text ++ (behind ++ ',' :: (others ++ '\x7d' :: rest))) := by
        simp only [List.append_assoc,List.cons_append]
        rw [after_blank (name_waits _ _) leading]
      _ = after ⟨.members (member :: read) :: frames, .separator⟩
          (behind ++ ',' :: (others ++ '\x7d' :: rest)) :=
        after_member reads written _ enough _ _ (endsValue_blank trailing _ (by simp))
      _ = after ⟨.members (member :: read) :: frames, .name false⟩ (others ++ '\x7d' :: rest) := by
        rw [after_blank (separator_waits _) trailing]
        simp [after,step,betweenValues,isSpace]
      _ = after (settle (.object (read.reverse ++ member :: members)) frames) rest := by
        rw [ih (member :: read) false]
        simp

theorem after_array {items : List Json} {text : List Char}
    (written : Bracketed writes '[' ']' items text) (frames : List Frame)
    (enough : frames.length + 1 + room ≤ deepest) (slot : Slot) (rest : List Char) :
    after ⟨frames, .value slot⟩ (text ++ rest) = after (settle (.array items) frames) rest := by
  have open' (more : List Char) : after ⟨frames, .value slot⟩ ('[' :: more) =
      after ⟨.items [] :: frames, .value .first⟩ more := by
    have deep : frames.length < deepest := by omega
    exact after_cons_of_step (by simp [step,beginValue,isSpace,openValue,deep]) more
  cases written with
  | empty space =>
    rw [List.append_assoc,List.cons_append,open',after_blank (value_waits _ _) space]
    simp [after,step,beginValue,isSpace,close]
  | full separated =>
    rw [List.append_assoc,List.cons_append,open']
    exact after_items reads separated frames enough [] .first rest

theorem after_object {members : List (String × Json)} {text : List Char}
    (written : Bracketed (WritesMember writes) '\x7b' '\x7d' members text) (frames : List Frame)
    (enough : frames.length + 1 + room ≤ deepest) (slot : Slot) (rest : List Char) :
    after ⟨frames, .value slot⟩ (text ++ rest) = after (settle (.object members) frames) rest := by
  have open' (more : List Char) : after ⟨frames, .value slot⟩ ('\x7b' :: more) =
      after ⟨.members [] :: frames, .name true⟩ more := by
    have deep : frames.length < deepest := by omega
    exact after_cons_of_step (by simp [step,beginValue,isSpace,openValue,deep]) more
  cases written with
  | empty space =>
    rw [List.append_assoc,List.cons_append,open',after_blank (name_waits _ _) space]
    simp [after,step,beginName,isSpace,close]
  | full separated =>
    rw [List.append_assoc,List.cons_append,open']
    exact after_members reads separated frames enough [] true rest

end

/-- Every text of a value is read as that value. -/
theorem reads_writes (depth : Nat) : Reads depth (Writes depth) := by
  -- A bracket takes one frame of the room and one level of the depth.
  induction depth with
  | zero => exact fun value text written frames slot rest _ ends =>
      after_scalar written frames slot ends
  | succ depth ih =>
    intro value text written frames slot rest enough ends
    rcases written with scalar | ⟨items,rfl,array⟩ | ⟨members,rfl,object⟩
    · exact after_scalar scalar frames slot ends
    · exact after_array ih array frames (by omega) slot rest
    · exact after_object ih object frames (by omega) slot rest

/-- Every text of an object is read as that object, however many blanks surround it. -/
theorem read_writesDocument {depth : Nat} (shallow : depth ≤ deepest)
    {members : List (String × Json)} {text : List Char}
    (written : WritesDocument depth (.object members) text) :
    read text = .ok (.object members) := by
  obtain ⟨before,inner,behind,leading,object,trailing,rfl⟩ := written
  refine (read_eq_ok_iff _ _).mpr ⟨⟨[], .done (.object members)⟩,?_,rfl⟩
  have waits : ∀ c, isSpace c = true → step ⟨[], .done (.object members)⟩ c =
      .next ⟨[], .done (.object members)⟩ := by
    intro c space
    simp only [step,afterDocument,space,if_true]
  have done : after (settle (.object members) []) behind = some ⟨[], .done (.object members)⟩ := by
    have all := after_blank waits trailing []
    rwa [List.append_nil] at all
  rw [List.append_assoc,start,after_blank (value_waits _ _) leading]
  cases depth with
  | zero => nomatch object
  | succ depth =>
    rcases object with scalar | ⟨items,other,-⟩ | ⟨same,equal,object⟩
    · nomatch scalar
    · nomatch other
    · obtain rfl := Json.object.inj equal
      rw [after_object (reads_writes depth) object [] (by simpa [Nat.add_comm] using shallow),done]

end NotebookLint.Json.Reader
