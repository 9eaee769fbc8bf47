import NotebookLint.Proofs.Rules.Written
import NotebookLint.Toml.Token

/-! The tokens of a rules file in TOML. -/
namespace NotebookLint.Toml

def markTokens : List Token :=
  [.blank [' '], .equals, .blank [' ']]

def encloseTokens (opening closing : Token) (items : List (List Token)) : List Token :=
  opening :: [.comma, .blank [' ']].intercalate items ++ [closing]

def memberTokens (name text : String) : List Token :=
  .atom name.toList :: markTokens ++ [.string false text.toList]

def entryTokens (entry : Abbreviation) : List Token :=
  encloseTokens .openBrace .closeBrace
    [memberTokens "term" entry.term, memberTokens "expansion" entry.expansion]

def settingTokens : Setting → List Token
  | .text text => [.string false text.toList]
  | .number value => [.atom (Nat.toDigits 10 value)]
  | .texts texts =>
    encloseTokens .openBracket .closeBracket (texts.map fun text => [.string false text.toList])
  | .entries entries => encloseTokens .openBracket .closeBracket (entries.map entryTokens)

def lineTokens (line : String × Setting) : List Token :=
  .atom line.1.toList :: markTokens ++ settingTokens line.2 ++ [.newline]

namespace Token
open Text Rules

/-- What may follow a token that does not end by itself. -/
def EndsToken (rest : List Char) : Prop :=
  ∃ c more, rest = c :: more ∧ (c = '\n' ∨ c = ' ' ∨ c = ',' ∨ c = ']' ∨ c = '\x7d')

/-- A text is read as these tokens, where something follows that ends them. -/
def Scans (text : List Char) (tokens : List Token) : Prop :=
  ∀ before rest, EndsToken rest → (text ++ rest).foldlM step ⟨before, .between⟩ =
    rest.foldlM step ⟨tokens.reverse ++ before, .between⟩

/-- Such a text that does not begin with a blank. -/
structure Begins (text : List Char) (tokens : List Token) : Prop where
  visible : ∃ c more, text = c :: more ∧ isBlank c = false
  scans : Scans text tokens

theorem endsAtom_of_endsToken {c : Char} {more : List Char} (ends : EndsToken (c :: more)) :
    endsAtom c = true ∧ c ≠ '"' := by
  obtain ⟨_,_,same,delimiter⟩ := ends
  obtain ⟨rfl,rfl⟩ := List.cons.inj same
  rcases delimiter with rfl | rfl | rfl | rfl | rfl <;> decide

theorem begin_eq_atom {c : Char} (inside : endsAtom c = false) (tokens : List Token) :
    begin tokens c = ⟨tokens, .atom [c]⟩ := by
  simp only [endsAtom,Bool.or_eq_false_iff,beq_eq_false_iff_ne,Option.isSome_eq_false_iff,
    Option.isNone_iff_eq_none] at inside
  simp [begin,inside]

theorem foldlM_atom (tokens : List Token) (read more rest : List Char)
    (inside : ∀ c ∈ more, endsAtom c = false) (ends : EndsToken rest) :
    (more ++ rest).foldlM step ⟨tokens, .atom read⟩ =
      rest.foldlM step ⟨.atom (read.reverse ++ more) :: tokens, .between⟩ := by
  induction more generalizing read with
  | nil =>
    obtain ⟨c,more,rfl,delimiter⟩ := ends
    have ended := (endsAtom_of_endsToken ⟨c,more,rfl,delimiter⟩).1
    simp [step,ended]
  | cons c more ih =>
    rw [List.forall_mem_cons] at inside
    have kept : step ⟨tokens, .atom read⟩ c = some ⟨tokens, .atom (c :: read)⟩ := by
      simp [step,inside.1]
    rw [List.cons_append,List.foldlM_cons,kept]
    simpa using ih (c :: read) inside.2

theorem scans_atom {text : List Char} (some' : text ≠ [])
    (inside : ∀ c ∈ text, endsAtom c = false) : Scans text [.atom text] := by
  intro before rest ends
  obtain ⟨c,more,rfl⟩ := List.exists_cons_of_ne_nil some'
  rw [List.forall_mem_cons] at inside
  have opened : step ⟨before, .between⟩ c = some ⟨before, .atom [c]⟩ := by
    rw [step,begin_eq_atom inside.1]
  rw [List.cons_append,List.foldlM_cons,opened]
  exact foldlM_atom before [c] more rest inside.2 ends

theorem foldlM_capitalDigits (tokens : List Token) (read rest : List Char) (width due value : Nat)
    {code : Nat} (small : code < codeCount width) (more : 0 < due) :
    (capitalDigits code width ++ rest).foldlM step
        ⟨tokens, .single '"' read (some (.hex (width + due) value))⟩ =
      rest.foldlM step ⟨tokens, .single '"' read (some (.hex due (value * codeCount width + code)))⟩ := by
  induction width generalizing code due rest with
  | zero =>
    have zero : code = 0 := Nat.lt_one_iff.mp small
    simp [capitalDigits,zero,codeCount]
  | succ width ih =>
    have higher := div_lt_codeCount small
    have digit := hexDigit?_capitalDigit (Nat.mod_lt code (show 0 < 16 by decide))
    have last : step ⟨tokens, .single '"' read (some (.hex (due + 1) (value * codeCount width + code / 16)))⟩
        (capitalDigit (code % 16)) = some
          ⟨tokens, .single '"' read (some (.hex due (value * codeCount (width + 1) + code)))⟩ := by
      simp [step,stepSingle,stepEscape,digit,more,codeCount_shift]
    rw [capitalDigits,List.append_assoc,List.singleton_append,
      show width + 1 + due = width + (due + 1) by omega,ih _ (due + 1) higher (by omega),
      List.foldlM_cons,last]
    rfl

theorem foldlM_escape (tokens : List Token) (read : List Char) (c : Char) (rest : List Char) :
    (escape c ++ rest).foldlM step ⟨tokens, .single '"' read none⟩ =
      rest.foldlM step ⟨tokens, .single '"' (c :: read) none⟩ := by
  unfold escape
  split
  · next special =>
    rcases special with rfl | rfl <;> simp [step,stepSingle,stepEscape,shortEscape?]
  split
  · next noEscape printable =>
    have plain : isControl c = false := by
      simp only [isControl,Bool.or_eq_false_iff,Bool.and_eq_false_iff,decide_eq_false_iff_not,
        beq_eq_false_iff_ne]
      omega
    rw [not_or] at noEscape
    simp [step,stepSingle,noEscape,plain]
  · have code : c.toNat = c.toNat / 16 * 16 + c.toNat % 16 := by omega
    have valid : c.toNat.isValidChar := c.valid
    have digit := hexDigit?_capitalDigit (Nat.mod_lt c.toNat (show 0 < 16 by decide))
    have opened : ∀ more, ('\\' :: 'U' :: more).foldlM step ⟨tokens, .single '"' read none⟩ =
        more.foldlM step ⟨tokens, .single '"' read (some (.hex 8 0))⟩ := by
      simp [step,stepSingle,stepEscape,shortEscape?,hexEscape?]
    have last : step ⟨tokens, .single '"' read (some (.hex 1 (c.toNat / 16)))⟩
        (capitalDigit (c.toNat % 16)) = some ⟨tokens, .single '"' (c :: read) none⟩ := by
      simp [step,stepSingle,stepEscape,digit,← code,character?,valid]
    -- Seven digits leave the escape open, and the eighth completes the character.
    rw [List.cons_append,List.cons_append,opened,capitalDigits,List.append_assoc,
      foldlM_capitalDigits tokens read _ 7 1 0 (toNat_div_lt_codeCount c) (by decide),
      Nat.zero_mul,Nat.zero_add,List.singleton_append,List.foldlM_cons,last]
    rfl

theorem foldlM_escapes (tokens : List Token) (read chars rest : List Char) :
    (chars.flatMap escape ++ rest).foldlM step ⟨tokens, .single '"' read none⟩ =
      rest.foldlM step ⟨tokens, .single '"' (chars.reverse ++ read) none⟩ := by
  induction chars generalizing read with
  | nil => rfl
  | cons c chars ih =>
    rw [List.flatMap_cons,List.append_assoc,foldlM_escape,ih,List.reverse_cons,List.append_assoc,
      List.singleton_append]

theorem head_escape (c : Char) : ∃ first more, escape c = first :: more ∧ first ≠ '"' := by
  unfold escape
  split
  · exact ⟨_,_,rfl,by decide⟩
  split
  · next noEscape _ => exact ⟨_,_,rfl,fun quote => noEscape (.inr quote)⟩
  · exact ⟨_,_,rfl,by decide⟩

/-- A text in quotes is one string, even if it is empty: no third quote follows then. -/
theorem scans_quote (text : String) : Scans (quote text) [.string false text.toList] := by
  intro before rest ends
  have opened : ∀ more, ('"' :: more).foldlM step ⟨before, .between⟩ =
      more.foldlM step ⟨before, .quotes '"' 1⟩ := by
    simp [step,begin]
  have closed : ∀ read : List Char, ('"' :: rest).foldlM step ⟨before, .single '"' read none⟩ =
      rest.foldlM step ⟨.string false read.reverse :: before, .between⟩ := by
    simp [step,stepSingle]
  rw [quote,List.append_assoc,List.cons_append,opened,List.singleton_append]
  generalize text.toList = chars
  cases chars with
  | nil =>
    obtain ⟨c,more,rfl,delimiter⟩ := ends
    have other := (endsAtom_of_endsToken ⟨c,more,rfl,delimiter⟩).2
    simp [step,other]
  | cons c chars =>
    obtain ⟨first,more,spelled,other⟩ := head_escape c
    have same : ((c :: chars).flatMap escape ++ '"' :: rest).foldlM step ⟨before, .quotes '"' 1⟩ =
        ((c :: chars).flatMap escape ++ '"' :: rest).foldlM step
          ⟨before, .single '"' [] none⟩ := by
      rw [List.flatMap_cons,spelled,List.cons_append,List.cons_append,List.foldlM_cons,
        List.foldlM_cons]
      simp [step,other]
    rw [same,foldlM_escapes,closed]
    simp

theorem begins_quote (text : String) : Begins (quote text) [.string false text.toList] :=
  ⟨⟨'"',_,rfl,by decide⟩,scans_quote text⟩

theorem begins_word {text : List Char} (word : IsWord text) : Begins text [.atom text] := by
  have inside : ∀ c ∈ text, endsAtom c = false := by
    intro c among
    have other := word.ne among
    simp [endsAtom,punctuation?,other '\n',other '\r',other ' ',other '\t',other '#',other '"',
      other '\'',other '.',other '=',other ',',other '[',other ']',other '\x7b',other '\x7d']
  refine ⟨?_,scans_atom word.1 inside⟩
  obtain ⟨c,more,rfl⟩ := List.exists_cons_of_ne_nil word.1
  refine ⟨c,more,rfl,?_⟩
  have first := inside c (by simp)
  simp only [endsAtom,Bool.or_eq_false_iff] at first
  simp [isBlank,first]

theorem foldlM_space {c : Char} (visible : isBlank c = false) (before : List Token)
    (more : List Char) : (' ' :: c :: more).foldlM step ⟨before, .between⟩ =
      (c :: more).foldlM step ⟨.blank [' '] :: before, .between⟩ := by
  simp [step,begin,visible]

theorem begins_named {name : List Char} (word : IsWord name) {value : List Char}
    {tokens : List Token} (begins : Begins value tokens) :
    Begins (name ++ FileFormat.toml.mark ++ value) (.atom name :: markTokens ++ tokens) := by
  obtain ⟨⟨first,others,named,visible⟩,scans⟩ := begins_word word
  obtain ⟨⟨c,more,rfl,opens⟩,scansValue⟩ := begins
  refine ⟨⟨first,_,by rw [named,List.cons_append,List.cons_append],visible⟩,?_⟩
  intro before rest ends
  have equals : ∀ before more, ('=' :: more).foldlM step ⟨before, .between⟩ =
      more.foldlM step ⟨.equals :: before, .between⟩ := by
    simp [step,begin,punctuation?]
  calc (name ++ FileFormat.toml.mark ++ (c :: more) ++ rest).foldlM step ⟨before, .between⟩
    _ = (name ++ (' ' :: '=' :: ' ' :: c :: (more ++ rest))).foldlM step ⟨before, .between⟩ := by
      simp [FileFormat.mark]
    _ = (' ' :: '=' :: ' ' :: c :: (more ++ rest)).foldlM step
        ⟨.atom name :: before, .between⟩ :=
      scans before _ ⟨_,_,rfl,by simp⟩
    _ = (c :: more ++ rest).foldlM step
        ⟨.blank [' '] :: .equals :: .blank [' '] :: .atom name :: before, .between⟩ := by
      rw [foldlM_space (by decide),equals,foldlM_space opens,List.cons_append]
    _ = rest.foldlM step ⟨(.atom name :: markTokens ++ tokens).reverse ++ before, .between⟩ := by
      rw [scansValue _ _ ends]
      simp [markTokens]

theorem scans_intercalate {texts : List (List Char)} {tokens : List (List Token)}
    (each : List.Forall₂ Begins texts tokens) :
    Scans ([',', ' '].intercalate texts) ([.comma, .blank [' ']].intercalate tokens) := by
  induction each with
  | nil => exact fun before rest _ => rfl
  | @cons text item texts items first others ih =>
    intro before rest ends
    cases others with
    | nil => simpa using first.scans before rest ends
    | @cons next nextItem texts items second others =>
      obtain ⟨c,more,rfl,opens⟩ := second.visible
      have comma : ∀ before more, (',' :: more).foldlM step ⟨before, .between⟩ =
          more.foldlM step ⟨.comma :: before, .between⟩ := by
        simp [step,begin,punctuation?]
      obtain ⟨later,split⟩ : ∃ later, [',', ' '].intercalate ((c :: more) :: texts) = c :: later :=
        ⟨_,List.intercalate_cons_cons_left⟩
      calc ([',', ' '].intercalate (text :: (c :: more) :: texts) ++ rest).foldlM step
            ⟨before, .between⟩
        _ = (text ++ (',' :: ' ' :: c :: (later ++ rest))).foldlM step ⟨before, .between⟩ := by
          rw [List.intercalate_cons_cons,split]
          simp
        _ = (',' :: ' ' :: c :: (later ++ rest)).foldlM step
            ⟨item.reverse ++ before, .between⟩ :=
          first.scans _ _ ⟨_,_,rfl,by simp⟩
        _ = ([',', ' '].intercalate ((c :: more) :: texts) ++ rest).foldlM step
            ⟨.blank [' '] :: .comma :: (item.reverse ++ before), .between⟩ := by
          rw [comma,foldlM_space opens,split,List.cons_append]
        _ = rest.foldlM step ⟨([.comma, .blank [' ']].intercalate
            (item :: nextItem :: items)).reverse ++ before, .between⟩ := by
          rw [ih _ _ ends,List.intercalate_cons_cons]
          simp

theorem begins_enclose {opening closing : Char} {openToken closeToken : Token}
    (opens : punctuation? opening = some openToken)
    (closes : punctuation? closing = some closeToken)
    (ends : closing = ']' ∨ closing = '\x7d') (begins : opening = '[' ∨ opening = '\x7b')
    {texts : List (List Char)} {tokens : List (List Token)}
    (each : List.Forall₂ Begins texts tokens) :
    Begins (enclose opening closing texts) (encloseTokens openToken closeToken tokens) := by
  have opened : ∀ before more, (opening :: more).foldlM step ⟨before, .between⟩ =
      more.foldlM step ⟨openToken :: before, .between⟩ := by
    rcases begins with rfl | rfl <;> simp [step,begin,opens]
  have closed : ∀ before more, (closing :: more).foldlM step ⟨before, .between⟩ =
      more.foldlM step ⟨closeToken :: before, .between⟩ := by
    rcases ends with rfl | rfl <;> simp [step,begin,closes]
  refine ⟨⟨opening,_,rfl,by rcases begins with rfl | rfl <;> decide⟩,?_⟩
  intro before rest _
  rw [enclose,List.append_assoc,List.cons_append,opened,List.singleton_append,
    scans_intercalate each _ _ ⟨closing,_,rfl,by simp [ends]⟩,closed]
  simp [encloseTokens]

theorem begins_entry (entry : Abbreviation) :
    Begins (writeEntry FileFormat.toml.mark entry) (entryTokens entry) := by
  apply begins_enclose (by decide) (by decide) (.inr rfl) (.inr rfl)
  exact .cons (begins_named (isWord_of_all (by decide) (by decide)) (begins_quote _))
    (.cons (begins_named (isWord_of_all (by decide) (by decide)) (begins_quote _)) .nil)

theorem begins_setting (setting : Setting) :
    Begins (writeSetting FileFormat.toml.mark setting) (settingTokens setting) := by
  cases setting with
  | text text => exact begins_quote text
  | number value => exact begins_word (isWord_toDigits value)
  | texts texts =>
    apply begins_enclose (by decide) (by decide) (.inl rfl) (.inl rfl)
    exact forall₂_map_map begins_quote texts
  | entries entries =>
    apply begins_enclose (by decide) (by decide) (.inl rfl) (.inl rfl)
    exact forall₂_map_map begins_entry entries

theorem foldlM_lines {lines : List (String × Setting)}
    (worded : ∀ line ∈ lines, IsWord line.1.toList) (before : List Token) :
    (lines.flatMap (writeLine FileFormat.toml.mark)).foldlM step ⟨before, .between⟩ =
      some ⟨(lines.flatMap lineTokens).reverse ++ before, .between⟩ := by
  induction lines generalizing before with
  | nil => rfl
  | cons line lines ih =>
    obtain ⟨word,others⟩ := List.forall_mem_cons.mp worded
    have newline : ∀ before more, ('\n' :: more).foldlM step ⟨before, .between⟩ =
        more.foldlM step ⟨.newline :: before, .between⟩ := by
      simp [step,begin]
    rw [List.flatMap_cons,writeLine,List.append_assoc,List.singleton_append,
      (begins_named word (begins_setting line.2)).scans _ _ ⟨_,_,rfl,by simp⟩,newline,
      ih others]
    simp [lineTokens]

/-- A file is read as the tokens of its lines. -/
theorem scan_lines {lines : List (String × Setting)}
    (worded : ∀ line ∈ lines, IsWord line.1.toList) :
    scan (lines.flatMap (writeLine FileFormat.toml.mark)) = some (lines.flatMap lineTokens) := by
  rw [scan,start,foldlM_lines worded]
  simp [finish]

end Token
end NotebookLint.Toml
