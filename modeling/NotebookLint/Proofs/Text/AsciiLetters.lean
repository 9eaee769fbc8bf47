import NotebookLint.Proofs.Text.SmallLetters

/-! Lower case and the letters of ASCII. Of all other characters only two have a letter of ASCII in
their lower case: the Kelvin sign, and the capital I with a dot above, which leaves the dot behind
its small letter. A keyword that neither of them can help to spell is in the lower case of a text
just where it is in the text with its capital letters of ASCII made small. -/
namespace NotebookLint.Text

def isAscii (c : Char) : Bool :=
  c.toNat < 128

/-- The text with small letters for the capital letters from A to Z, and nothing else changed. -/
def asciiLowercase (text : List Char) : List Char :=
  text.map Char.toLower

theorem lowerChar_of_isAscii {c : Char} (ascii : isAscii c = true) : lowerChar c = [c.toLower] := by
  have all : ∀ code < 128, lowerChar (Char.ofNat code) = [(Char.ofNat code).toLower] := by
    decide +kernel
  have here := all c.toNat (of_decide_eq_true ascii)
  rwa [Char.ofNat_toNat] at here

theorem toLower_of_not_isAscii {c : Char} (strange : isAscii c = false) : c.toLower = c := by
  have beyond : 128 ≤ c.toNat := by simpa [isAscii] using strange
  apply dif_neg
  rintro ⟨-,last⟩
  have bound : c.toNat ≤ 90 := last
  omega

theorem lowerCode_isValidChar {code : Nat} (valid : code.isValidChar) :
    (lowerCode caseRuns code).isValidChar := by
  have table : caseRuns.all (fun run => run.image + (run.last - run.first) < 0xD800 ||
      0xDFFF < run.image && run.image + (run.last - run.first) < 0x110000) = true := by
    decide +kernel
  rcases lowerCode_cases caseRuns code with same | ⟨run,member,capital,image⟩
  · rwa [same]
  · have bounds := List.all_eq_true.mp table run member
    simp only [Bool.or_eq_true,Bool.and_eq_true,decide_eq_true_eq] at bounds
    have inside := capital.inside
    rw [image,Nat.isValidChar]
    omega

theorem lowerCode_of_not_ascii {code : Nat} (strange : 128 ≤ code) :
    lowerCode caseRuns code = 'k'.toNat ∨ 128 ≤ lowerCode caseRuns code := by
  have table : caseRuns.all (fun run => run.last < 128 || 128 ≤ run.image ||
      run.image == 'k'.toNat && run.first == run.last) = true := by
    decide +kernel
  rcases lowerCode_cases caseRuns code with same | ⟨run,member,capital,image⟩
  · right
    rwa [same]
  · have bounds := List.all_eq_true.mp table run member
    simp only [Bool.or_eq_true,Bool.and_eq_true,decide_eq_true_eq,beq_iff_eq] at bounds
    have begun := capital.begun
    have inside := capital.inside
    rw [image]
    omega

/-- How one character of a text is lowered, as far as letters of ASCII are concerned. -/
inductive Lowers : Char → List Char → Prop
  | ascii {c : Char} : isAscii c = true → Lowers c [c.toLower]
  | dotted : Lowers 'İ' ['i', '\u0307']
  | other {c d : Char} : isAscii c = false → d = 'k' ∨ isAscii d = false → Lowers c [d]

theorem lowers_lowerChar (c : Char) : Lowers c (lowerChar c) := by
  cases ascii : isAscii c with
  | true =>
    rw [lowerChar_of_isAscii ascii]
    exact .ascii ascii
  | false =>
    by_cases dotted : c = 'İ'
    · rw [dotted]
      exact .dotted
    · have valid : (lowerCode caseRuns c.toNat).isValidChar := lowerCode_isValidChar c.valid
      have code : (Char.ofNat (lowerCode caseRuns c.toNat)).toNat = lowerCode caseRuns c.toNat := by
        rw [Char.ofNat,dif_pos valid]
        rfl
      have strange : 128 ≤ c.toNat := by simpa [isAscii] using ascii
      rw [lowerChar,if_neg dotted]
      apply Lowers.other ascii
      rcases lowerCode_of_not_ascii strange with kelvin | beyond
      · left
        rw [kelvin]
        rfl
      · right
        simpa [isAscii,code] using beyond

/-- The first character of a text is lowered on its own, whatever stands around it. -/
theorem exists_lowers (cased : Bool) (c : Char) (rest : List Char) :
    ∃ image next, Lowers c image ∧
      lowercaseAfter cased (c :: rest) = image ++ lowercaseAfter next rest := by
  rw [lowercaseAfter]
  split
  · rename_i sigma
    subst sigma
    refine ⟨[_],_,?_,rfl⟩
    apply Lowers.other (by decide)
    right
    split <;> decide
  · exact ⟨lowerChar c,_,lowers_lowerChar c,rfl⟩

theorem eq_nil_of_prefix_cons {part : List Char} {c : Char} (absent : c ∉ part) {text : List Char}
    (begins : part <+: c :: text) : part = [] := by
  cases part with
  | nil => rfl
  | cons d part =>
    obtain ⟨rfl,-⟩ := List.cons_prefix_cons.mp begins
    exact absurd List.mem_cons_self absent

theorem infix_cons_iff_of_not_mem {part : List Char} {c : Char} (absent : c ∉ part)
    (text : List Char) : part <:+: c :: text ↔ part <:+: text := by
  rw [List.infix_cons_iff]
  apply or_iff_right_of_imp
  intro begins
  rw [eq_nil_of_prefix_cons absent begins]
  exact List.nil_infix

/-- A keyword of ASCII without the small letter of the Kelvin sign, in which no `i` comes last. -/
structure IsPlainKeyword (keyword : List Char) : Prop where
  ascii : keyword.all isAscii = true
  unkelvin : 'k' ∉ keyword
  undotted : keyword.getLast? ≠ some 'i'

instance (keyword : List Char) : Decidable (IsPlainKeyword keyword) :=
  decidable_of_iff (keyword.all isAscii = true ∧ 'k' ∉ keyword ∧ keyword.getLast? ≠ some 'i')
    ⟨fun ⟨ascii, unkelvin, undotted⟩ => ⟨ascii, unkelvin, undotted⟩,
      fun plain => ⟨plain.ascii, plain.unkelvin, plain.undotted⟩⟩

namespace IsPlainKeyword

theorem head_isAscii {c : Char} {keyword : List Char} (plain : IsPlainKeyword (c :: keyword)) :
    isAscii c = true := by
  have ascii := plain.ascii
  rw [List.all_cons,Bool.and_eq_true] at ascii
  exact ascii.1

theorem tail {c : Char} {keyword : List Char} (plain : IsPlainKeyword (c :: keyword)) :
    IsPlainKeyword keyword := by
  have ascii := plain.ascii
  rw [List.all_cons,Bool.and_eq_true] at ascii
  refine ⟨ascii.2,?_,?_⟩
  · intro member
    exact plain.unkelvin (List.mem_cons_of_mem _ member)
  · intro last
    cases keyword with
    | nil => cases last
    | cons d rest =>
      apply plain.undotted
      rwa [List.getLast?_cons_cons]

theorem not_mem_of_not_isAscii {keyword : List Char} (plain : IsPlainKeyword keyword) {c : Char}
    (strange : isAscii c = false) : c ∉ keyword := by
  intro member
  rw [List.all_eq_true.mp plain.ascii c member] at strange
  cases strange

theorem ne_of_other {c d : Char} {keyword : List Char} (plain : IsPlainKeyword (c :: keyword))
    (other : d = 'k' ∨ isAscii d = false) : c ≠ d := by
  rintro rfl
  rcases other with rfl | strange
  · exact plain.unkelvin List.mem_cons_self
  · rw [plain.head_isAscii] at strange
    cases strange

theorem not_prefix_dotted {c : Char} {keyword text : List Char}
    (plain : IsPlainKeyword (c :: keyword)) : ¬ c :: keyword <+: 'i' :: '\u0307' :: text := by
  intro begins
  obtain ⟨rfl,rest⟩ := List.cons_prefix_cons.mp begins
  cases keyword with
  | nil => exact plain.undotted rfl
  | cons d keyword =>
    have apart : d ≠ '\u0307' := plain.tail.ne_of_other (.inr (by decide))
    exact apart (List.cons_prefix_cons.mp rest).1

theorem prefix_lowercaseAfter_iff {keyword : List Char} (plain : IsPlainKeyword keyword)
    (cased : Bool) (text : List Char) :
    keyword <+: lowercaseAfter cased text ↔ keyword <+: asciiLowercase text := by
  induction keyword generalizing cased text with
  | nil => simp
  | cons letter keyword ih =>
    cases text with
    | nil => rfl
    | cons c rest =>
      obtain ⟨image,next,lowers,split⟩ := exists_lowers cased c rest
      rw [split,asciiLowercase,List.map_cons,← asciiLowercase]
      cases lowers with
      | ascii => rw [List.singleton_append,List.cons_prefix_cons,List.cons_prefix_cons,ih plain.tail]
      | dotted =>
        have apart : letter ≠ 'İ' := plain.ne_of_other (.inr (by decide))
        rw [toLower_of_not_isAscii (by decide),List.cons_prefix_cons]
        exact iff_of_false plain.not_prefix_dotted (fun same => apart same.1)
      | other strange shown =>
        have apart : letter ≠ c := plain.ne_of_other (.inr strange)
        have unlike := plain.ne_of_other shown
        rw [toLower_of_not_isAscii strange,List.singleton_append,List.cons_prefix_cons,
          List.cons_prefix_cons]
        exact iff_of_false (fun same => unlike same.1) (fun same => apart same.1)

theorem infix_lowercaseAfter_iff {keyword : List Char} (plain : IsPlainKeyword keyword)
    (cased : Bool) (text : List Char) :
    keyword <:+: lowercaseAfter cased text ↔ keyword <:+: asciiLowercase text := by
  induction text generalizing cased with
  | nil => rfl
  | cons c rest ih =>
    have begins := plain.prefix_lowercaseAfter_iff cased (c :: rest)
    obtain ⟨image,next,lowers,split⟩ := exists_lowers cased c rest
    rw [split] at begins ⊢
    rw [asciiLowercase,List.map_cons,List.infix_cons_iff,← List.map_cons,← asciiLowercase,
      ← asciiLowercase,← begins,← ih next]
    cases lowers with
    | ascii | other => rw [List.singleton_append,List.infix_cons_iff]
    | dotted =>
      rw [List.cons_append,List.singleton_append,List.infix_cons_iff,
        infix_cons_iff_of_not_mem (plain.not_mem_of_not_isAscii (by decide))]

end IsPlainKeyword

-- Neither condition can be left out: the Kelvin sign spells a `k`, and the dotted letter an `i`.
example : ['k'] <:+: lowercase ['\u212A'] ∧ ¬ ['k'] <:+: asciiLowercase ['\u212A'] := by
  decide +kernel

example : ['i'] <:+: lowercase ['İ'] ∧ ¬ ['i'] <:+: asciiLowercase ['İ'] := by
  decide +kernel

end NotebookLint.Text
