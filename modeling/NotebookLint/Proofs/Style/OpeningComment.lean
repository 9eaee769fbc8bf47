import NotebookLint.Proofs.Style.LineCount
import NotebookLint.Proofs.Text.AsciiLetters
import NotebookLint.Proofs.Text.Surroundings
import NotebookLint.Style.Explanation

/-! A comment with a colon, put before the first line of a cell. It is the explanation that a cell with
statistics should open with. It is no significant line, and the line feed after it parts it from what
follows: no keyword reaches across, and no letter is lowered otherwise for it. So the line discipline
finds what it found. -/
namespace NotebookLint
open Text

namespace Text

theorem prefix_append_cons_iff_of_not_mem {part : List Char} {c : Char} (absent : c ∉ part)
    (text more : List Char) : part <+: text ++ c :: more ↔ part <+: text := by
  induction text generalizing part with
  | nil =>
    rw [List.nil_append,List.prefix_nil]
    constructor
    · exact eq_nil_of_prefix_cons absent
    · intro nothing
      rw [nothing]
      exact List.nil_prefix
  | cons d text ih =>
    cases part with
    | nil => exact iff_of_true List.nil_prefix List.nil_prefix
    | cons p part =>
      rw [List.cons_append,List.cons_prefix_cons,List.cons_prefix_cons,
        ih (List.not_mem_of_not_mem_cons absent)]

theorem infix_append_cons_iff_of_not_mem {part : List Char} {c : Char} (absent : c ∉ part)
    (text more : List Char) : part <:+: text ++ c :: more ↔ part <:+: text ∨ part <:+: more := by
  induction text with
  | nil =>
    rw [List.nil_append,infix_cons_iff_of_not_mem absent,List.infix_nil]
    apply Iff.symm
    apply or_iff_right_of_imp
    intro nothing
    rw [nothing]
    exact List.nil_infix
  | cons d text ih =>
    have begins := prefix_append_cons_iff_of_not_mem absent (d :: text) more
    rw [List.cons_append] at begins ⊢
    rw [List.infix_cons_iff,List.infix_cons_iff,begins,ih,or_assoc]

/-- A character that neither has case nor is ignored parts a text for the purposes of lower case. -/
theorem lowercase_append_cons {c : Char} (seen : isCaseIgnorable c = false)
    (uncased : isCased c = false) (text more : List Char) :
    lowercase (text ++ c :: more) = lowercase text ++ (lowerChar c ++ lowercase more) := by
  have other : c ≠ 'Σ' := by
    intro sigma
    rw [sigma] at uncased
    exact absurd uncased (by decide +kernel)
  have ahead : casedWithin false (c :: more) = false := by
    rw [casedWithin,seen,uncased]
    rfl
  rw [lowercase_eq_between,lowercaseBetween_append,ahead,lowercaseBetween,if_neg other,seen,uncased,
    lowercase_eq_between,lowercase_eq_between]
  rfl

theorem lowercase_append_feed (line rest : List Char) :
    lowercase (line ++ '\n' :: rest) = lowercase line ++ '\n' :: lowercase rest := by
  have fed : lowerChar '\n' = ['\n'] := by decide +kernel
  rw [lowercase_append_cons (by decide +kernel) (by decide +kernel),fed]
  rfl

end Text

namespace Rules

theorem mentionsAny_append_feed {keywords : List String}
    (single : ∀ keyword ∈ keywords, '\n' ∉ keyword.toList) (line rest : List Char) :
    mentionsAny keywords (line ++ '\n' :: rest) =
      (mentionsAny keywords line || mentionsAny keywords rest) := by
  rw [Bool.eq_iff_iff,Bool.or_eq_true,mentionsAny_iff,mentionsAny_iff,mentionsAny_iff,← exists_or]
  apply exists_congr
  intro keyword
  rw [← and_or_left]
  apply and_congr_right
  intro member
  exact infix_append_cons_iff_of_not_mem (single keyword member) line rest

theorem isPlotting_append_feed {rules : Rules}
    (single : ∀ keyword ∈ rules.plottingKeywords, '\n' ∉ keyword.toList) (line rest : String) :
    rules.isPlotting (line ++ "\n" ++ rest) = (rules.isPlotting line || rules.isPlotting rest) := by
  rw [isPlotting,toList_append_feed,lowercase_append_feed]
  exact mentionsAny_append_feed single _ _

theorem significantLines_of_comment (rules : Rules) {line : String} (unbroken : '\n' ∉ line.toList)
    (marked : rules.commentMarker.toList <+: trim line.toList) :
    rules.significantLines line = [] := by
  rw [← List.length_eq_zero_iff,length_significantLines,lines_of_unbroken unbroken,
    List.countP_eq_zero]
  intro only among
  rw [List.mem_singleton] at among
  rw [among,Bool.not_eq_true,isSignificant_eq_false_iff]
  right
  exact marked

end Rules

namespace Style

section
variable {rules : Rules} {comment : String} (unbroken : '\n' ∉ comment.toList)
  (marked : rules.commentMarker.toList <+: trim comment.toList)
include unbroken marked

theorem Explanation.findings_of_opening (colon : ':' ∈ trim comment.toList) (advise : Bool)
    (index : Nat) (kind : CellKind) (source : String) :
    findings rules advise [⟨index, kind, comment ++ "\n" ++ source⟩] = [] := by
  have first : Cell.firstLine ⟨index, kind, comment ++ "\n" ++ source⟩ = comment.toList := by
    rw [Cell.firstLine,toList_append_feed,firstLine_append unbroken]
  have opened : rules.isComment (trim comment.toList) = true :=
    List.isPrefixOf_iff_prefix.mpr marked
  have complete : gap? rules ⟨index, kind, comment ++ "\n" ++ source⟩ = none := by
    simp [gap?,first,opened,colon]
  rw [findings,List.flatMap_singleton,cellFindings,complete]
  exact ite_self []

theorem Discipline.findings_of_opening
    (single : ∀ keyword ∈ rules.plottingKeywords, '\n' ∉ keyword.toList)
    (plain : rules.isPlotting comment = false) (advise : Bool) (index : Nat) (kind : CellKind)
    (source : String) :
    findings rules advise [⟨index, kind, comment ++ "\n" ++ source⟩] =
      findings rules advise [⟨index, kind, source⟩] := by
  have counted : rules.significantLines (comment ++ "\n" ++ source) =
      rules.significantLines source := by
    rw [rules.significantLines_append,rules.significantLines_of_comment unbroken marked,
      List.nil_append]
  have plots : rules.isPlotting (comment ++ "\n" ++ source) = rules.isPlotting source := by
    rw [Rules.isPlotting_append_feed single,plain,Bool.false_or]
  rw [findings,findings,List.flatMap_singleton,List.flatMap_singleton]
  apply cellFindings_congr
  · rfl
  · rfl
  · exact plots
  · exact counted

/-- The advised comment is a remedy without a side effect. A cell that opens with it is not reported for
its explanation, and for its lines as much as without it. -/
theorem findings_of_opening_comment
    (single : ∀ keyword ∈ rules.plottingKeywords, '\n' ∉ keyword.toList)
    (colon : ':' ∈ trim comment.toList) (plain : rules.isPlotting comment = false) (advise : Bool)
    (index : Nat) (source : String) :
    Explanation.findings rules advise [⟨index, .code, comment ++ "\n" ++ source⟩] = [] ∧
      Discipline.findings rules advise [⟨index, .code, comment ++ "\n" ++ source⟩] =
        Discipline.findings rules advise [⟨index, .code, source⟩] :=
  ⟨Explanation.findings_of_opening unbroken marked colon advise index .code source,
    Discipline.findings_of_opening unbroken marked single plain advise index .code source⟩

end

/-- A capital sigma at the end of the comment stays the end of its word. -/
theorem findings_of_opening_comment_sigma :
    Explanation.findings .standard true
        [⟨3, .code, "\t# x̄: ΜΕΣΟΣ" ++ "\n" ++ "Μ = x.mean()\ny = 2\nz = 3"⟩] = [] ∧
      Discipline.findings .standard true
          [⟨3, .code, "\t# x̄: ΜΕΣΟΣ" ++ "\n" ++ "Μ = x.mean()\ny = 2\nz = 3"⟩] =
        Discipline.findings .standard true [⟨3, .code, "Μ = x.mean()\ny = 2\nz = 3"⟩] :=
  findings_of_opening_comment (by decide) (by decide) (by decide) (by decide) (by decide +kernel)
    true 3 "Μ = x.mean()\ny = 2\nz = 3"

end Style
end NotebookLint
