import NotebookLint.Proofs.Style.SectionHeading
import NotebookLint.Proofs.Text.CarriageReturns

/-! Line endings. Nothing that the rules look for has a line break in it, and lines are trimmed before
they are looked at, so it makes no difference whether the lines of a notebook end in a carriage
return. The one line that is not trimmed is the first line of prose: a numbered heading needs white
space after its number, and where nothing else follows the number a carriage return is such. -/
namespace NotebookLint
open Text

/-- The cell with a carriage return before each line feed of its source. -/
def Cell.withReturns (cell : Cell) : Cell :=
  { cell with source := String.ofList (Text.withReturns cell.source.toList) }

def Notebook.withReturns (notebook : Notebook) : Notebook :=
  ⟨notebook.cells.map Cell.withReturns⟩

@[simp] theorem Cell.withReturns_index (cell : Cell) : cell.withReturns.index = cell.index :=
  rfl

@[simp] theorem Cell.withReturns_isMarkdown (cell : Cell) :
    cell.withReturns.isMarkdown = cell.isMarkdown :=
  rfl

@[simp] theorem Cell.withReturns_isCode (cell : Cell) : cell.withReturns.isCode = cell.isCode :=
  rfl

@[simp] theorem Cell.withReturns_source (cell : Cell) :
    cell.withReturns.source.toList = Text.withReturns cell.source.toList :=
  String.toList_ofList

theorem Cell.firstLine_withReturns (cell : Cell) : cell.withReturns.firstLine =
    cell.firstLine ++ if '\n' ∈ cell.source.toList then ['\r'] else [] := by
  rw [firstLine,withReturns_source,Text.firstLine_withReturns]
  rfl

theorem Cell.trim_firstLine_withReturns (cell : Cell) :
    trim cell.withReturns.firstLine = trim cell.firstLine := by
  rw [firstLine_withReturns]
  split
  · exact trim_return cell.firstLine
  · rw [List.append_nil]

namespace Rules

/-- No line break is in anything that the rules look for anywhere but at the beginning of a line. -/
structure IsInline (rules : Rules) : Prop where
  terms : ∀ entry ∈ rules.abbreviations, Text.IsInline entry.term.toList
  plotting : ∀ keyword ∈ rules.plottingKeywords, Text.IsInline keyword.toList
  skipping : ∀ keyword ∈ rules.skipKeywords, Text.IsInline keyword.toList
  statistics : ∀ keyword ∈ rules.statsKeywords, Text.IsInline keyword.toList
  motivation : Text.IsInline rules.motivationMarker.toList

theorem standard_isInline : standard.IsInline where
  terms := by decide
  plotting := by decide
  skipping := by decide
  statistics := by decide
  motivation := by decide

theorem mentionsAny_withReturns {keywords : List String}
    (inside : ∀ keyword ∈ keywords, Text.IsInline keyword.toList) (source : List Char) :
    mentionsAny keywords (Text.withReturns source) = mentionsAny keywords source := by
  rw [Bool.eq_iff_iff,mentionsAny_iff,mentionsAny_iff]
  apply exists_congr
  intro keyword
  apply and_congr_right
  intro member
  exact infix_withReturns_iff (inside keyword member) source

theorem significantLines_withReturns (rules : Rules) (cell : Cell) :
    rules.significantLines cell.withReturns.source = rules.significantLines cell.source := by
  rw [significantLines,Cell.withReturns_source,map_trim_lines_withReturns]
  rfl

section
variable {rules : Rules} (inside : rules.IsInline) (cell : Cell)
include inside

theorem IsInline.isPlotting_withReturns :
    rules.isPlotting cell.withReturns.source = rules.isPlotting cell.source := by
  rw [isPlotting,Cell.withReturns_source,lowercase_withReturns]
  exact mentionsAny_withReturns inside.plotting _

theorem IsInline.skipsExplanation_withReturns :
    rules.skipsExplanation cell.withReturns.source = rules.skipsExplanation cell.source := by
  rw [skipsExplanation,Cell.withReturns_source,lowercase_withReturns]
  exact mentionsAny_withReturns inside.skipping _

theorem IsInline.hasStatistics_withReturns :
    rules.hasStatistics cell.withReturns.source = rules.hasStatistics cell.source := by
  rw [hasStatistics,Cell.withReturns_source]
  exact mentionsAny_withReturns inside.statistics _

end
end Rules

namespace Style.Motivation

/-- A numbered heading that ends with its number. -/
def IsBareNumber (line : List Char) : Prop :=
  ∃ gap whole fraction, line = ['#', '#'] ++ gap ++ whole ++ ['.'] ++ fraction ∧
    IsRun isBlank gap ∧ IsRun isDigit whole ∧ IsRun isDigit fraction

theorem isNumbered_return_iff (line : List Char) :
    IsNumbered (line ++ ['\r']) ↔ IsNumbered line ∨ IsBareNumber line := by
  constructor
  · rintro ⟨gap,whole,fraction,space,rest,written,gap_blank,whole_digits,fraction_digits,
      space_blank⟩
    -- The carriage return is the end of the rest, or else of the white space before the rest.
    rcases List.eq_nil_or_concat' rest with rfl | ⟨rest,last,rfl⟩
    · obtain ⟨space,last,rfl⟩ :=
        (List.eq_nil_or_concat' space).resolve_left space_blank.present
      rw [List.append_nil,← List.append_assoc] at written
      obtain ⟨rfl,-⟩ := List.append_inj' written rfl
      by_cases nothing : space = []
      · right
        exact ⟨gap,whole,fraction,by rw [nothing,List.append_nil],gap_blank,whole_digits,
          fraction_digits⟩
      · left
        have blank := space_blank.all
        rw [List.all_append,Bool.and_eq_true] at blank
        exact ⟨gap,whole,fraction,space,[],by simp,gap_blank,whole_digits,fraction_digits,nothing,
          blank.1⟩
    · left
      rw [← List.append_assoc] at written
      obtain ⟨rfl,-⟩ := List.append_inj' written rfl
      exact ⟨gap,whole,fraction,space,rest,rfl,gap_blank,whole_digits,fraction_digits,space_blank⟩
  · rintro (⟨gap,whole,fraction,space,rest,rfl,runs⟩ |
      ⟨gap,whole,fraction,rfl,gap_blank,whole_digits,fraction_digits⟩)
    · exact ⟨gap,whole,fraction,space,rest ++ ['\r'],by simp,runs⟩
    · exact ⟨gap,whole,fraction,['\r'],[],by simp,gap_blank,whole_digits,fraction_digits,by decide⟩

theorem not_isNumbered_of_isBareNumber {line : List Char} (bare : IsBareNumber line) :
    ¬ IsNumbered line := by
  obtain ⟨gap,whole,fraction,rfl,gap_blank,whole_digits,fraction_digits⟩ := bare
  have written : ['#', '#'] ++ gap ++ whole ++ ['.'] ++ fraction =
      '#' :: '#' :: (gap ++ (whole ++ '.' :: fraction)) := by
    simp
  have past_fraction : past isDigit (fraction ++ []) = some [] := past_append fraction_digits rfl
  rw [List.append_nil] at past_fraction
  rw [← isSectionHeading_iff,written,isSectionHeading_append gap_blank whole_digits,past_fraction]
  exact Bool.false_ne_true

theorem isBareNumber_iff (line : List Char) : IsBareNumber line ↔
    isSectionHeading line = false ∧ isSectionHeading (line ++ ['\r']) = true := by
  rw [← Bool.not_eq_true,isSectionHeading_iff,isSectionHeading_iff,isNumbered_return_iff]
  constructor
  · intro bare
    exact ⟨not_isNumbered_of_isBareNumber bare,.inr bare⟩
  · rintro ⟨unnumbered,either⟩
    exact either.resolve_left unnumbered

instance (line : List Char) : Decidable (IsBareNumber line) :=
  decidable_of_iff _ (isBareNumber_iff line).symm

/-- Prose whose first line is a numbered heading if and only if its line feed has a carriage return
before it. -/
def EndsAtNumber (cell : Cell) : Prop :=
  cell.isMarkdown = true ∧ '\n' ∈ cell.source.toList ∧ IsBareNumber cell.firstLine

instance (cell : Cell) : Decidable (EndsAtNumber cell) :=
  inferInstanceAs (Decidable (_ ∧ _ ∧ _))

theorem isSectionHeading_withReturns_iff (cell : Cell) :
    isSectionHeading cell.withReturns.firstLine = isSectionHeading cell.firstLine ↔
      ¬ ('\n' ∈ cell.source.toList ∧ IsBareNumber cell.firstLine) := by
  rw [Cell.firstLine_withReturns]
  by_cases feed : '\n' ∈ cell.source.toList
  · rw [if_pos feed,and_iff_right feed,Bool.eq_iff_iff,isSectionHeading_iff,isSectionHeading_iff,
      isNumbered_return_iff,or_iff_left_iff_imp]
    constructor
    · intro numbered bare
      exact not_isNumbered_of_isBareNumber bare (numbered bare)
    · intro ordinary bare
      exact absurd bare ordinary
  · rw [if_neg feed,List.append_nil]
    exact iff_of_true rfl fun both => feed both.1

theorem motivates_withReturns {rules : Rules} (inside : rules.IsInline) (cell : Cell) :
    motivates rules cell.withReturns = motivates rules cell := by
  rw [motivates,Cell.withReturns_source,Bool.eq_iff_iff, includes_iff_infix,
    infix_withReturns_iff inside.motivation,motivates, includes_iff_infix]

theorem isMotivated_withReturns {rules : Rules} (inside : rules.IsInline) (cell : Cell)
    (following : List Cell) :
    isMotivated rules cell.withReturns (following.map Cell.withReturns) =
      isMotivated rules cell following := by
  simp only [isMotivated,motivates_withReturns inside,← List.map_take,List.any_map,
    Function.comp_def,Cell.withReturns_isMarkdown]

end Style.Motivation

section
variable {rules : Rules} (inside : rules.IsInline) (cell : Cell)
include inside

theorem Style.Abbreviations.entryFindings_withReturns {entry : Abbreviation}
    (listed : entry ∈ rules.abbreviations) :
    entryFindings cell.withReturns entry = entryFindings cell entry := by
  unfold entryFindings
  split
  · rfl
  · rename_i present
    have count := length_bareOccurrences_withReturns (inside.terms entry listed)
      (by simpa using present) cell.source.toList
    rw [Cell.withReturns_source,List.map_const',List.map_const',count]
    rfl

theorem Style.Abbreviations.cellFindings_withReturns :
    cellFindings rules cell.withReturns = cellFindings rules cell := by
  rw [cellFindings,cellFindings,Cell.withReturns_isMarkdown]
  split
  · apply List.flatMap_congr
    intro entry listed
    exact entryFindings_withReturns inside cell listed
  · rfl

theorem Style.Motivation.cellFindings_withReturns (settled : ¬ EndsAtNumber cell)
    (following : List Cell) :
    cellFindings rules cell.withReturns (following.map Cell.withReturns) =
      cellFindings rules cell following := by
  have said : message cell.withReturns = message cell := by
    rw [message,message,Cell.trim_firstLine_withReturns,Cell.withReturns_index]
  have opens : (cell.isMarkdown && isSectionHeading cell.withReturns.firstLine) =
      (cell.isMarkdown && isSectionHeading cell.firstLine) := by
    cases prose : cell.isMarkdown with
    | false => rw [Bool.false_and,Bool.false_and]
    | true =>
      have alike := (isSectionHeading_withReturns_iff cell).mpr fun ends => settled ⟨prose,ends⟩
      rw [alike]
  rw [cellFindings,cellFindings,Cell.withReturns_isMarkdown,opens,isMotivated_withReturns inside,
    said,Cell.withReturns_index]

theorem Style.Discipline.cellFindings_withReturns (advise : Bool) :
    cellFindings rules advise cell.withReturns = cellFindings rules advise cell := by
  apply cellFindings_congr
  · rfl
  · rfl
  · exact inside.isPlotting_withReturns cell
  · exact rules.significantLines_withReturns cell

theorem Style.Explanation.cellFindings_withReturns (advise : Bool) :
    cellFindings rules advise cell.withReturns = cellFindings rules advise cell := by
  have blank : (trim cell.withReturns.source.toList).isEmpty =
      (trim cell.source.toList).isEmpty := by
    rw [Bool.eq_iff_iff,List.isEmpty_iff,List.isEmpty_iff,Cell.withReturns_source,
      trim_withReturns_eq_nil_iff]
  have needed : needsComment rules cell.withReturns = needsComment rules cell := by
    rw [needsComment,needsComment,Cell.withReturns_isCode,blank,
      inside.skipsExplanation_withReturns,inside.hasStatistics_withReturns]
  have missing : gap? rules cell.withReturns = gap? rules cell := by
    rw [gap?,gap?,Cell.trim_firstLine_withReturns]
  have said : gapFindings advise cell.withReturns = gapFindings advise cell := by
    funext gap
    rw [gapFindings,gapFindings,Cell.withReturns_index]
  rw [cellFindings,cellFindings,needed,missing,said]

end

namespace Check
open Style

section
variable {rules : Rules} (inside : rules.IsInline) (advise : Bool)
include inside

theorem cellFindings_withReturns (check : Check) {cell : Cell}
    (settled : ¬ Motivation.EndsAtNumber cell) (following : List Cell) :
    check.cellFindings rules advise cell.withReturns (following.map Cell.withReturns) =
      check.cellFindings rules advise cell following := by
  cases check with
  | abbreviations => exact Abbreviations.cellFindings_withReturns inside cell
  | motivation => exact Motivation.cellFindings_withReturns inside cell settled following
  | discipline => exact Discipline.cellFindings_withReturns inside cell advise
  | explanation => exact Explanation.cellFindings_withReturns inside cell advise

theorem findings_withReturns (check : Check) {cells : List Cell}
    (settled : ∀ cell ∈ cells, ¬ Motivation.EndsAtNumber cell) :
    check.findings rules advise (cells.map Cell.withReturns) =
      check.findings rules advise cells := by
  induction cells with
  | nil => rfl
  | cons cell following ih =>
    obtain ⟨here,later⟩ := List.forall_mem_cons.mp settled
    rw [List.map_cons,findings_cons,findings_cons,cellFindings_withReturns inside advise check here,
      ih later]

end
end Check

theorem lint_withReturns {rules : Rules} (inside : rules.IsInline) (advise : Bool)
    {notebook : Notebook} (settled : ∀ cell ∈ notebook.cells, ¬ Style.Motivation.EndsAtNumber cell) :
    lint rules advise notebook.withReturns = lint rules advise notebook := by
  simp only [lint,Notebook.withReturns,Check.findings_withReturns inside advise _ settled,
    List.length_map]

/-- By the standard rules it makes no difference whether lines end in carriage returns, unless a
numbered heading ends with its number and a line feed. -/
theorem lint_standard_withReturns (advise : Bool) {notebook : Notebook}
    (settled : ∀ cell ∈ notebook.cells, ¬ Style.Motivation.EndsAtNumber cell) :
    lint .standard advise notebook.withReturns = lint .standard advise notebook :=
  lint_withReturns Rules.standard_isInline advise settled

/-- A heading with a title, terms at the ends of lines, and a cell of code with every fault. -/
theorem lint_standard_withReturns_sections :
    lint .standard true
        ⟨[⟨0, .markdown, "## 1.2 Risk\r\nof the MLE\r\nas a RV\r\n"⟩,
          ⟨1, .code, "x.mean()\r\ny = 2\r\n\r\nz = 3\r\n# plain"⟩]⟩ =
      lint .standard true
        ⟨[⟨0, .markdown, "## 1.2 Risk\nof the MLE\nas a RV\n"⟩,
          ⟨1, .code, "x.mean()\ny = 2\n\nz = 3\n# plain"⟩]⟩ := by
  have returned : Notebook.withReturns
      ⟨[⟨0, .markdown, "## 1.2 Risk\nof the MLE\nas a RV\n"⟩,
        ⟨1, .code, "x.mean()\ny = 2\n\nz = 3\n# plain"⟩]⟩ =
      ⟨[⟨0, .markdown, "## 1.2 Risk\r\nof the MLE\r\nas a RV\r\n"⟩,
        ⟨1, .code, "x.mean()\r\ny = 2\r\n\r\nz = 3\r\n# plain"⟩]⟩ := by
    decide +kernel
  rw [← returned]
  exact lint_standard_withReturns true (by decide +kernel)

-- The heading that is left out needs the carriage return to be one.
example : (lint .standard false ⟨[⟨0, .markdown, "## 1.2\nRisk"⟩]⟩).warnings = [] ∧
    (lint .standard false ⟨[⟨0, .markdown, "## 1.2\r\nRisk"⟩]⟩).warnings ≠ [] := by
  decide +kernel

end NotebookLint
