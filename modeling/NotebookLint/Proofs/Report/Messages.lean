import NotebookLint.Proofs.Report.Reading
import NotebookLint.Proofs.Text.Trim

/-! The messages in a report. No check breaks a message into lines: of a source only its first line is
quoted, and of the rules only what the table of abbreviations holds. So what is printed about a
notebook tells which messages were issues and which were warnings. -/
namespace NotebookLint

/-- No message has a line feed in it. -/
def LintResult.IsUnbroken (result : LintResult) : Prop :=
  ∀ finding ∈ result.issues ++ result.warnings, '\n' ∉ finding.message.toList

/-- Neither a term nor an expansion of the table has a line feed in it. -/
def Rules.IsUnbroken (rules : Rules) : Prop :=
  ∀ entry ∈ rules.abbreviations, '\n' ∉ entry.term.toList ∧ '\n' ∉ entry.expansion.toList

instance (result : LintResult) : Decidable result.IsUnbroken :=
  inferInstanceAs (Decidable (∀ finding ∈ result.issues ++ result.warnings, _))

instance (rules : Rules) : Decidable rules.IsUnbroken :=
  inferInstanceAs (Decidable (∀ entry ∈ rules.abbreviations, _))

theorem Finding.about_unbroken (cell : Nat) {text : String} (unbroken : '\n' ∉ text.toList) :
    '\n' ∉ (about cell text).toList := by
  have digits := Report.toDigits_unbroken cell
  simp_all [about]

namespace Check
open Style Text

theorem cellFindings_unbroken {check : Check} {rules : Rules} (unbroken : rules.IsUnbroken)
    {advise : Bool} {cell : Cell} {following : List Cell} {finding : Finding}
    (found : finding ∈ check.cellFindings rules advise cell following) :
    '\n' ∉ finding.message.toList := by
  cases check with
  | abbreviations =>
    simp only [cellFindings,Abbreviations.cellFindings,List.mem_ite_nil_right,
      List.mem_flatMap] at found
    obtain ⟨-,entry,listed,found⟩ := found
    simp only [Abbreviations.entryFindings,List.mem_ite_nil_left,List.mem_map] at found
    obtain ⟨-,_,-,rfl⟩ := found
    obtain ⟨term,expansion⟩ := unbroken entry listed
    exact Finding.about_unbroken cell.index (by simp [term,expansion])
  | motivation =>
    simp only [cellFindings,Motivation.cellFindings,List.mem_ite_nil_right,
      List.mem_singleton] at found
    obtain ⟨-,rfl⟩ := found
    have quoted : '\n' ∉ trim cell.firstLine := fun broken =>
      firstLine_unbroken cell.source.toList (mem_of_mem_trim broken)
    exact Finding.about_unbroken cell.index (by simp [quoted])
  | discipline =>
    simp only [cellFindings,Discipline.cellFindings,List.mem_ite_nil_right,List.mem_cons,
      List.not_mem_nil,or_false] at found
    rcases found with ⟨-,rfl | ⟨-,rfl⟩⟩
    · exact Finding.about_unbroken cell.index (by simp [Report.toDigits_unbroken])
    · exact (by decide +kernel : '\n' ∉ Discipline.advice.toList)
  | explanation =>
    simp only [cellFindings,Explanation.cellFindings,List.mem_ite_nil_right] at found
    obtain ⟨-,found⟩ := found
    cases missing : Explanation.gap? rules cell with
    | none => simp [missing] at found
    | some gap =>
      simp only [missing,Option.map_some,Option.getD_some,Explanation.gapFindings,List.mem_cons,
        List.mem_ite_nil_right,List.not_mem_nil,or_false] at found
      rcases found with rfl | ⟨-,rfl⟩
      · exact Finding.about_unbroken cell.index (by cases gap <;> decide +kernel)
      · exact (by cases gap <;> decide +kernel : '\n' ∉ gap.advice.toList)

theorem findings_unbroken {check : Check} {rules : Rules} (unbroken : rules.IsUnbroken)
    {advise : Bool} {cells : List Cell} {finding : Finding}
    (found : finding ∈ check.findings rules advise cells) : '\n' ∉ finding.message.toList := by
  induction cells with
  | nil => simp [findings_nil] at found
  | cons cell following ih =>
    rw [findings_cons,List.mem_append] at found
    rcases found with here | later
    · exact cellFindings_unbroken unbroken here
    · exact ih later

end Check

theorem lint_isUnbroken {rules : Rules} (unbroken : rules.IsUnbroken) (advise : Bool)
    (notebook : Notebook) : (lint rules advise notebook).IsUnbroken := by
  intro finding member
  rw [lint_issues,lint_warnings] at member
  simp only [List.mem_append] at member
  rcases member with (found | found) | (found | found) <;>
    exact Check.findings_unbroken unbroken found

namespace Report

theorem told_results_of_isUnbroken (colour : Bool) {result : LintResult}
    (unbroken : result.IsUnbroken) : told (results colour result) =
      ⟨result.issues.map (·.message), result.warnings.map (·.message), result.summary.cells⟩ :=
  told_results colour (fun finding issue => unbroken finding (List.mem_append_left _ issue))
    fun finding warning => unbroken finding (List.mem_append_right _ warning)

/-- The text of a report settles the messages of its issues, the messages of its warnings and the
number of cells, as long as no message has a line feed in it. A run puts none into a message unless
the table of abbreviations has one, which the standard table has not; so what a run prints can be
read back. -/
theorem results_determine_messages :
    (∀ (colour : Bool) (first second : LintResult), first.IsUnbroken → second.IsUnbroken →
      results colour first = results colour second →
        first.issues.map (·.message) = second.issues.map (·.message) ∧
          first.warnings.map (·.message) = second.warnings.map (·.message) ∧
          first.summary.cells = second.summary.cells) ∧
    (∀ rules : Rules, rules.IsUnbroken → ∀ advise notebook,
      (lint rules advise notebook).IsUnbroken ∧ ∀ colour,
        told (results colour (lint rules advise notebook)) =
          ⟨(lint rules advise notebook).issues.map (·.message),
            (lint rules advise notebook).warnings.map (·.message), notebook.cells.length⟩) ∧
    Rules.standard.IsUnbroken := by
  refine ⟨?_,?_,by decide +kernel⟩
  · intro colour first second plain unbroken same
    have read := told_results_of_isUnbroken colour plain
    rw [same,told_results_of_isUnbroken colour unbroken,Told.mk.injEq] at read
    exact ⟨read.1.symm,read.2.1.symm,read.2.2.symm⟩
  · intro rules plain advise notebook
    have unbroken := lint_isUnbroken plain advise notebook
    exact ⟨unbroken,fun colour => told_results_of_isUnbroken colour unbroken⟩

/-- A message may look like a heading or a rule of the report: it is still told whether it was an
issue or a warning. -/
theorem results_determine_imitations :
    results true ⟨[⟨0, .issue, "a"⟩], [⟨1, .warning, "⚠️  WARNINGS (1):"⟩], ⟨1, 1, 2⟩⟩ ≠
      results true ⟨[⟨0, .issue, "a"⟩, ⟨1, .issue, "⚠️  WARNINGS (1):"⟩], [], ⟨1, 1, 2⟩⟩ ∧
    told (results false (lint .standard true
      ⟨[⟨0, .markdown, "## 1.1 =====\r\nMLE"⟩, ⟨1, .code, "m = np.mean(x)"⟩]⟩)) =
      ⟨["Cell 0: Found abbreviation 'MLE' (should be 'Maximum Likelihood Estimator')"],
        ["Cell 0: Section '## 1.1 =====' may be missing a motivation paragraph",
          "Cell 1: Statistical operation without translation comment",
          "  → Suggestion: Add comment like '# [Formula]: [Plain English] ([Concept])'"], 2⟩ := by
  obtain ⟨settled,read,plain⟩ := results_determine_messages
  constructor
  · intro same
    obtain ⟨issues,-,-⟩ := settled true _ _ (by decide +kernel) (by decide +kernel) same
    simp at issues
  · rw [(read .standard plain true _).2 false]
    decide +kernel

end Report
end NotebookLint
