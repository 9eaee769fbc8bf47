import NotebookLint.Proofs.Lint.Split

/-! Advice. Without it a run finds what it finds with it, less the findings that advise. Each of
those stands directly after a finding about the same cell, so advice decides nothing. -/
namespace NotebookLint

/-- Whether a message begins with two spaces and an arrow. -/
def Finding.isAdvice (finding : Finding) : Bool :=
  [' ', ' ', '→'].isPrefixOf finding.message.toList

@[simp] theorem Finding.isAdvice_about (cell number : Nat) (severity : Severity) (text : String) :
    (⟨cell, severity, about number text⟩ : Finding).isAdvice = false := by
  simp only [isAdvice,about,String.toList_append]
  rfl

@[simp] theorem Finding.isAdvice_advice (cell : Nat) (severity : Severity) (text : String) :
    (⟨cell, severity, advice text⟩ : Finding).isAdvice = true := by
  simp [isAdvice,advice]

/-- Directly before each advice stands a finding of the same cell and severity that is none. -/
def AdviceFollows (findings : List Finding) : Prop :=
  ∀ before advice after, findings = before ++ advice :: after → advice.isAdvice = true →
    ∃ earlier finding, before = earlier ++ [finding] ∧ finding.isAdvice = false ∧
      finding.cell = advice.cell ∧ finding.severity = advice.severity

namespace AdviceFollows

theorem nil : AdviceFollows [] := by
  intro before advice after split
  simp at split

theorem append {findings more : List Finding} (first : AdviceFollows findings)
    (second : AdviceFollows more) : AdviceFollows (findings ++ more) := by
  intro before advice after split advises
  rcases List.append_eq_append_iff.mp split with ⟨between,rfl,rest⟩ | ⟨between,whole,rest⟩
  · obtain ⟨earlier,finding,rfl,about⟩ := second between advice after rest advises
    exact ⟨findings ++ earlier,finding,by simp,about⟩
  · cases between with
    | nil =>
      -- The advice would stand first in the second list.
      obtain ⟨earlier,finding,start,-⟩ := second [] advice after rest.symm advises
      simp at start
    | cons head between =>
      obtain ⟨rfl,rfl⟩ := List.cons.inj rest
      exact first before advice between whole advises

theorem flatMap {α : Type} {items : List α} {findings : α → List Finding}
    (each : ∀ item ∈ items, AdviceFollows (findings item)) :
    AdviceFollows (items.flatMap findings) := by
  induction items with
  | nil => exact nil
  | cons item rest ih =>
    rw [List.flatMap_cons]
    exact (each item List.mem_cons_self).append
      (ih fun other later => each other (List.mem_cons_of_mem _ later))

/-- The first finding of all is no advice. -/
theorem filter_eq_nil_iff {findings : List Finding} (follows : AdviceFollows findings) :
    findings.filter (!·.isAdvice) = [] ↔ findings = [] := by
  cases findings with
  | nil => simp
  | cons finding rest =>
    have first : finding.isAdvice = false := by
      by_contra advises
      obtain ⟨earlier,other,start,-⟩ := follows [] finding rest rfl (by simpa using advises)
      simp at start
    simp [first]

end AdviceFollows

namespace Remark

theorem filter_findings (severity : Severity) (cell : Nat) (remark : Remark) :
    (remark.findings severity true cell).filter (!·.isAdvice) =
      remark.findings severity false cell := by
  cases advised : remark.advice <;> simp [findings,advised]

theorem adviceFollows_findings (severity : Severity) (advise : Bool) (cell : Nat)
    (remark : Remark) : AdviceFollows (remark.findings severity advise cell) := by
  intro before advice after split advises
  cases before with
  | nil =>
    obtain ⟨rfl,-⟩ := List.cons.inj split
    simp at advises
  | cons finding before =>
    obtain ⟨rfl,rest⟩ := List.cons.inj split
    -- At most one finding is left, so it is the advice, and nothing lies between the two.
    cases advise with
    | false => simp at rest
    | true =>
      cases advised : remark.advice with
      | none => simp [advised] at rest
      | some text =>
        simp only [advised,if_true,Option.toList_some,List.map_cons,List.map_nil] at rest
        cases before with
        | nil =>
          obtain ⟨rfl,-⟩ := List.cons.inj rest
          exact ⟨[],_,rfl,Finding.isAdvice_about ..,rfl,rfl⟩
        | cons between before => simp at rest

end Remark

namespace Check

theorem filter_isAdvice_findings (check : Check) (rules : Rules) (cells : List Cell) :
    (check.findings rules true cells).filter (!·.isAdvice) = check.findings rules false cells := by
  obtain ⟨remarks,-,said⟩ := exists_remarks check rules cells
  rw [said,said,List.filter_flatMap]
  simp only [Remark.filter_findings]

theorem adviceFollows_findings (check : Check) (rules : Rules) (advise : Bool)
    (cells : List Cell) : AdviceFollows (check.findings rules advise cells) := by
  obtain ⟨remarks,-,said⟩ := exists_remarks check rules cells
  rw [said]
  apply AdviceFollows.flatMap
  intro entry _
  exact entry.2.adviceFollows_findings check.severity advise entry.1.index

theorem exists_about_of_mem_findings {check : Check} {rules : Rules} {advise : Bool}
    {cells : List Cell} {finding : Finding} (found : finding ∈ check.findings rules advise cells)
    (plain : finding.isAdvice = false) :
    ∃ text, finding.message = Finding.about finding.cell text := by
  obtain ⟨cell,-,-,remark,found⟩ := exists_remark_of_mem_findings found
  rcases Remark.mem_findings_iff.mp found with rfl | ⟨-,text,-,rfl⟩
  · exact ⟨remark.text,rfl⟩
  · simp at plain

end Check

section
variable (rules : Rules) (notebook : Notebook)

theorem filter_isAdvice_issues : (lint rules true notebook).issues.filter (!·.isAdvice) =
    (lint rules false notebook).issues := by
  simp only [lint_issues,List.filter_append,Check.filter_isAdvice_findings]

theorem filter_isAdvice_warnings : (lint rules true notebook).warnings.filter (!·.isAdvice) =
    (lint rules false notebook).warnings := by
  simp only [lint_warnings,List.filter_append,Check.filter_isAdvice_findings]

theorem adviceFollows_issues (advise : Bool) :
    AdviceFollows (lint rules advise notebook).issues := by
  rw [lint_issues]
  exact .append (Check.adviceFollows_findings _ rules advise notebook.cells)
    (Check.adviceFollows_findings _ rules advise notebook.cells)

theorem adviceFollows_warnings (advise : Bool) :
    AdviceFollows (lint rules advise notebook).warnings := by
  rw [lint_warnings]
  exact .append (Check.adviceFollows_findings _ rules advise notebook.cells)
    (Check.adviceFollows_findings _ rules advise notebook.cells)

theorem outcome_advise :
    (lint rules true notebook).outcome = (lint rules false notebook).outcome := by
  have issues : (lint rules false notebook).issues = [] ↔
      (lint rules true notebook).issues = [] := by
    rw [← filter_isAdvice_issues,(adviceFollows_issues rules notebook true).filter_eq_nil_iff]
  have warnings : (lint rules false notebook).warnings = [] ↔
      (lint rules true notebook).warnings = [] := by
    rw [← filter_isAdvice_warnings,(adviceFollows_warnings rules notebook true).filter_eq_nil_iff]
  cases judged : (lint rules false notebook).outcome with
  | clean =>
    rw [LintResult.outcome_eq_clean_iff] at judged ⊢
    exact ⟨issues.mp judged.1,warnings.mp judged.2⟩
  | passWithWarnings =>
    rw [LintResult.outcome_eq_passWithWarnings_iff] at judged ⊢
    exact ⟨issues.mp judged.1,warnings.not.mp judged.2⟩
  | fail =>
    rw [LintResult.outcome_eq_fail_iff] at judged ⊢
    exact issues.not.mp judged

/-- Wishing for advice only adds advice. Less the findings that begin with two spaces and an arrow,
the issues and the warnings are those of the run without it; each of those findings stands in its
list directly after one about the same cell, as severe as it, that is none; every other finding
opens with the number of its cell; and the notebook is judged alike. -/
theorem lint_advise :
    (lint rules true notebook).issues.filter (!·.isAdvice) =
      (lint rules false notebook).issues ∧
    (lint rules true notebook).warnings.filter (!·.isAdvice) =
      (lint rules false notebook).warnings ∧
    AdviceFollows (lint rules true notebook).issues ∧
    AdviceFollows (lint rules true notebook).warnings ∧
    (∀ advise, ∀ finding ∈
      (lint rules advise notebook).issues ++ (lint rules advise notebook).warnings,
      finding.isAdvice = false →
        ∃ text, finding.message = "Cell " ++ toString finding.cell ++ ": " ++ text) ∧
    (lint rules true notebook).outcome = (lint rules false notebook).outcome ∧
    (lint rules true notebook).passed = (lint rules false notebook).passed := by
  refine ⟨filter_isAdvice_issues rules notebook,filter_isAdvice_warnings rules notebook,
    adviceFollows_issues rules notebook true,adviceFollows_warnings rules notebook true,?_,
    outcome_advise rules notebook,congrArg Outcome.passed (outcome_advise rules notebook)⟩
  intro advise finding member plain
  rw [lint_issues,lint_warnings] at member
  simp only [List.mem_append] at member
  rcases member with (found | found) | (found | found) <;>
    exact Check.exists_about_of_mem_findings found plain

end

/-- A cell with an issue and a warning, each with its advice. -/
theorem lint_advise_long_cell :
    (lint .standard true ⟨[⟨7, .code, "a = 1\nb = np.mean(x)\nc = 3"⟩]⟩).issues =
      [.issue 7 "Cell 7: Code cell has 3 lines (should be ≤2 lines)",
        .issue 7 Style.Discipline.advice] ∧
    (lint .standard false ⟨[⟨7, .code, "a = 1\nb = np.mean(x)\nc = 3"⟩]⟩).issues =
      [.issue 7 "Cell 7: Code cell has 3 lines (should be ≤2 lines)"] ∧
    (lint .standard true ⟨[⟨7, .code, "a = 1\nb = np.mean(x)\nc = 3"⟩]⟩).passed = false ∧
    ∃ text, "Cell 7: Code cell has 3 lines (should be ≤2 lines)" =
      "Cell " ++ toString 7 ++ ": " ++ text := by
  have advised : (lint .standard true ⟨[⟨7, .code, "a = 1\nb = np.mean(x)\nc = 3"⟩]⟩).issues =
      [.issue 7 "Cell 7: Code cell has 3 lines (should be ≤2 lines)",
        .issue 7 Style.Discipline.advice] := by
    decide +kernel
  obtain ⟨issues,-,-,-,opens,-,passed⟩ :=
    lint_advise .standard ⟨[⟨7, .code, "a = 1\nb = np.mean(x)\nc = 3"⟩]⟩
  refine ⟨advised,?_,?_,?_⟩
  · rw [← issues,advised]
    decide +kernel
  · rw [passed]
    decide +kernel
  · exact opens true (.issue 7 "Cell 7: Code cell has 3 lines (should be ≤2 lines)")
      (by simp [advised]) (by decide +kernel)

end NotebookLint
