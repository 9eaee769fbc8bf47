import NotebookLint.Proofs.Style.Remark

/-! How a run splits the findings of its checks. Every finding of a check is of the severity of that
check, so the split keeps whole what each check has found, and the outcome can be read off the two
lists. In a notebook that was read from JSON a finding names its cell by where the cell stands. -/
namespace NotebookLint

namespace LintResult

theorem outcome_eq_fail_iff (result : LintResult) :
    result.outcome = .fail ↔ result.issues ≠ [] := by
  unfold outcome
  cases result.issues <;> cases result.warnings <;> simp

theorem outcome_eq_passWithWarnings_iff (result : LintResult) :
    result.outcome = .passWithWarnings ↔ result.issues = [] ∧ result.warnings ≠ [] := by
  unfold outcome
  cases result.issues <;> cases result.warnings <;> simp

theorem outcome_eq_clean_iff (result : LintResult) :
    result.outcome = .clean ↔ result.issues = [] ∧ result.warnings = [] := by
  unfold outcome
  cases result.issues <;> cases result.warnings <;> simp

theorem passed_eq_true_iff (result : LintResult) : result.passed = true ↔ result.issues = [] := by
  rw [← not_iff_not,← ne_eq result.issues,← outcome_eq_fail_iff,passed]
  cases result.outcome <;> simp [Outcome.passed]

end LintResult

theorem Notebook.getElem?_index {json : Json} {notebook : Notebook}
    (read : ofJson json = .ok notebook) {cell : Cell} (member : cell ∈ notebook.cells) :
    notebook.cells[cell.index]? = some cell := by
  unfold ofJson at read
  split at read
  · split at read
    · obtain rfl := Except.ok.inj read
      cases member
    · obtain rfl := Except.ok.inj read
      obtain ⟨position,inside,rfl⟩ := List.mem_mapIdx.mp member
      rw [List.getElem?_mapIdx]
      exact congrArg (Option.map _) (List.getElem?_eq_getElem inside)
    · cases read
  · cases read

namespace Check

theorem filter_findings (check : Check) (rules : Rules) (advise : Bool) (cells : List Cell)
    (severity : Severity) :
    (check.findings rules advise cells).filter (·.severity == severity) =
      if check.severity = severity then check.findings rules advise cells else [] := by
  split
  · apply List.filter_eq_self.mpr
    intro finding found
    simp_all [severity_of_mem_findings found]
  · apply List.filter_eq_nil_iff.mpr
    intro finding found
    simp_all [severity_of_mem_findings found]

end Check

theorem lint_issues (rules : Rules) (advise : Bool) (notebook : Notebook) :
    (lint rules advise notebook).issues =
      Check.abbreviations.findings rules advise notebook.cells ++
        Check.discipline.findings rules advise notebook.cells := by
  simp [lint,Check.all,Check.filter_findings,Check.severity]

theorem lint_warnings (rules : Rules) (advise : Bool) (notebook : Notebook) :
    (lint rules advise notebook).warnings =
      Check.motivation.findings rules advise notebook.cells ++
        Check.explanation.findings rules advise notebook.cells := by
  simp [lint,Check.all,Check.filter_findings,Check.severity]

/-- The issues of a run are those of the abbreviations and then those of the line discipline, the
warnings are those of the motivations and then those of the explanations; the counts and the outcome
follow from them. In a notebook that was read from JSON, each finding leads to a cell of the kind
that its check looks at. -/
theorem lint_split (rules : Rules) (advise : Bool) (notebook : Notebook) :
    (lint rules advise notebook).issues = Style.Abbreviations.findings rules notebook.cells ++
      Style.Discipline.findings rules advise notebook.cells ∧
    (lint rules advise notebook).warnings = Style.Motivation.findings rules notebook.cells ++
      Style.Explanation.findings rules advise notebook.cells ∧
    (lint rules advise notebook).summary = ⟨(lint rules advise notebook).issues.length,
      (lint rules advise notebook).warnings.length, notebook.cells.length⟩ ∧
    ((lint rules advise notebook).outcome = .fail ↔ (lint rules advise notebook).issues ≠ []) ∧
    ((lint rules advise notebook).outcome = .passWithWarnings ↔
      (lint rules advise notebook).issues = [] ∧ (lint rules advise notebook).warnings ≠ []) ∧
    ((lint rules advise notebook).outcome = .clean ↔
      (lint rules advise notebook).issues = [] ∧ (lint rules advise notebook).warnings = []) ∧
    ∀ json, Notebook.ofJson json = .ok notebook → ∀ (check : Check),
      ∀ finding ∈ check.findings rules advise notebook.cells,
        finding.cell < (lint rules advise notebook).summary.cells ∧
          ∃ cell, notebook.cells[finding.cell]? = some cell ∧ cell.kind = check.kind := by
  refine ⟨lint_issues rules advise notebook,lint_warnings rules advise notebook,rfl,
    LintResult.outcome_eq_fail_iff _,LintResult.outcome_eq_passWithWarnings_iff _,
    LintResult.outcome_eq_clean_iff _,?_⟩
  intro json read check finding found
  obtain ⟨cell,member,looked,named⟩ := Check.exists_cell_of_mem_findings found
  have present : notebook.cells[finding.cell]? = some cell :=
    named ▸ Notebook.getElem?_index read member
  exact ⟨(List.getElem?_eq_some_iff.mp present).1,cell,present,looked⟩

/-- A cell that is no object is counted, so that the finding after it leads to the second cell. -/
theorem lint_split_odd_cell :
    Notebook.ofJson (.object [("cells", .array [.string "odd",
        .object [("cell_type", .string "code"), ("source", .string "m = np.mean(x)")]])]) =
      .ok ⟨[⟨0, .other, ""⟩, ⟨1, .code, "m = np.mean(x)"⟩]⟩ ∧
    .warning 1 "Cell 1: Statistical operation without translation comment" ∈
      Check.explanation.findings .standard false [⟨0, .other, ""⟩, ⟨1, .code, "m = np.mean(x)"⟩] ∧
    1 < (lint .standard false
      ⟨[⟨0, .other, ""⟩, ⟨1, .code, "m = np.mean(x)"⟩]⟩).summary.cells ∧
    ∃ cell : Cell, [⟨0, .other, ""⟩, ⟨1, .code, "m = np.mean(x)"⟩][1]? = some cell ∧
      cell.kind = .code := by
  have read : Notebook.ofJson (.object [("cells", .array [.string "odd",
        .object [("cell_type", .string "code"), ("source", .string "m = np.mean(x)")]])]) =
      .ok ⟨[⟨0, .other, ""⟩, ⟨1, .code, "m = np.mean(x)"⟩]⟩ := rfl
  have found : .warning 1 "Cell 1: Statistical operation without translation comment" ∈
      Check.explanation.findings .standard false
        [⟨0, .other, ""⟩, ⟨1, .code, "m = np.mean(x)"⟩] := by
    decide +kernel
  obtain ⟨-,-,-,-,-,-,leads⟩ := lint_split .standard false _
  exact ⟨read,found,leads _ read .explanation _ found⟩

end NotebookLint
