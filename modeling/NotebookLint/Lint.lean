import NotebookLint.Style.Abbreviations
import NotebookLint.Style.Discipline
import NotebookLint.Style.Explanation
import NotebookLint.Style.Motivation

/-! A run of all checks over a notebook. -/
namespace NotebookLint

inductive Check where
  | abbreviations
  | motivation
  | discipline
  | explanation
  deriving DecidableEq, Repr

namespace Check

def all : List Check := [abbreviations, motivation, discipline, explanation]

def label : Check → String
  | abbreviations => "Checking for abbreviations..."
  | motivation => "Checking for motivation paragraphs..."
  | discipline => "Checking code cell line discipline..."
  | explanation => "Checking for translation comments..."

def findings (check : Check) (rules : Rules) (advise : Bool) (cells : List Cell) : List Finding :=
  match check with
  | abbreviations => Style.Abbreviations.findings rules cells
  | motivation => Style.Motivation.findings rules cells
  | discipline => Style.Discipline.findings rules advise cells
  | explanation => Style.Explanation.findings rules advise cells

end Check

/-- All findings in the order of the checks, split by severity. -/
def lint (rules : Rules) (advise : Bool) (notebook : Notebook) : LintResult :=
  let found := Check.all.flatMap fun check => check.findings rules advise notebook.cells
  let issues := found.filter (·.severity == .issue)
  let warnings := found.filter (·.severity == .warning)
  ⟨issues, warnings, ⟨issues.length, warnings.length, notebook.cells.length⟩⟩

end NotebookLint
