import NotebookLint.Finding
import NotebookLint.Notebook
import NotebookLint.Rules.Basic
import NotebookLint.Text.Occurrence

/-! Abbreviations in prose. Every whole-word occurrence of a term in a markdown cell is an issue,
unless a backtick beside it marks it as code. -/
namespace NotebookLint.Style.Abbreviations
open Text

def message (cell : Cell) (entry : Abbreviation) : String :=
  Finding.about cell.index
    ("Found abbreviation '" ++ entry.term ++ "' (should be '" ++ entry.expansion ++ "')")

theorem message_eq (cell : Cell) (entry : Abbreviation) : message cell entry =
    "Cell " ++ toString cell.index ++ ": Found abbreviation '" ++ entry.term ++
      "' (should be '" ++ entry.expansion ++ "')" := by
  simp [message,Finding.about,← String.toList_inj]

def entryFindings (cell : Cell) (entry : Abbreviation) : List Finding :=
  if entry.term.isEmpty then []
  else (bareOccurrences entry.term.toList cell.source.toList).map fun _ =>
    .issue cell.index (message cell entry)

def cellFindings (rules : Rules) (cell : Cell) : List Finding :=
  if cell.isMarkdown then rules.abbreviations.flatMap (entryFindings cell) else []

def findings (rules : Rules) (cells : List Cell) : List Finding :=
  cells.flatMap (cellFindings rules)

end NotebookLint.Style.Abbreviations
