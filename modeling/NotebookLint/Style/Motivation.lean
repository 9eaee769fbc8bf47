import NotebookLint.Finding
import NotebookLint.Notebook
import NotebookLint.Rules.Basic
import NotebookLint.Text.Digit

/-! Motivation of numbered sections. A markdown cell that opens a section such as `## 3.2 Title`
needs the motivation marker, in itself or in a markdown cell at one of the next two positions. -/
namespace NotebookLint.Style.Motivation
open Text

/-- Two number signs, white space, a number with one dot inside, and white space again. -/
def isSectionHeading : List Char → Bool
  | '#' :: '#' :: rest =>
    match (past isBlank rest).bind (past isDigit) with
    | some ('.' :: rest) => ((past isDigit rest).bind (past isBlank)).isSome
    | _ => false
  | _ => false

/-- How many positions after a heading may hold its motivation. -/
def window : Nat := 2

def motivates (rules : Rules) (cell : Cell) : Bool :=
  includes rules.motivationMarker.toList cell.source.toList

def isMotivated (rules : Rules) (cell : Cell) (following : List Cell) : Bool :=
  motivates rules cell ||
    (following.take window).any fun next => next.isMarkdown && motivates rules next

def message (cell : Cell) : String :=
  Finding.about cell.index
    ("Section '" ++ String.ofList (trim cell.firstLine) ++
      "' may be missing a motivation paragraph")

theorem message_eq (cell : Cell) : message cell =
    "Cell " ++ toString cell.index ++ ": Section '" ++ String.ofList (trim cell.firstLine) ++
      "' may be missing a motivation paragraph" := by
  simp [message,Finding.about,← String.toList_inj]

def cellFindings (rules : Rules) (cell : Cell) (following : List Cell) : List Finding :=
  if cell.isMarkdown && isSectionHeading cell.firstLine && !isMotivated rules cell following then
    [.warning cell.index (message cell)]
  else []

def findings (rules : Rules) : List Cell → List Finding
  | [] => []
  | cell :: following => cellFindings rules cell following ++ findings rules following

end NotebookLint.Style.Motivation
