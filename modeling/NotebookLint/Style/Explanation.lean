import NotebookLint.Finding
import NotebookLint.Notebook
import NotebookLint.Rules.Basic

/-! Explanations: a code cell with a statistical operation opens with a comment, and the comment has
a colon. -/
namespace NotebookLint.Style.Explanation
open Text

inductive Gap where
  | comment
  | colon
  deriving DecidableEq, Repr

def Gap.message : Gap → String
  | comment => "Statistical operation without translation comment"
  | colon => "Translation comment may not follow pattern"

def Gap.advice : Gap → String
  | comment =>
    Finding.advice "Suggestion: Add comment like '# [Formula]: [Plain English] ([Concept])'"
  | colon => Finding.advice "Expected pattern: '# [LaTeX]: [Explanation] ([Concept])'"

def needsComment (rules : Rules) (cell : Cell) : Bool :=
  cell.isCode && !(trim cell.source.toList).isEmpty && !rules.skipsExplanation cell.source &&
    rules.hasStatistics cell.source

def gap? (rules : Rules) (cell : Cell) : Option Gap :=
  let line := trim cell.firstLine
  if !rules.isComment line then some .comment
  else if !line.contains ':' then some .colon
  else none

def gapFindings (advise : Bool) (cell : Cell) (gap : Gap) : List Finding :=
  .warning cell.index (Finding.about cell.index gap.message) ::
    if advise then [.warning cell.index gap.advice] else []

def cellFindings (rules : Rules) (advise : Bool) (cell : Cell) : List Finding :=
  if needsComment rules cell then ((gap? rules cell).map (gapFindings advise cell)).getD [] else []

def findings (rules : Rules) (advise : Bool) (cells : List Cell) : List Finding :=
  cells.flatMap (cellFindings rules advise)

end NotebookLint.Style.Explanation
