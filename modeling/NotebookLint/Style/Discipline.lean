import NotebookLint.Finding
import NotebookLint.Notebook
import NotebookLint.Rules.Basic

/-! Line discipline: a code cell that does not plot has no more significant lines than the rules
allow. -/
namespace NotebookLint.Style.Discipline

def message (rules : Rules) (cell : Cell) : String :=
  Finding.about cell.index
    ("Code cell has " ++ toString (rules.significantLines cell.source).length ++
      " lines (should be ≤" ++ toString rules.maxCodeLines ++ " lines)")

def advice : String :=
  Finding.advice
    "Suggestion: Split this cell into multiple cells, each doing one conceptual operation"

def isTooLong (rules : Rules) (cell : Cell) : Bool :=
  cell.isCode && !rules.isPlotting cell.source &&
    rules.maxCodeLines < (rules.significantLines cell.source).length

def cellFindings (rules : Rules) (advise : Bool) (cell : Cell) : List Finding :=
  if isTooLong rules cell then
    .issue cell.index (message rules cell) :: if advise then [.issue cell.index advice] else []
  else []

/-- Of the source only two things matter: whether it plots, and its significant lines. -/
theorem cellFindings_congr {rules : Rules} {cell other : Cell} (index : cell.index = other.index)
    (kind : cell.kind = other.kind)
    (plots : rules.isPlotting cell.source = rules.isPlotting other.source)
    (lines : rules.significantLines cell.source = rules.significantLines other.source)
    (advise : Bool) : cellFindings rules advise cell = cellFindings rules advise other := by
  have long : isTooLong rules cell = isTooLong rules other := by
    rw [isTooLong,isTooLong,Cell.isCode,Cell.isCode,kind,plots,lines]
  have said : message rules cell = message rules other := by
    rw [message,message,index,lines]
  rw [cellFindings,cellFindings,long,said,index]

def findings (rules : Rules) (advise : Bool) (cells : List Cell) : List Finding :=
  cells.flatMap (cellFindings rules advise)

end NotebookLint.Style.Discipline
