import NotebookLint.Finding
import NotebookLint.Report.Paint

/-! The report of a run, as it is printed. -/
namespace NotebookLint.Report

def rule : String :=
  String.ofList (List.replicate 70 '=')

def framed (text : String) : String :=
  "\n" ++ rule ++ "\n" ++ text ++ "\n" ++ rule ++ "\n"

def banner (name : String) : String :=
  framed ("Validating: " ++ name)

def errorMark (colour : Bool) : String :=
  if colour then strong .red "✖ error:" else "✖ error:"

def noteMark (colour : Bool) : String :=
  if colour then strong .yellow "▲ note:" else "▲ note:"

def verdict : Outcome → String
  | .clean => "✅ Notebook passes all validation checks!"
  | .passWithWarnings => "✅ Notebook has no critical issues (warnings can be reviewed)"
  | .fail => "❌ Notebook has issues that should be fixed"

def items (findings : List Finding) : String :=
  String.join (findings.map fun finding => "  " ++ finding.message ++ "\n")

def listing (colour : Bool) (paint : Colour) (title : String) (count : Nat)
    (findings : List Finding) : String :=
  let heading := title ++ " (" ++ toString count ++ "):"
  (if colour then strong paint heading else heading) ++ "\n\n" ++ items findings

def issuesPart (colour : Bool) (result : LintResult) : String :=
  if result.issues.isEmpty then
    let line := "✅ No critical issues found!"
    (if colour then coloured .green line else line) ++ "\n"
  else listing colour .red "❌ ISSUES FOUND" result.summary.issues result.issues

def warningsPart (colour : Bool) (result : LintResult) : String :=
  if result.warnings.isEmpty then ""
  else "\n" ++ listing colour .yellow "⚠️  WARNINGS" result.summary.warnings result.warnings

def verdictPart (colour : Bool) (outcome : Outcome) : String :=
  framed (if colour then bold (verdict outcome) else verdict outcome)

/-- The results: how many cells were read, the issues, the warnings and the verdict. -/
def results (colour : Bool) (result : LintResult) : String :=
  framed ("VALIDATION RESULTS (" ++ toString result.summary.cells ++ " cells)") ++ "\n" ++
    issuesPart colour result ++ warningsPart colour result ++ verdictPart colour result.outcome

end NotebookLint.Report
