/-! Findings: what a check has to say about a cell, and how a run is judged by them. -/
namespace NotebookLint

inductive Severity where
  | issue
  | warning
  deriving DecidableEq, Repr

structure Finding where
  cell : Nat
  severity : Severity
  message : String
  deriving DecidableEq, Repr

namespace Finding

def issue (cell : Nat) (message : String) : Finding := ⟨cell, .issue, message⟩

def warning (cell : Nat) (message : String) : Finding := ⟨cell, .warning, message⟩

/-- A message that opens with the name of its cell. -/
def about (cell : Nat) (text : String) : String :=
  "Cell " ++ toString cell ++ ": " ++ text

/-- A message that advises on the finding before it. -/
def advice (text : String) : String :=
  "  → " ++ text

end Finding

inductive Outcome where
  | clean
  | passWithWarnings
  | fail
  deriving DecidableEq, Repr

/-- Warnings never fail a notebook. -/
def Outcome.passed : Outcome → Bool
  | fail => false
  | _ => true

structure Summary where
  issues : Nat
  warnings : Nat
  cells : Nat
  deriving DecidableEq, Repr

structure LintResult where
  issues : List Finding
  warnings : List Finding
  summary : Summary
  deriving DecidableEq, Repr

namespace LintResult

def outcome (result : LintResult) : Outcome :=
  if !result.issues.isEmpty then .fail
  else if result.warnings.isEmpty then .clean
  else .passWithWarnings

def passed (result : LintResult) : Bool :=
  result.outcome.passed

end LintResult
end NotebookLint
