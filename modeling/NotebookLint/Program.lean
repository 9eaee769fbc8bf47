import NotebookLint.Arguments
import NotebookLint.Disk
import NotebookLint.Lint
import NotebookLint.Report.Layout

/-! The program: what it prints and how it exits, given its arguments and what the path of the
notebook leads to. -/
namespace NotebookLint

inductive Notebook.LoadError where
  | notFound
  | unreadable (error : ReadError)
  | badText (error : Notebook.TextError)
  deriving DecidableEq, Repr

namespace Notebook

def TextError.message (path : String) : TextError → String
  | .malformed error => "Notebook " ++ path ++ " is not valid JSON: " ++ error.message
  | .shape error => "Notebook " ++ path ++ " has an unexpected shape: " ++ error.message

def LoadError.message (path : String) : LoadError → String
  | .notFound => "Notebook not found at " ++ path
  | .unreadable error => "Failed to read notebook " ++ path ++ ": " ++ error.message
  | .badText error => error.message path

def load (contents : FileContents) : Except LoadError Notebook :=
  match contents.text with
  | .error error => if error.isAbsence then .error .notFound else .error (.unreadable error)
  | .ok text => match parse text with
    | .error error => .error (.badText error)
    | .ok notebook => .ok notebook

end Notebook

structure Run where
  status : Nat
  output : String
  deriving DecidableEq, Repr

namespace Program

def line (text : String) : String :=
  text ++ "\n"

def checked (colour : Bool) (arguments : Arguments) (notebook : Notebook) : Run :=
  let result := lint .standard arguments.advise notebook
  let note :=
    if notebook.isEmpty then line (Report.noteMark colour ++ " Notebook has no cells.") else ""
  let labels := String.join (Check.all.map fun check => line check.label)
  ⟨if result.passed then 0 else 1,
    note ++ line (Report.banner (Path.display arguments.notebook)) ++ labels ++
      line (Report.results colour result)⟩

def check (colour : Bool) (arguments : Arguments) (contents : FileContents) : Run :=
  match Notebook.load contents with
  | .error error =>
    ⟨1, line (Report.errorMark colour ++ " " ++ error.message arguments.notebook)⟩
  | .ok notebook => checked colour arguments notebook

def run (colour : Bool) (written : List String) (contents : String → FileContents) : Run :=
  match Arguments.parse written with
  | .error stop => ⟨if stop.isRequest then 0 else 1, stop.text⟩
  | .ok arguments => check colour arguments (contents arguments.notebook)

end Program
end NotebookLint
