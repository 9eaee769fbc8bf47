import NotebookLint.Program

/-! The command line program on the files of the machine. -/
namespace NotebookLint.Program

/-- The number of a system error, which some operations report negated. -/
def errorNumber (code : UInt32) : UInt32 :=
  if code < 4096 then code else -code

/-- Why something that is there cannot be read. -/
def readErrorOf : IO.Error → ReadError
  | .inappropriateType _ code details =>
    if errorNumber code = 21 then .isADirectory else .other details
  | .permissionDenied _ _ _ => .other "Permission denied (os error 13)"
  | .noFileOrDirectory _ _ _ => .other ReadError.notFound.message
  | error => .other (toString error)

/-- Nothing is at a path that leads nowhere or through a folder that may not be entered. -/
def existsOnMachine (path : String) : IO Bool := do
  if path.toList.contains '\x00' then return false
  try
    discard <| IO.FS.realPath path
    return true
  catch _ => return false

def contentsOnMachine (path : String) : IO FileContents := do
  if !(← existsOnMachine path) then return .error .notFound
  try return .ok (← IO.FS.readBinFile path)
  catch error => return .error (readErrorOf error)

/-- Everything goes to standard output. Colours are used unless the environment forbids them. -/
def runOnMachine (written : List String) : IO UInt32 := do
  let colour := (← IO.getEnv "NO_COLOR").isNone
  let contents ← match Arguments.parse written with
    | .ok arguments => contentsOnMachine arguments.notebook
    | .error _ => pure (.error .notFound)
  let result := run colour written fun _ => contents
  IO.print result.output
  return result.status.toUInt32

end NotebookLint.Program

def main (written : List String) : IO UInt32 :=
  NotebookLint.Program.runOnMachine written
