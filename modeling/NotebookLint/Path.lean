/-! Paths as texts: their pieces between slashes, and the name and extension of the file they end
in. -/
namespace NotebookLint.Path

def pieces (path : List Char) : List (List Char) :=
  path.splitOn '/'

def fileNameOf (path : List Char) : Option (List Char) :=
  match ((pieces path).filter fun piece => piece != [] && piece != ['.']).getLast? with
  | some ['.', '.'] => none
  | name => name

/-- The last piece of a path that names something; a path that ends in `..` names no file. -/
def fileName? (path : String) : Option String :=
  (fileNameOf path.toList).map String.ofList

/-- What follows the last dot of a file name; a name whose only dot is its first character has no
extension. -/
def extension? (path : String) : Option String :=
  (fileNameOf path.toList).bind fun name =>
    let ending := (name.reverse.takeWhile (· != '.')).reverse
    if ending.length + 1 < name.length then some (String.ofList ending) else none

def display (path : String) : String :=
  (fileName? path).getD path

end NotebookLint.Path
