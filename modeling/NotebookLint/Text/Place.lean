/-! Places in a text, counted as its readers report them: lines from one, and within a line the
bytes before the place. -/
namespace NotebookLint.Text

structure Place where
  line : Nat
  column : Nat
  deriving DecidableEq, Repr

namespace Place

def start : Place := ⟨1, 0⟩

/-- The place after some of a character's bytes; a line feed has only one. -/
def pastBytes (place : Place) (c : Char) (bytes : Nat) : Place :=
  if c = '\n' then ⟨place.line + 1, 0⟩ else ⟨place.line, place.column + bytes⟩

def past (place : Place) (c : Char) : Place :=
  place.pastBytes c c.utf8Size

def into (place : Place) (c : Char) : Place :=
  place.pastBytes c 1

end Place
end NotebookLint.Text
