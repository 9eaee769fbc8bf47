/-! Sets of characters, given as sorted runs of code points. -/
namespace NotebookLint.Text.Ranges

/-- Whether a code point lies in one of the closed runs. The runs are sorted, so the search stops at
the first run that begins beyond it. -/
def contains : List (Nat × Nat) → Nat → Bool
  | [], _ => false
  | (first, last) :: runs, code => first ≤ code && (code ≤ last || contains runs code)

end NotebookLint.Text.Ranges
