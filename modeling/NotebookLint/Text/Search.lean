/-! Parts of a text: its lines, and the places where another text occurs in it. -/
namespace NotebookLint.Text

/-- The lines of a text, which line feeds separate. There is always at least one. -/
def lines (text : List Char) : List (List Char) :=
  text.splitOn '\n'

def firstLine (text : List Char) : List Char :=
  text.takeWhile (· != '\n')

theorem head?_lines (text : List Char) : (lines text).head? = some (firstLine text) := by
  unfold lines firstLine
  induction text with
  | nil => rfl
  | cons c rest ih =>
    rw [List.splitOn_cons_eq_if_modifyHead]
    by_cases feed : c = '\n'
    · simp [feed]
    · cases split : rest.splitOn '\n' with
      | nil => exact absurd split (List.splitOn_ne_nil _ _)
      | cons line more => simp_all

theorem lines_append (text more : List Char) :
    lines (text ++ '\n' :: more) = lines text ++ lines more :=
  List.splitOn_append_cons_self text more

theorem lines_of_unbroken {text : List Char} (unbroken : '\n' ∉ text) : lines text = [text] :=
  List.splitOn_eq_singleton unbroken

def includes (part : List Char) : List Char → Bool
  | [] => part.isEmpty
  | c :: rest => part.isPrefixOf (c :: rest) || includes part rest

theorem includes_iff_infix (part text : List Char) :
    includes part text = true ↔ part <:+: text := by
  induction text with
  | nil => cases part <;> simp [includes]
  | cons c rest ih => simp [includes, ih, List.infix_cons_iff]

/-- The text without a first run of characters of one kind, which has to be there. -/
def past (kind : Char → Bool) : List Char → Option (List Char)
  | [] => none
  | c :: rest => if kind c then some (rest.dropWhile kind) else none

end NotebookLint.Text
