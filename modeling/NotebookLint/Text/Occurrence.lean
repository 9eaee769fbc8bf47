import NotebookLint.Text.Word

/-! Whole-word occurrences of a term: found from left to right, so that no two overlap. -/
namespace NotebookLint.Text

/-- One occurrence: how many characters lie before it, and its neighbours on the two sides. -/
structure Occurrence where
  start : Nat
  before : Option Char
  after : Option Char
  deriving DecidableEq, Repr

/-- The occurrence of `term` at the head of a text, if it stands there with a word boundary at both
of its ends. -/
def occurrenceAt (term : List Char) (start : Nat) (before : Option Char) (text : List Char) :
    Option Occurrence :=
  let after := (text.drop term.length).head?
  if term.isPrefixOf text && isBoundary before term.head? && isBoundary term.getLast? after then
    some ⟨start, before, after⟩
  else none

/-- The occurrences in a text of which the first `taken` characters belong to an occurrence
already found. -/
def occurrencesAfter (term : List Char) (taken start : Nat) (before : Option Char) :
    List Char → List Occurrence
  | [] => []
  | c :: rest =>
    match taken with
    | left + 1 => occurrencesAfter term left (start + 1) (some c) rest
    | 0 =>
      match occurrenceAt term start before (c :: rest) with
      | some found => found :: occurrencesAfter term (term.length - 1) (start + 1) (some c) rest
      | none => occurrencesAfter term 0 (start + 1) (some c) rest

/-- The occurrences of a non-empty term: the leftmost one, then those after its end. -/
def occurrences (term text : List Char) : List Occurrence :=
  occurrencesAfter term 0 0 none text

/-- A backtick directly before or after an occurrence marks it as code. -/
def Occurrence.isCode (found : Occurrence) : Bool :=
  found.before == some '\x60' || found.after == some '\x60'

def bareOccurrences (term text : List Char) : List Occurrence :=
  (occurrences term text).filter (!·.isCode)

end NotebookLint.Text
