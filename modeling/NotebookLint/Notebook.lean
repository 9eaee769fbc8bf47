import NotebookLint.Json.Reader
import NotebookLint.Text.Search

/-! Notebooks: a list of cells, and how one is read from JSON. Only the shape of the document is
required; a cell of an unknown kind, or without a readable source, is kept. -/
namespace NotebookLint

inductive CellKind where
  | markdown
  | code
  | other
  deriving DecidableEq, Repr

/-- A cell. Its index is the number that findings name it by. -/
structure Cell where
  index : Nat
  kind : CellKind
  source : String
  deriving DecidableEq, Repr

structure Notebook where
  cells : List Cell
  deriving DecidableEq, Repr

namespace CellKind

def ofName : String → CellKind
  | "markdown" => markdown
  | "code" => code
  | _ => other

def ofJson? (json : Option Json) : CellKind :=
  match json.bind Json.string? with
  | some name => ofName name
  | none => other

end CellKind

namespace Cell

def isMarkdown (cell : Cell) : Bool :=
  cell.kind == .markdown

def isCode (cell : Cell) : Bool :=
  cell.kind == .code

def firstLine (cell : Cell) : List Char :=
  Text.firstLine cell.source.toList

/-- A source is one string, or a list whose strings are joined; anything else is empty. -/
def sourceOfJson : Option Json → String
  | some (.string text) => text
  | some (.array parts) => String.join (parts.filterMap Json.string?)
  | _ => ""

def ofJson (index : Nat) (json : Json) : Cell :=
  ⟨index, .ofJson? (json.member? "cell_type"), sourceOfJson (json.member? "source")⟩

end Cell

inductive ShapeError where
  | notAnObject
  | cellsNotAnArray
  deriving DecidableEq, Repr

def ShapeError.message : ShapeError → String
  | notAnObject => "top-level value is not an object"
  | cellsNotAnArray => "'cells' is not an array"

namespace Notebook

def isEmpty (notebook : Notebook) : Bool :=
  notebook.cells.isEmpty

/-- A notebook is an object; its cells are numbered from zero, and there are none without the member
`cells`. -/
def ofJson : Json → Except ShapeError Notebook
  | .object members =>
    match Json.lookup "cells" members with
    | none => .ok ⟨[]⟩
    | some (.array items) => .ok ⟨items.mapIdx Cell.ofJson⟩
    | some _ => .error .cellsNotAnArray
  | _ => .error .notAnObject

inductive TextError where
  | malformed (error : Json.Error)
  | shape (error : ShapeError)
  deriving DecidableEq, Repr

def parse (text : String) : Except TextError Notebook :=
  match Json.Reader.read text.toList with
  | .error error => .error (.malformed error)
  | .ok json => match ofJson json with
    | .error error => .error (.shape error)
    | .ok notebook => .ok notebook

end Notebook
end NotebookLint
