import NotebookLint.Text.Numeral

/-! JSON values. A number is its own text, because its value matters only where a whole number is
asked for; the members of an object keep their order, repeated names included. -/
namespace NotebookLint

inductive Json where
  | null
  | boolean (value : Bool)
  | number (literal : List Char)
  | string (text : String)
  | array (items : List Json)
  | object (members : List (String × Json))
  deriving Inhabited, Repr

namespace Json

/-- The last of several members of one name counts. -/
def lookup (name : String) (members : List (String × Json)) : Option Json :=
  (members.reverse.find? (·.1 == name)).map (·.2)

def member? (name : String) : Json → Option Json
  | object members => lookup name members
  | _ => none

def string? : Json → Option String
  | string text => some text
  | _ => none

/-- A number written with digits alone that fits 64 bits. -/
def natural? : Json → Option Nat
  | number literal =>
    let value := Text.numeral 10 literal
    if literal.all Char.isDigit && value < UInt64.size then some value else none
  | _ => none

def array? : Json → Option (List Json)
  | array items => some items
  | _ => none

end Json
end NotebookLint
