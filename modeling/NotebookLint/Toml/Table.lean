/-! TOML values, and tables that grow as headers, dotted keys and values are met. A table remembers
what made it, because that decides what may still be added to it. -/
namespace NotebookLint

namespace Toml

/-- What made a table: its own header, a longer header that passes through it, a dotted key, or
braces, which close it for good. -/
inductive Origin where
  | header
  | implied
  | dotted
  | braces
  deriving DecidableEq, Repr

end Toml

/-- A value. Fractions and moments in time are kept as they are written; a list has grown if headers
in double brackets make its items. -/
inductive Toml where
  | string (text : String)
  | integer (value : Int)
  | fraction (literal : List Char)
  | boolean (value : Bool)
  | moment (literal : List Char)
  | list (grown : Bool) (items : List Toml)
  | table (origin : Toml.Origin) (entries : List (String × Toml))
  deriving Inhabited, Repr

namespace Toml

abbrev Entries := List (String × Toml)

def lookup (key : String) (entries : Entries) : Option Toml :=
  (entries.find? (·.1 == key)).map (·.2)

def update (key : String) (change : Option Toml → Option Toml) : Entries → Option Entries
  | [] => (change none).map fun value => [(key, value)]
  | (name, old) :: rest =>
    if name = key then (change (some old)).map fun value => (name, value) :: rest
    else (update key change rest).map ((name, old) :: ·)

def updateLast (change : Entries → Option Entries) : List Toml → Option (List Toml)
  | [] => none
  | [.table origin entries] => (change entries).map fun entries => [.table origin entries]
  | [_] => none
  | item :: rest => (updateLast change rest).map (item :: ·)

/-- A key may get a value once. -/
def assign (value : Toml) : Option Toml → Option Toml
  | none => some value
  | some _ => none

/-- Gives a dotted key its value. The tables that the key passes through are new or were made by
dotted keys; all but the last may also be implied by a header, or be the last of a grown list. -/
def bind (value : Toml) : List String → Entries → Option Entries
  | [], _ => none
  | [key], entries => update key (assign value) entries
  | key :: next :: path, entries =>
    update key (fun
      | none => (bind value (next :: path) []).map (.table .dotted)
      | some (.table origin inner) =>
        if origin = .dotted || (origin = .implied && !path.isEmpty) then
          (bind value (next :: path) inner).map (.table origin)
        else none
      | some (.list true items) =>
        if path.isEmpty then none
        else (updateLast (bind value (next :: path)) items).map (.list true)
      | some _ => none) entries

/-- Changes the table at the end of a header's path, and implies the tables on the way to it. -/
def reach (change : Entries → Option Entries) : List String → Entries → Option Entries
  | [], entries => change entries
  | key :: path, entries =>
    update key (fun
      | none => (reach change path []).map (.table .implied)
      | some (.table origin inner) =>
        if origin = .braces then none else (reach change path inner).map (.table origin)
      | some (.list true items) => (updateLast (reach change path) items).map (.list true)
      | some _ => none) entries

/-- A header opens a table that is new or has only been implied. -/
def openTable : Option Toml → Option Toml
  | none => some (.table .header [])
  | some (.table .implied entries) => some (.table .header entries)
  | some _ => none

/-- A header in double brackets opens the next table of a grown list. -/
def openItem : Option Toml → Option Toml
  | none => some (.list true [.table .header []])
  | some (.list true items) => some (.list true (items ++ [.table .header []]))
  | some _ => none

end Toml
end NotebookLint
