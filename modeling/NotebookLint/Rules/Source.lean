import NotebookLint.Rules.Format
import NotebookLint.Toml.Document
import NotebookLint.Yaml.Document

/-! Configurations as texts: how TOML and YAML values are looked at, and what whole texts of these
formats set. -/
namespace NotebookLint

namespace Toml

/-- TOML as a format: nothing is unset, and a list may stand for a record, which passes over what it
has too much. Of a table the fields that do not matter are read all the same, so that their numbers
must be in range. -/
def format : Format Toml where
  text?
    | .string text => some text
    | _ => none
  natural?
    | .integer value => if 0 ≤ value && value < UInt64.size then some value.toNat else none
    | _ => none
  list?
    | .list _ items => some items
    | _ => none
  record? names
    | .table _ entries =>
      if entries.all fun (name, value) => names.contains name || inRange value then
        some fun name => lookup name entries
      else none
    | .list _ items => some (Format.ofList names items)
    | _ => none
  isSet? _ := some true

end Toml

namespace Yaml

def nullTag : List Char := "tag:yaml.org,2002:null".toList

def integerTag : List Char := "tag:yaml.org,2002:int".toList

def isNullWord (text : List Char) : Bool :=
  [['~'], ['n', 'u', 'l', 'l'], ['N', 'u', 'l', 'l'], ['N', 'U', 'L', 'L']].contains text

/-- The number that a text writes in a base, if it holds digits of that base and nothing else. -/
def inBase? (base : Nat) (text : List Char) : Option Nat :=
  if !text.isEmpty && text.all (Text.isDigitOf base) then some (Text.numeral base text) else none

/-- A whole number as it may be written without quotes: in base sixteen, eight or two after a mark,
or in base ten without needless zeros. -/
def number? (text : List Char) : Option Nat :=
  let unsigned := if text.head? = some '+' then text.tail else text
  match unsigned with
  | '0' :: 'x' :: digits => inBase? 16 digits
  | '0' :: 'o' :: digits => inBase? 8 digits
  | '0' :: 'b' :: digits => inBase? 2 digits
  | '0' :: _ :: _ => none
  | digits => inBase? 10 digits

def natural? : Node → Option Nat
  | .scalar style tag text =>
    if style = .plain || (style = .literal && tag = some integerTag) then
      (number? text).filter (· < UInt64.size)
    else none
  | _ => none

/-- Nothing, or a word for it, stands for no value. A tag that asks for no value asks for such a
word. -/
def isSet? : Node → Option Bool
  | .scalar .plain none text => some (!text.isEmpty && !isNullWord text)
  | .scalar .plain (some tag) text =>
    if tag = nullTag then if isNullWord text then some false else none else some true
  | _ => some true

def text? : Node → Option String
  | .scalar _ _ text => some (String.ofList text)
  | _ => none

/-- YAML as a format. A record is a map whose keys are texts, each field of the record given once at
most; an empty text without quotes may stand for a record or list without anything in it. -/
def format (slots : List (Nat × Node)) : Format Node where
  text? node := text? (node.resolve slots)
  natural? node := natural? (node.resolve slots)
  list? node := match node.resolve slots with
    | .list items => some items
    | .scalar .plain _ [] => some []
    | _ => none
  record? names node := match node.resolve slots with
    | .map pairs => do
      let fields ← pairs.mapM fun (key, value) => do return (← text? (key.resolve slots), value)
      if names.all fun name => (fields.filter (·.1 == name)).length ≤ 1 then
        some fun name => (fields.find? (·.1 == name)).map (·.2)
      else none
    | .scalar .plain _ [] => some fun _ => none
    | _ => none
  isSet? node := isSet? (node.resolve slots)

/-- How many aliases are followed where one value is read. -/
def valueLooks (node : Node) : Nat :=
  if node.isAlias then 1 else 0

/-- How many aliases are followed inside a record: for all its keys, and for what its own fields
hold. -/
def recordLooks (slots : List (Nat × Node)) (names : List String) (inside : Node → Nat)
    (node : Node) : Nat :=
  match node.resolve slots with
  | .map pairs => pairs.foldl (fun looks (key, value) =>
      looks + valueLooks key +
        if (text? (key.resolve slots)).any names.contains then inside value else 0) 0
  | _ => 0

def entryLooks (slots : List (Nat × Node)) (node : Node) : Nat :=
  valueLooks node + recordLooks slots Format.entryNames valueLooks node

def fieldLooks (slots : List (Nat × Node)) (node : Node) : Nat :=
  valueLooks node + match node.resolve slots with
    | .list items => items.foldl (fun looks item => looks + entryLooks slots item) 0
    | _ => 0

/-- For each event of a document so many aliases may be followed. -/
def looksPerEvent : Nat := 100

def isModest (root : Node) : Bool :=
  recordLooks root.slots Format.fieldNames (fieldLooks root.slots) root ≤
    looksPerEvent * root.events

end Yaml

namespace Overrides

def empty : Overrides :=
  ⟨none, none, none, none, none, none, none⟩

def ofJson? (json : Json) : Option Overrides :=
  Json.format.overrides? json

def ofToml? (text : String) : Option Overrides :=
  (Toml.Document.read text.toList).bind fun entries =>
    Toml.format.overrides? (.table .header entries)

/-- A text without any document sets nothing. -/
def ofYaml? (text : String) : Option Overrides :=
  (Yaml.Document.read text.toList).bind fun
    | none => some empty
    | some root => if Yaml.isModest root then (Yaml.format root.slots).overrides? root else none

end Overrides
end NotebookLint
