import NotebookLint.Json.Value
import NotebookLint.Rules.Basic

/-! Reading a configuration out of a value of any format: a format says which of its values are
texts, numbers, lists and records, and the fields of a configuration are read through that. -/
namespace NotebookLint

/-- How the values of a format are looked at. A record is looked at with the names of its fields, in
the order in which a format that writes records without names lists them. `isSet?` tells a value
from one that only says that there is none, and refuses a value that contradicts itself in this. -/
structure Format (α : Type) where
  text? : α → Option String
  natural? : α → Option Nat
  list? : α → Option (List α)
  record? : List String → α → Option (String → Option α)
  isSet? : α → Option Bool

namespace Format

variable {α : Type}

def ofList (names : List String) (items : List α) (name : String) : Option α :=
  ((names.zip items).find? (·.1 == name)).map (·.2)

def texts? (format : Format α) (value : α) : Option (List String) :=
  (format.list? value).bind (·.mapM format.text?)

def entryNames : List String := ["term", "expansion"]

def abbreviation? (format : Format α) (value : α) : Option Abbreviation := do
  let field ← format.record? entryNames value
  let term ← (field "term").bind format.text?
  let expansion ← (field "expansion").bind format.text?
  return ⟨term, expansion⟩

def abbreviations? (format : Format α) (value : α) : Option (List Abbreviation) :=
  (format.list? value).bind (·.mapM format.abbreviation?)

/-- A field that may be missing or unset, and has to be readable otherwise. -/
def optional {β : Type} (format : Format α) (read : α → Option β) :
    Option α → Option (Option β)
  | none => some none
  | some value => do if ← format.isSet? value then (read value).map some else some none

def fieldNames : List String :=
  ["abbreviations", "plotting_keywords", "translation_skip_keywords", "stats_keywords",
   "max_code_lines", "comment_marker", "motivation_marker"]

/-- A configuration: a record whose fields may all be missing, and whose other fields do not
matter. -/
def overrides? (format : Format α) (value : α) : Option Overrides := do
  let field ← format.record? fieldNames value
  let abbreviations ← format.optional format.abbreviations? (field "abbreviations")
  let plottingKeywords ← format.optional format.texts? (field "plotting_keywords")
  let skipKeywords ← format.optional format.texts? (field "translation_skip_keywords")
  let statsKeywords ← format.optional format.texts? (field "stats_keywords")
  let maxCodeLines ← format.optional format.natural? (field "max_code_lines")
  let commentMarker ← format.optional format.text? (field "comment_marker")
  let motivationMarker ← format.optional format.text? (field "motivation_marker")
  return ⟨abbreviations, plottingKeywords, skipKeywords, statsKeywords, maxCodeLines, commentMarker,
    motivationMarker⟩

end Format

/-- JSON as a format: a record may be a list of as many values as it has fields. -/
def Json.format : Format Json where
  text? := Json.string?
  natural? := Json.natural?
  list? := Json.array?
  record? names
    | .object members => some fun name => Json.lookup name members
    | .array items => if items.length = names.length then some (Format.ofList names items) else none
    | _ => none
  isSet?
    | .null => some false
    | _ => some true

end NotebookLint
