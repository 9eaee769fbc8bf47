import NotebookLint.Disk
import NotebookLint.Rules.Source

/-! Rules from a file. The extension decides the format, and a marker that is set must not be empty,
because every line begins with an empty text. -/
namespace NotebookLint.Rules

inductive Marker where
  | comment
  | motivation
  deriving DecidableEq, Repr

def Marker.fieldName : Marker → String
  | comment => "comment_marker"
  | motivation => "motivation_marker"

inductive FileFormat where
  | toml
  | yaml
  deriving DecidableEq, Repr

def FileFormat.name : FileFormat → String
  | toml => "TOML"
  | yaml => "YAML"

def FileFormat.ofPath (path : String) : FileFormat :=
  match Path.extension? path with
  | some "yaml" | some "yml" => yaml
  | _ => toml

def FileFormat.overrides? : FileFormat → String → Option Overrides
  | toml => Overrides.ofToml?
  | yaml => Overrides.ofYaml?

inductive FileError where
  | unreadable (error : ReadError)
  | malformed (format : FileFormat)
  | emptyMarker (marker : Marker)
  deriving DecidableEq, Repr

def FileError.message (path : String) : FileError → String
  | unreadable error => "Failed to read rules file " ++ path ++ ": " ++ error.message
  | malformed format => "Rules file " ++ path ++ " is not valid " ++ format.name
  | emptyMarker marker => "Rules file " ++ path ++ " has an empty '" ++ marker.fieldName ++ "'"

/-- The first marker that is set to nothing. -/
def emptyMarker? (overrides : Overrides) : Option Marker :=
  if overrides.commentMarker = some "" then some .comment
  else if overrides.motivationMarker = some "" then some .motivation
  else none

def ofText (format : FileFormat) (text : String) : Except FileError Rules :=
  match format.overrides? text with
  | none => .error (.malformed format)
  | some overrides => match emptyMarker? overrides with
    | some marker => .error (.emptyMarker marker)
    | none => .ok (ofOverrides overrides)

def ofFile (path : String) (contents : FileContents) : Except FileError Rules :=
  match contents.text with
  | .error error => .error (.unreadable error)
  | .ok text => ofText (.ofPath path) text

end NotebookLint.Rules
