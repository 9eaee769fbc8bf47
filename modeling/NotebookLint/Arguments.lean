/-! The command line: one notebook, one flag, and the usual requests for help and version. Arguments
are taken from left to right, and the first that decides the outcome ends the reading. -/
namespace NotebookLint

structure Arguments where
  notebook : String
  advise : Bool
  deriving DecidableEq, Repr

namespace Arguments

inductive Flag where
  | advise
  | help
  | version
  deriving DecidableEq, Repr

def Flag.name : Flag → String
  | advise => "--fix-suggestions"
  | help => "--help"
  | version => "--version"

def Flag.ofName? (name : String) : Option Flag :=
  [Flag.advise, .help, .version].find? (·.name == name)

/-- Which usage line goes with an error. Once the flag for advice has been given, a line may name it
as an alternative to the notebook, after the flag in question if that is another one. -/
inductive Usage where
  | general
  | notebook
  | withFlag (flag : Flag)
  | eitherAfter (flag : Option Flag)
  deriving DecidableEq, Repr

inductive Stop where
  | help
  | summary
  | version
  | missingNotebook (advise : Bool)
  | emptyNotebook
  | unknownFlag (written : String) (usage : Usage)
  | extraArgument (written : String)
  | repeatedFlag
  | unexpectedValue (flag : Flag) (value : String) (advise : Bool)
  deriving DecidableEq, Repr

/-- What has been read: the flag, and the notebook, which is looked at when something follows it or
the arguments end. -/
structure Reading where
  advise : Bool
  notebook : Option String

def start : Reading := ⟨false, none⟩

def Reading.checkNotebook (reading : Reading) : Except Stop Unit :=
  if reading.notebook = some "" then .error .emptyNotebook else .ok ()

def Reading.takeFlag (reading : Reading) : Flag → Except Stop Reading
  | .advise =>
    if reading.advise then .error .repeatedFlag else .ok { reading with advise := true }
  | .help => .error .help
  | .version => .error .version

def Reading.usage (reading : Reading) : Usage :=
  if reading.advise then .withFlag .advise
  else if reading.notebook.isSome then .notebook
  else .general

def splitValue (written : List Char) : String × Option String :=
  (String.ofList (written.takeWhile (· != '=')),
    match written.dropWhile (· != '=') with
    | [] => none
    | _ :: value => some (String.ofList value))

def Reading.takeLong (reading : Reading) (written : List Char) : Except Stop Reading :=
  match splitValue written with
  | (name, value) => match Flag.ofName? name, value with
    | none, _ => .error (.unknownFlag name reading.usage)
    | some flag, some value => .error (.unexpectedValue flag value reading.advise)
    | some flag, none => do
      reading.checkNotebook
      reading.takeFlag flag

/-- Short flags end the reading at their first letter. -/
def Reading.takeShort (reading : Reading) (letter : Char) : Except Stop Reading :=
  if letter = 'h' then do
    reading.checkNotebook
    .error .summary
  else if letter = 'V' then do
    reading.checkNotebook
    .error .version
  else .error (.unknownFlag (String.ofList ['-', letter]) .general)

def Reading.takePositional (reading : Reading) (written : String) : Except Stop Reading :=
  if reading.notebook.isNone then .ok { reading with notebook := some written }
  else .error (.extraArgument written)

def Reading.take (reading : Reading) (written : String) : Except Stop Reading :=
  match written.toList with
  | '-' :: '-' :: rest => reading.takeLong ('-' :: '-' :: rest)
  | '-' :: letter :: _ => reading.takeShort letter
  | _ => reading.takePositional written

def readAll (reading : Reading) (flags : Bool) : List String → Except Stop Reading
  | [] => .ok reading
  | written :: rest =>
    if flags && written == "--" then readAll reading false rest
    else do
      let next ← if flags then reading.take written else reading.takePositional written
      readAll next flags rest

def parse (written : List String) : Except Stop Arguments := do
  let reading ← readAll start true written
  reading.checkNotebook
  match reading.notebook with
  | some notebook => .ok ⟨notebook, reading.advise⟩
  | none => .error (.missingNotebook reading.advise)

def usageLine : Usage → String
  | .general => "Usage: nbcheck [OPTIONS] <NOTEBOOK>"
  | .notebook => "Usage: nbcheck <NOTEBOOK>"
  | .withFlag flag => "Usage: nbcheck " ++ flag.name ++ " <NOTEBOOK>"
  | .eitherAfter none => "Usage: nbcheck <NOTEBOOK|" ++ Flag.advise.name ++ ">"
  | .eitherAfter (some flag) =>
    "Usage: nbcheck " ++ flag.name ++ " <NOTEBOOK|" ++ Flag.advise.name ++ ">"

def valueUsage (flag : Flag) (advise : Bool) : Usage :=
  if !advise then .withFlag flag
  else if flag = .advise then .eitherAfter none
  else .eitherAfter (some flag)

def errorText (paragraphs : List String) : String :=
  "error: " ++ String.intercalate "\n\n"
    (paragraphs ++ ["For more information, try '--help'."]) ++ "\n"

def closing : String :=
  "Exit status: 0 when no issues are found (warnings allowed), 1 otherwise.\n" ++
  "\n" ++
  "Examples:\n" ++
  "  nbcheck notebooks/02_estimators.ipynb\n" ++
  "  nbcheck notebooks/02_estimators.ipynb --fix-suggestions\n"

def helpText : String :=
  "nbcheck — validate a notebook against the concisely rigorous style guide.\n" ++
  "\n" ++
  "Checks: abbreviations in markdown, motivation paragraphs for numbered sections, " ++
  "two-line discipline for code cells, and translation comments on statistical code.\n" ++
  "\n" ++
  usageLine .general ++ "\n" ++
  "\n" ++
  "Arguments:\n" ++
  "  <NOTEBOOK>\n" ++
  "          Path to the notebook (.ipynb)\n" ++
  "\n" ++
  "Options:\n" ++
  "      --fix-suggestions\n" ++
  "          Append a fix suggestion after each finding that has one\n" ++
  "\n" ++
  "  -h, --help\n" ++
  "          Print help (see a summary with '-h')\n" ++
  "\n" ++
  "  -V, --version\n" ++
  "          Print version\n" ++
  "\n" ++
  closing

def summaryText : String :=
  "Lint statistical-education notebooks\n" ++
  "\n" ++
  usageLine .general ++ "\n" ++
  "\n" ++
  "Arguments:\n" ++
  "  <NOTEBOOK>  Path to the notebook (.ipynb)\n" ++
  "\n" ++
  "Options:\n" ++
  "      --fix-suggestions  Append a fix suggestion after each finding that has one\n" ++
  "  -h, --help             Print help (see more with '--help')\n" ++
  "  -V, --version          Print version\n" ++
  "\n" ++
  closing

namespace Stop

def isRequest : Stop → Bool
  | help | summary | version => true
  | _ => false

def text : Stop → String
  | help => helpText
  | summary => summaryText
  | version => "nbcheck 0.1.0\n"
  | missingNotebook advise =>
    errorText ["the following required arguments were not provided:\n  <NOTEBOOK>",
      usageLine (if advise then .withFlag .advise else .notebook)]
  | emptyNotebook =>
    errorText ["a value is required for '<NOTEBOOK>' but none was supplied"]
  | unknownFlag written usage =>
    errorText ["unexpected argument '" ++ written ++ "' found",
      "  tip: to pass '" ++ written ++ "' as a value, use '-- " ++ written ++ "'",
      usageLine usage]
  | extraArgument written =>
    errorText ["unexpected argument '" ++ written ++ "' found", usageLine .general]
  | repeatedFlag =>
    errorText ["the argument '" ++ Flag.advise.name ++ "' cannot be used multiple times",
      usageLine .general]
  | unexpectedValue flag value advise =>
    errorText ["unexpected value '" ++ value ++ "' for '" ++ flag.name ++
        "' found; no more were expected",
      usageLine (valueUsage flag advise)]

end Stop
end Arguments
end NotebookLint
