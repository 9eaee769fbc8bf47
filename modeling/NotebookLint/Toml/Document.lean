import NotebookLint.Toml.Scalar
import NotebookLint.Toml.Token

/-! TOML documents: the table that a sequence of tokens builds, read by a machine that takes one
token at a time. -/
namespace NotebookLint.Toml.Document
open Token

/-- What a value belongs to: a key of the current line, an array, or a key inside braces. Items are
held latest first. -/
inductive Frame where
  | line (path : List String)
  | array (items : List Toml)
  | braces (entries : Entries) (path : List String)

/-- What is due. Paths are held last key first, and a key inside braces that a line break follows is
complete. A bare value may go on over points, and a date may go on after one space. -/
inductive Mode where
  | line
  | header
  | headerKey (doubled : Bool) (path : List String)
  | headerNext (doubled : Bool) (path : List String)
  | headerClose (path : List String)
  | lineEnd
  | key (path : List String)
  | keyNext (path : List String)
  | equals (path : List String)
  | value
  | bare (text : List Char)
  | dateSpace (text : List Char)
  | separator

/-- The table so far, the path of the header that the current line stands under, the open frames and
what is due. -/
structure State where
  root : Entries
  header : List String
  frames : List Frame
  mode : Mode

def start : State := ⟨[], [], [], .line⟩

/-- Arrays and braces may be nested this deep, and a dotted key may have this many parts. -/
def deepest : Nat := 80

def isBareKey (text : List Char) : Bool :=
  text.all fun c => c.isAlphanum || c == '_' || c == '-'

def keyOf? : Token → Option String
  | .atom text => if isBareKey text then some (String.ofList text) else none
  | .string false text => some (String.ofList text)
  | _ => none

def extend? (path : List String) (token : Token) : Option (List String) :=
  if path.length < deepest then (keyOf? token).map (· :: path) else none

/-- A value is complete: it goes to what it belongs to. -/
def settle (state : State) (value : Toml) : Option State :=
  match state.frames with
  | .line path :: outer =>
    (reach (bind value path) state.header state.root).map fun root =>
      { state with root, frames := outer, mode := .lineEnd }
  | .array items :: outer =>
    some { state with frames := .array (value :: items) :: outer, mode := .separator }
  | .braces entries path :: outer =>
    (bind value path entries).map fun entries =>
      { state with frames := .braces entries [] :: outer, mode := .separator }
  | [] => none

def close (state : State) : Option State :=
  match state.frames with
  | .array items :: outer => settle { state with frames := outer } (.list false items.reverse)
  | .braces entries _ :: outer => settle { state with frames := outer } (.table .braces entries)
  | _ => none

def openFrame (state : State) (frame : Frame) (mode : Mode) : Option State :=
  if state.frames.length ≤ deepest then some { state with frames := frame :: state.frames, mode }
  else none

def takeHeader (state : State) (doubled : Bool) (path : List String) : Option State :=
  match path with
  | [] => none
  | last :: before =>
    let change := update last (if doubled then openItem else openTable)
    (reach change before.reverse state.root).map fun root =>
      { state with root, header := path.reverse, mode := .lineEnd }

def isInside (state : State) : Bool :=
  match state.frames with
  | .braces _ _ :: _ | .array _ :: _ => true
  | _ => false

/-- Whether a closing bracket or brace may stand where a value or a key is due: directly after the
opening or after a comma, but not within an entry. -/
def isBetweenEntries (state : State) : Bool :=
  match state.frames with
  | .braces _ [] :: _ | .array _ :: _ => true
  | _ => false

def beginValue (state : State) (token : Token) : Option State :=
  match token with
  | .blank _ => some state
  | .newline => if isInside state then some state else none
  | .closeBracket => if isBetweenEntries state then close state else none
  | .string _ text => settle state (.string (String.ofList text))
  | .atom text => some { state with mode := .bare text }
  | .openBracket => openFrame state (.array []) .value
  | .openBrace => openFrame state (.braces [] []) (.key [])
  | _ => none

def separate (state : State) (token : Token) : Option State :=
  match token, state.frames with
  | .blank _, _ | .newline, _ => some state
  | .comma, .array _ :: _ => some { state with mode := .value }
  | .comma, .braces _ _ :: _ => some { state with mode := .key [] }
  | .closeBracket, .array _ :: _ => close state
  | .closeBrace, .braces _ _ :: _ => close state
  | _, _ => none

def endLine (state : State) : Token → Option State
  | .blank _ => some state
  | .newline => some { state with mode := .line }
  | _ => none

/-- The token after a bare value. -/
def afterBare (state : State) (text : List Char) (token : Token) : Option State := do
  let settled ← (scalar? text).bind (settle state)
  match settled.mode with
  | .lineEnd => endLine settled token
  | _ => separate settled token

def beginKey (state : State) (path : List String) (token : Token) : Option State :=
  match token with
  | .blank _ => some state
  | .newline => if path.isEmpty && isBetweenEntries state then some state else none
  | .closeBrace => if path.isEmpty && isBetweenEntries state then close state else none
  | token => (extend? path token).map fun path => { state with mode := .keyNext path }

def beginEntry (state : State) (path : List String) : State :=
  match state.frames with
  | .braces entries _ :: outer =>
    { state with frames := .braces entries path.reverse :: outer, mode := .value }
  | frames => { state with frames := .line path.reverse :: frames, mode := .value }

def step (state : State) (token : Token) : Option State :=
  match state.mode with
  | .line => match token with
    | .newline => some state
    | .openBracket => some { state with mode := .header }
    | token => beginKey state [] token
  | .header => match token with
    | .openBracket => some { state with mode := .headerKey true [] }
    | .blank _ => some { state with mode := .headerKey false [] }
    | token => (extend? [] token).map fun path => { state with mode := .headerNext false path }
  | .headerKey doubled path => match token with
    | .blank _ => some state
    | token => (extend? path token).map fun path =>
      { state with mode := .headerNext doubled path }
  | .headerNext doubled path => match token with
    | .blank _ => some state
    | .dot => some { state with mode := .headerKey doubled path }
    | .closeBracket =>
      if doubled then some { state with mode := .headerClose path } else takeHeader state false path
    | _ => none
  | .headerClose path => match token with
    | .closeBracket => takeHeader state true path
    | _ => none
  | .lineEnd => endLine state token
  | .key path => beginKey state path token
  | .keyNext path => match token with
    | .blank _ => some state
    | .newline => if isInside state then some { state with mode := .equals path } else none
    | .dot => some { state with mode := .key path }
    | .equals => some (beginEntry state path)
    | _ => none
  | .equals path => match token with
    | .blank _ | .newline => some state
    | .equals => some (beginEntry state path)
    | _ => none
  | .value => beginValue state token
  | .bare text => match token with
    | .atom more => some { state with mode := .bare (text ++ more) }
    | .dot => some { state with mode := .bare (text ++ ['.']) }
    | .blank [' '] =>
      if looksLikeDate text then some { state with mode := .dateSpace text }
      else afterBare state text token
    | token => afterBare state text token
  | .dateSpace text => match token with
    | .atom more =>
      if more.head?.any Char.isDigit then some { state with mode := .bare (text ++ ' ' :: more) }
      else none
    | token => afterBare state text token
  | .separator => separate state token

def finish (state : State) : Option Entries :=
  match state.mode with
  | .line | .lineEnd => some state.root
  | .bare text | .dateSpace text =>
    match (scalar? text).bind (settle state) with
    | some settled => if settled.frames.isEmpty then some settled.root else none
    | none => none
  | _ => none

/-- The table of a whole text, which may open with a byte order mark. -/
def read (text : List Char) : Option Entries := do
  let text := if text.head? = some '\ufeff' then text.tail else text
  let tokens ← Token.scan text
  (← tokens.foldlM step start) |> finish

end NotebookLint.Toml.Document
