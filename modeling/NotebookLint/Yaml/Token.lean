import NotebookLint.Yaml.Scalar

/-! The tokens of a YAML text. Indentation becomes tokens that open and close collections, and a key
is marked once the colon after it is found: the tokens that mark it are put in front of it then. -/
namespace NotebookLint.Yaml

/-- A token; tags and the directive about them are a handle with what follows or replaces it. An
octet of a tag is held as the character of its number. -/
inductive Token where
  | version
  | tagDirective (handle expansion : List Char)
  | documentStart
  | documentEnd
  | blockList
  | blockMap
  | blockEnd
  | openList
  | closeList
  | openMap
  | closeMap
  | comma
  | entry
  | key
  | value
  | alias (name : List Char)
  | anchor (name : List Char)
  | tag (handle suffix : List Char)
  | scalar (style : Style) (text : List Char)
  deriving DecidableEq, Repr

namespace Token

/-- A token that will have been a key if a colon follows it on its line. At the indentation of the
collection it stands in it can be nothing else. -/
structure Candidate where
  position : Nat
  spot : Spot
  required : Bool
  deriving DecidableEq

/-- What is left of the text; the levels of the open block collections, which are their columns
counted from one; the candidates, one for each level of brackets; whether a key may begin here; and
the tokens so far, latest first, with their number. -/
structure State where
  rest : List Char
  spot : Spot
  levels : List Nat
  candidates : List (Option Candidate)
  keyAllowed : Bool
  tokens : List Token
  count : Nat

def start (text : List Char) : State :=
  ⟨text, .start, [], [none], true, [], 0⟩

/-- A key and its colon are at most this far apart. -/
def longestKey : Nat := 1024

namespace State

def level (state : State) : Nat :=
  state.levels.headD 0

def inFlow (state : State) : Bool :=
  1 < state.candidates.length

def emit (state : State) (token : Token) : State :=
  { state with tokens := token :: state.tokens, count := state.count + 1 }

def insert (state : State) (position : Nat) (token : Token) : State :=
  let behind := state.count - position
  { state with
    tokens := state.tokens.take behind ++ token :: state.tokens.drop behind
    count := state.count + 1 }

def skip (state : State) : Nat → State
  | 0 => state
  | count + 1 => match state.rest with
    | [] => state
    | c :: rest => { state with rest, spot := state.spot.past c }.skip count

def skipTo (state : State) (rest : List Char) : State :=
  state.skip (state.rest.length - rest.length)

def allowKey (state : State) (keyAllowed : Bool) : State :=
  { state with keyAllowed }

/-- The innermost candidate turns out to be no key. -/
def dropCandidate (state : State) : Option State :=
  match state.candidates with
  | some candidate :: outer =>
    if candidate.required then none else some { state with candidates := none :: outer }
  | _ => some state

def markCandidate (state : State) : Option State :=
  if state.keyAllowed then
    state.dropCandidate.map fun state =>
      -- At the indentation of its block collection a token can be nothing but a key.
      let required := !state.inFlow && state.level == state.spot.column + 1
      { state with
        candidates := some ⟨state.count, state.spot, required⟩ :: state.candidates.tail }
  else some state

/-- Opens a block collection at a column, unless one is open there. -/
def indent (state : State) (column : Nat) (position : Nat) (token : Token) : State :=
  if !state.inFlow && state.level < column + 1 then
    { state with levels := (column + 1) :: state.levels }.insert position token
  else state

def dedentTo (limit : Nat) (state : State) : List Nat → State
  | [] => { state with levels := [] }
  | level :: outer =>
    if limit < level then (state.emit .blockEnd).dedentTo limit outer
    else { state with levels := level :: outer }

def dedent (state : State) (limit : Nat) : State :=
  if state.inFlow then state else state.dedentTo limit state.levels

end State

/-- Passes over blanks, comments and line breaks. Tabs may not stand where a key could begin, and a
line break outside of brackets lets a key begin. A byte order mark may begin any line. -/
def skipBlanks (inFlow keyAllowed comment : Bool) (spot : Spot) :
    List Char → Bool × Spot × List Char
  | [] => (keyAllowed, spot, [])
  | c :: rest =>
    if comment && !isBreak c then skipBlanks inFlow keyAllowed true (spot.past c) rest
    else if isBreak c then skipBlanks inFlow (keyAllowed || !inFlow) false (spot.past c) rest
    else if c == ' ' || (c == '\t' && (inFlow || !keyAllowed)) ||
        (c == '\ufeff' && spot.column == 0) then
      skipBlanks inFlow keyAllowed false (spot.past c) rest
    else if c == '#' then skipBlanks inFlow keyAllowed true (spot.past c) rest
    else (keyAllowed, spot, c :: rest)

def State.skipBlanks (state : State) : State :=
  match Token.skipBlanks state.inFlow state.keyAllowed false state.spot state.rest with
  | (keyAllowed, spot, rest) => { state with keyAllowed, spot, rest }

def isNameChar (c : Char) : Bool :=
  c.isAlphanum || c == '_' || c == '-'

/-- The name of an anchor or alias, which must be there and stop before white space or a
delimiter. -/
def name? (text : List Char) : Option (List Char) :=
  let name := text.takeWhile isNameChar
  let rest := text.drop name.length
  let stops := endsWord rest || rest.head?.any fun c =>
    ['?', ':', ',', ']', '\x7d', '%', '@', '\x60'].contains c
  if name.isEmpty || !stops then none else some name

def isTagChar (c : Char) : Bool :=
  isNameChar c ||
    [';', '/', '?', ':', '@', '&', '=', '+', '$', '.', '!', '~', '*', '\'', '(', ')'].contains c

/-- How many octets are due after an octet of an escaped character, of which `due` were due with
it. -/
def dueAfter? (due octet : Nat) : Option Nat :=
  if 0 < due then if octet / 64 = 2 then some (due - 1) else none
  else if octet < 0x80 then some 0
  else if octet / 32 = 6 then some 1
  else if octet / 16 = 14 then some 2
  else if octet / 8 = 30 then some 3
  else none

/-- The octets that a text begins with and may be part of a tag, and what follows them. An octet may
be escaped by a percent sign, and one character's octets must be escaped together. Inside angle
brackets some more characters are allowed. -/
def octets (bracketed : Bool) (due : Nat) : List Char → Option (List Char × List Char)
  | [] => if due = 0 then some ([], []) else none
  | '%' :: high :: low :: rest =>
    if Text.isDigitOf 16 high && Text.isDigitOf 16 low then do
      let octet := Text.numeral 16 [high, low]
      let (more, rest) ← octets bracketed (← dueAfter? due octet) rest
      return (Char.ofNat octet :: more, rest)
    else none
  | c :: rest =>
    if 0 < due || c = '%' then none
    else if isTagChar c || (bracketed && [',', '[', ']'].contains c) then do
      let (more, rest) ← octets bracketed 0 rest
      return (c :: more, rest)
    else some ([], c :: rest)

def untilZero (text : List Char) : List Char :=
  text.takeWhile (· != '\x00')

def someOctets? (bracketed : Bool) (text : List Char) : Option (List Char × List Char) :=
  (octets bracketed 0 text).bind fun (found, rest) =>
    if found.isEmpty then none else some (untilZero found, rest)

/-- A tag and what follows it: a whole one in angle brackets, or a suffix, perhaps after a handle of
its own. -/
def tag? (text : List Char) : Option (Token × List Char) :=
  match text with
  | '!' :: '<' :: rest => do
    match ← someOctets? true rest with
    | (name, '>' :: rest) => some (.tag [] name, rest)
    | _ => none
  | '!' :: rest =>
    let name := rest.takeWhile isNameChar
    match rest.drop name.length with
    | '!' :: more => do
      let (suffix, rest) ← someOctets? false more
      return (.tag ('!' :: name ++ ['!']) suffix, rest)
    | more => do
      let (found, rest) ← octets false 0 more
      let suffix := untilZero (name ++ found)
      return (if suffix.isEmpty then .tag [] ['!'] else .tag ['!'] suffix, rest)
  | _ => none

/-- A number of a version has nine digits at most. -/
def versionNumber? (text : List Char) : Option (Nat × List Char) :=
  let digits := text.takeWhile Char.isDigit
  if digits.isEmpty || 9 < digits.length then none
  else some (Text.numeral 10 digits, text.drop digits.length)

/-- The version of the format, which is 1.1 or 1.2. -/
def version? (text : List Char) : Option (Token × List Char) := do
  match ← versionNumber? text with
  | (1, '.' :: rest) => match ← versionNumber? rest with
    | (1, rest) | (2, rest) => some (.version, rest)
    | _ => none
  | _ => none

def handle? (text : List Char) : Option (List Char × List Char) :=
  match text with
  | '!' :: rest =>
    let name := rest.takeWhile isNameChar
    match name, rest.drop name.length with
    | name, '!' :: rest => some ('!' :: name ++ ['!'], rest)
    | [], rest => some (['!'], rest)
    | _, _ => none
  | _ => none

/-- A handle and the beginning of the tags that it stands for. -/
def tagDirective? (text : List Char) : Option (Token × List Char) := do
  let (handle, rest) ← handle? text
  if rest.head?.any isBlank then
    let (expansion, rest) ← someOctets? true (rest.dropWhile isBlank)
    if endsWord rest then return (.tagDirective handle expansion, rest) else none
  else none

/-- A directive, which takes its whole line, and what follows it. -/
def directive? (text : List Char) : Option (Token × List Char) := do
  let name := text.tail.takeWhile isNameChar
  let rest := text.tail.drop name.length
  let content := rest.dropWhile isBlank
  if endsWord rest then
    let (token, rest) ←
      if name = ['Y', 'A', 'M', 'L'] then version? content
      else if name = ['T', 'A', 'G'] then tagDirective? content
      else none
    return (token, ← lineEnd? rest)
  else none

namespace State

def takeScalar (state : State) (style : Style) (scanned : Option Scanned) : Option State :=
  scanned.map fun scanned =>
    { state with
      rest := scanned.rest
      spot := scanned.spot
      keyAllowed := scanned.broke }.emit (.scalar style scanned.text)

def takeIndicator (state : State) (token : Token) (keyAllowed : Bool) : State :=
  ((state.skip 1).emit token).allowKey keyAllowed

def takeMarker (state : State) (token : Token) : Option State :=
  (state.dedent 0).dropCandidate.map fun state => ((state.skip 3).emit token).allowKey false

def takeDirective (state : State) : Option State := do
  let state ← (state.dedent 0).dropCandidate
  let (token, rest) ← directive? state.rest
  return ((state.skipTo rest).emit token).allowKey false

/-- An opening bracket may be a key, and begins a level of its own. -/
def takeOpening (state : State) (token : Token) : Option State :=
  state.markCandidate.map fun state =>
    { state with candidates := none :: state.candidates }.takeIndicator token true

def takeClosing (state : State) (token : Token) : Option State :=
  state.dropCandidate.map fun state =>
    let candidates := if state.inFlow then state.candidates.tail else state.candidates
    { state with candidates }.takeIndicator token false

def takeComma (state : State) : Option State :=
  state.dropCandidate.map (·.takeIndicator .comma true)

def takeEntry (state : State) : Option State :=
  if state.inFlow then state.dropCandidate.map (·.takeIndicator .entry true)
  else if state.keyAllowed then
    (state.indent state.spot.column state.count .blockList).dropCandidate.map
      (·.takeIndicator .entry true)
  else none

def takeKey (state : State) : Option State :=
  if state.inFlow then state.dropCandidate.map (·.takeIndicator .key false)
  else if state.keyAllowed then
    (state.indent state.spot.column state.count .blockMap).dropCandidate.map
      (·.takeIndicator .key true)
  else none

def reaches (state : State) (candidate : Candidate) : Bool :=
  candidate.spot.line == state.spot.line && state.spot.offset ≤ candidate.spot.offset + longestKey

/-- A colon without a key before it. -/
def takeBareValue (state : State) : Option State :=
  if state.inFlow then some (state.takeIndicator .value false)
  else if state.keyAllowed then
    some ((state.indent state.spot.column state.count .blockMap).takeIndicator .value true)
  else none

/-- A colon makes the candidate before it a key. -/
def takeValue (state : State) : Option State :=
  match state.candidates with
  | some candidate :: outer =>
    if state.reaches candidate then
      let keyed := { state with candidates := none :: outer }.insert candidate.position .key
      some ((keyed.indent candidate.spot.column candidate.position .blockMap).takeIndicator
        .value false)
    else state.dropCandidate.bind takeBareValue
  | _ => state.takeBareValue

def takeName (state : State) (token : List Char → Token) : Option State := do
  let state ← state.markCandidate
  let name ← name? state.rest.tail
  return ((state.skip (name.length + 1)).emit (token name)).allowKey false

def takeTag (state : State) : Option State := do
  let state ← state.markCandidate
  let (token, rest) ← tag? state.rest
  let next := state.skipTo rest
  if endsWord next.rest || (next.inFlow && next.rest.head? == some ',') then
    return (next.emit token).allowKey false
  else none

def takeBlock (state : State) (style : Style) : Option State := do
  let state ← state.dropCandidate
  let inside := state.skip 1
  inside.takeScalar style (blockScalar (style == .literal) state.level inside.spot inside.rest)

def takeQuoted (state : State) (scan : Spot → List Char → Option Scanned) : Option State := do
  let state ← state.markCandidate
  let inside := state.skip 1
  inside.takeScalar .quoted (scan inside.spot inside.rest)

def takePlain (state : State) : Option State := do
  let state ← state.markCandidate
  state.takeScalar .plain (plain state.level state.inFlow state.spot [] .none state.rest)

/-- Characters that begin no plain scalar, whatever follows. -/
def isIndicator (c : Char) : Bool :=
  isFlowIndicator c ||
    ['#', '&', '*', '!', '|', '>', '\'', '"', '%', '@', '\x60'].contains c

def take (state : State) (c : Char) (rest : List Char) : Option State :=
  if state.spot.column == 0 && c == '%' then state.takeDirective
  else if state.spot.column == 0 && isMarker (c :: rest) then
    state.takeMarker (if c == '-' then .documentStart else .documentEnd)
  else if c == '[' then state.takeOpening .openList
  else if c == '\x7b' then state.takeOpening .openMap
  else if c == ']' then state.takeClosing .closeList
  else if c == '\x7d' then state.takeClosing .closeMap
  else if c == ',' then state.takeComma
  else if c == '-' && endsWord rest then state.takeEntry
  else if c == '?' && (state.inFlow || endsWord rest) then state.takeKey
  else if c == ':' && (state.inFlow || endsWord rest) then state.takeValue
  else if c == '*' then state.takeName .alias
  else if c == '&' then state.takeName .anchor
  else if c == '!' then state.takeTag
  else if c == '|' && !state.inFlow then state.takeBlock .literal
  else if c == '>' && !state.inFlow then state.takeBlock .folded
  else if c == '\'' then state.takeQuoted (singleQuoted · [] .none)
  else if c == '"' then state.takeQuoted (doubleQuoted · [] .none none)
  else if isBlank c || isIndicator c then none
  else state.takePlain

end State

/-- Takes tokens to the end of the text. Every token takes a character at least, so the number of
characters bounds the number of steps. -/
def scanFrom : Nat → State → Option (List Token)
  | 0, _ => none
  | steps + 1, state =>
    let state := state.skipBlanks
    match state.rest with
    | [] => (state.dedent 0).dropCandidate.map (·.tokens.reverse)
    | c :: rest => ((state.dedent (state.spot.column + 1)).take c rest).bind (scanFrom steps)

def scan (text : List Char) : Option (List Token) :=
  if text.all isAllowed then
    let text := unifyBreaks text
    scanFrom (text.length + 1) (start text)
  else none

end Token
end NotebookLint.Yaml
