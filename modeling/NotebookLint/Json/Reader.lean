import NotebookLint.Json.Fault
import NotebookLint.Json.Magnitude

/-! A JSON reader that takes one character at a time. It keeps the arrays and objects it is inside
of and what it expects next, so that reading a text is running a machine over it: a text continued
is a run continued, and the first character that no continuation could mend stops it. -/
namespace NotebookLint.Json.Reader
open Text

/-- An array or object part way through. Items and members are held latest first; a member whose
value is due has its name beside the others. -/
inductive Frame where
  | items (read : List Json)
  | members (read : List (String × Json))
  | member (read : List (String × Json)) (name : String)

/-- Where a value is due: at the top, first in an array, after a comma there, or after a colon. -/
inductive Slot where
  | top
  | first
  | next
  | member
  deriving DecidableEq

inductive Phase where
  | minus
  | zero
  | whole
  | point
  | fraction
  | exponent
  | exponentSign (negative : Bool)
  | power (negative : Bool) (value : Nat)
  deriving DecidableEq

/-- Where a string stands between its characters, and the pieces of an escape. `hex` counts the
bytes still due and holds the code so far, which is lost at the first character that is no
hexadecimal digit; `high` is the first half of a surrogate pair. -/
inductive Escape where
  | none
  | backslash
  | hex (high : Option Nat) (due : Nat) (code : Option Nat)
  | pairBackslash (high : Nat)
  | pairLetter (high : Nat)
  deriving DecidableEq

inductive Mode where
  | value (slot : Slot)
  | word (due : Char) (left : List Char) (value : Json)
  | number (phase : Phase) (read : List Char)
  | string (isName : Bool) (read : List Char) (escape : Escape)
  | name (isFirst : Bool)
  | colon
  | separator
  | done (value : Json)

structure State where
  frames : List Frame
  mode : Mode

def start : State := ⟨[], .value .top⟩

/-- At most this many arrays and objects may be open at once. -/
def deepest : Nat := 127

def isSpace (c : Char) : Bool :=
  c == ' ' || c == '\t' || c == '\n' || c == '\r'

/-- A value has ended: it is the document, the next item, or the value of the pending member. -/
def settle (value : Json) : List Frame → State
  | [] => ⟨[], .done value⟩
  | .items read :: outer => ⟨.items (value :: read) :: outer, .separator⟩
  | .member read name :: outer => ⟨.members ((name, value) :: read) :: outer, .separator⟩
  | .members read :: outer => ⟨.members read :: outer, .separator⟩

def settleName (name : String) : List Frame → State
  | .members read :: outer => ⟨.member read name :: outer, .colon⟩
  | frames => ⟨frames, .colon⟩

def close : List Frame → State
  | .items read :: outer => settle (.array read.reverse) outer
  | .members read :: outer => settle (.object read.reverse) outer
  | frames => ⟨frames, .separator⟩

/-- What one character leads to: the next state, or a fault at the place before the character, after
so many of its bytes, or after all of it. -/
inductive Outcome where
  | next (state : State)
  | faultBefore (fault : Fault)
  | faultWithin (fault : Fault) (bytes : Nat)

def peek (fault : Fault) : Outcome := .faultWithin fault 1

def openValue (frames : List Frame) (frame : Frame) (mode : Mode) : Outcome :=
  if frames.length < deepest then .next ⟨frame :: frames, mode⟩ else peek .nestedTooDeep

def beginValue (frames : List Frame) (slot : Slot) (c : Char) : Outcome :=
  if isSpace c then .next ⟨frames, .value slot⟩
  else if c = ']' && slot = .first then .next (close frames)
  else if c = ']' && slot = .next then peek .trailingComma
  else if c = 'n' then .next ⟨frames, .word 'u' ['l', 'l'] .null⟩
  else if c = 't' then .next ⟨frames, .word 'r' ['u', 'e'] (.boolean true)⟩
  else if c = 'f' then .next ⟨frames, .word 'a' ['l', 's', 'e'] (.boolean false)⟩
  else if c = '-' then .next ⟨frames, .number .minus [c]⟩
  else if c = '0' then .next ⟨frames, .number .zero [c]⟩
  else if c.isDigit then .next ⟨frames, .number .whole [c]⟩
  else if c = '"' then .next ⟨frames, .string false [] .none⟩
  else if c = '[' then openValue frames (.items []) (.value .first)
  else if c = '\x7b' then openValue frames (.members []) (.name true)
  else peek .valueExpected

def betweenValues (frames : List Frame) (c : Char) : Outcome :=
  if isSpace c then .next ⟨frames, .separator⟩
  else match frames with
    | .items _ :: _ =>
      if c = ',' then .next ⟨frames, .value .next⟩
      else if c = ']' then .next (close frames)
      else peek .arraySeparatorExpected
    | _ =>
      if c = ',' then .next ⟨frames, .name false⟩
      else if c = '\x7d' then .next (close frames)
      else peek .objectSeparatorExpected

def beginName (frames : List Frame) (isFirst : Bool) (c : Char) : Outcome :=
  if isSpace c then .next ⟨frames, .name isFirst⟩
  else if c = '"' then .next ⟨frames, .string true [] .none⟩
  else if c = '\x7d' && isFirst then .next (close frames)
  else if c = '\x7d' then peek .trailingComma
  else peek .nameExpected

def afterDocument (value : Json) (c : Char) : Outcome :=
  if isSpace c then .next ⟨[], .done value⟩ else peek .textAfterValue

def afterValue (state : State) (c : Char) : Outcome :=
  match state.mode with
  | .done value => afterDocument value c
  | _ => betweenValues state.frames c

/-- The character after a number that is complete belongs to what surrounds it. -/
def endNumber (frames : List Frame) (read : List Char) (c : Char) : Outcome :=
  if Magnitude.isInfinite read.reverse then .faultBefore .numberTooLarge
  else afterValue (settle (.number read.reverse) frames) c

/-- The digits of an exponent count up to this; a larger one is infinite unless every digit before
it is zero or its sign is a minus. -/
def greatestPower : Nat := 0x7FFFFFFF

def isZero (read : List Char) : Bool :=
  (read.reverse.takeWhile fun c => c != 'e' && c != 'E').all fun c => !('1' ≤ c && c ≤ '9')

def stepNumber (frames : List Frame) (phase : Phase) (read : List Char) (c : Char) : Outcome :=
  let grow (phase : Phase) : Outcome := .next ⟨frames, .number phase (c :: read)⟩
  let afterWhole (finished : Outcome) : Outcome :=
    if c = '.' then grow .point
    else if c = 'e' || c = 'E' then grow .exponent
    else finished
  match phase with
  | .minus =>
    if c = '0' then grow .zero else if c.isDigit then grow .whole else peek .badNumber
  | .zero => if c.isDigit then peek .badNumber else afterWhole (endNumber frames read c)
  | .whole => if c.isDigit then grow .whole else afterWhole (endNumber frames read c)
  | .point => if c.isDigit then grow .fraction else peek .badNumber
  | .fraction =>
    if c.isDigit then grow .fraction
    else if c = 'e' || c = 'E' then grow .exponent
    else endNumber frames read c
  | .exponent =>
    if c = '+' then grow (.exponentSign false)
    else if c = '-' then grow (.exponentSign true)
    else if c.isDigit then grow (.power false (digitValue c))
    else peek .badNumber
  | .exponentSign negative =>
    if c.isDigit then grow (.power negative (digitValue c)) else peek .badNumber
  | .power negative value =>
    if c.isDigit then
      let power := value * 10 + digitValue c
      if greatestPower < power && !negative && !isZero read then peek .numberTooLarge
      else grow (.power negative power)
    else endNumber frames read c

def shortEscape? (c : Char) : Option Char :=
  if c = '"' || c = '\\' || c = '/' then some c
  else if c = 'b' then some '\x08'
  else if c = 'f' then some '\x0c'
  else if c = 'n' then some '\n'
  else if c = 'r' then some '\r'
  else if c = 't' then some '\t'
  else none

/-- The four digits of an escape are complete: a character of its own, the first half of a pair, or
the second half that completes one. -/
def endHex (frames : List Frame) (isName : Bool) (read : List Char) (high : Option Nat)
    (code : Nat) : Except Fault State :=
  match high with
  | some high =>
    if 0xDC00 ≤ code && code ≤ 0xDFFF then
      let joined := Char.ofNat (0x10000 + (high - 0xD800) * 0x400 + (code - 0xDC00))
      .ok ⟨frames, .string isName (joined :: read) .none⟩
    else .error .loneSurrogate
  | none =>
    if 0xDC00 ≤ code && code ≤ 0xDFFF then .error .loneSurrogate
    else if 0xD800 ≤ code && code ≤ 0xDBFF then
      .ok ⟨frames, .string isName read (.pairBackslash code)⟩
    else .ok ⟨frames, .string isName (Char.ofNat code :: read) .none⟩

def stepString (frames : List Frame) (isName : Bool) (read : List Char) (escape : Escape)
    (c : Char) : Outcome :=
  match escape with
  | .none =>
    if c = '"' then
      let text := String.ofList read.reverse
      .next (if isName then settleName text frames else settle (.string text) frames)
    else if c = '\\' then .next ⟨frames, .string isName read .backslash⟩
    else if c.toNat < 0x20 then peek .controlCharacter
    else .next ⟨frames, .string isName (c :: read) .none⟩
  | .backslash =>
    if c = 'u' then .next ⟨frames, .string isName read (.hex none 4 (some 0))⟩
    else match shortEscape? c with
      | some meant => .next ⟨frames, .string isName (meant :: read) .none⟩
      | none => peek .badEscape
  | .hex high due code =>
    let code := code.bind fun code => (hexDigit? c).map fun digit => code * 16 + digit
    if c.utf8Size < due then .next ⟨frames, .string isName read (.hex high (due - c.utf8Size) code)⟩
    else match code with
      | none => .faultWithin .badEscape due
      | some code => match endHex frames isName read high code with
        | .ok state => .next state
        | .error fault => .faultWithin fault due
  | .pairBackslash high =>
    if c = '\\' then .next ⟨frames, .string isName read (.pairLetter high)⟩
    else peek .brokenSurrogatePair
  | .pairLetter high =>
    if c = 'u' then .next ⟨frames, .string isName read (.hex (some high) 4 (some 0))⟩
    else peek .brokenSurrogatePair

def step (state : State) (c : Char) : Outcome :=
  match state.mode with
  | .value slot => beginValue state.frames slot c
  | .word due left value =>
    if c = due then match left with
      | [] => .next (settle value state.frames)
      | next :: left => .next ⟨state.frames, .word next left value⟩
    else peek .wordExpected
  | .number phase read => stepNumber state.frames phase read c
  | .string isName read escape => stepString state.frames isName read escape c
  | .name isFirst => beginName state.frames isFirst c
  | .colon =>
    if isSpace c then .next state
    else if c = ':' then .next ⟨state.frames, .value .member⟩
    else peek .colonExpected
  | .separator => betweenValues state.frames c
  | .done value => afterDocument value c

/-- A run over a text: the place and the state at its end, or the first error. -/
def run (place : Place) (state : State) : List Char → Except Error (Place × State)
  | [] => .ok (place, state)
  | c :: rest =>
    match step state c with
    | .next state => run (place.past c) state rest
    | .faultBefore fault => .error ⟨fault, place⟩
    | .faultWithin fault bytes => .error ⟨fault, place.pastBytes c bytes⟩

def endOfNumber (frames : List Frame) (read : List Char) : Except Fault Json :=
  if Magnitude.isInfinite read.reverse then .error .numberTooLarge
  else match frames with
    | [] => .ok (.number read.reverse)
    | .items _ :: _ => .error .endInArray
    | _ => .error .endInObject

/-- The document, where a text may end, or the fault of ending there. -/
def finish (state : State) : Except Fault Json :=
  match state.mode with
  | .done value => .ok value
  | .value .first => .error .endInArray
  | .value _ => .error .endInValue
  | .word _ _ _ => .error .endInValue
  | .number phase read => match phase with
    | .zero | .whole | .fraction | .power _ _ => endOfNumber state.frames read
    | _ => .error .endInValue
  | .string _ _ _ => .error .endInString
  | .name true => .error .endInObject
  | .name false => .error .endInValue
  | .colon => .error .endInObject
  | .separator => match state.frames with
    | .items _ :: _ => .error .endInArray
    | _ => .error .endInObject

def read (text : List Char) : Except Error Json :=
  match run .start start text with
  | .error error => .error error
  | .ok (place, state) => match finish state with
    | .ok value => .ok value
    | .error fault => .error ⟨fault, place⟩

end NotebookLint.Json.Reader
