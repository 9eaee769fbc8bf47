import NotebookLint.Text.Numeral

/-! The tokens of a TOML text, found by a machine that takes one character at a time. -/
namespace NotebookLint.Toml

/-- A token. A string knows whether it stands in three quotes, which keys may not. -/
inductive Token where
  | newline
  | blank (text : List Char)
  | dot
  | equals
  | comma
  | openBracket
  | closeBracket
  | openBrace
  | closeBrace
  | string (tripled : Bool) (text : List Char)
  | atom (text : List Char)
  deriving DecidableEq, Repr

namespace Token

/-- An escape part way through: after the backslash, or with so many hexadecimal digits due. -/
inductive Escape where
  | backslash
  | hex (due code : Nat)
  deriving DecidableEq

/-- Where a string in three quotes stands: directly after its opening, where a line break is
dropped; in its text, after so many quotes that may yet close it; in an escape; after a backslash
that has to end its line; in the white space which that drops; and after a carriage return, whose
line feed is due before the rest continues. -/
inductive Tripled where
  | opened
  | text (quotes : Nat)
  | escape (escape : Escape)
  | lineEnd
  | dropping
  | feedDue (after : Tripled)
  deriving DecidableEq

inductive Mode where
  | between
  | carriageReturn
  | comment
  | blank (read : List Char)
  | atom (read : List Char)
  | quotes (quote : Char) (count : Nat)
  | single (quote : Char) (read : List Char) (escape : Option Escape)
  | tripled (quote : Char) (read : List Char) (place : Tripled)

structure State where
  tokens : List Token
  mode : Mode

def start : State := ⟨[], .between⟩

def isControl (c : Char) : Bool :=
  (c.toNat < 0x20 && c != '\t') || c.toNat == 0x7F

def punctuation? (c : Char) : Option Token :=
  if c = '.' then some .dot
  else if c = '=' then some .equals
  else if c = ',' then some .comma
  else if c = '[' then some .openBracket
  else if c = ']' then some .closeBracket
  else if c = '\x7b' then some .openBrace
  else if c = '\x7d' then some .closeBrace
  else none

def begin (tokens : List Token) (c : Char) : State :=
  if c = '\n' then ⟨.newline :: tokens, .between⟩
  else if c = '\r' then ⟨tokens, .carriageReturn⟩
  else if c = ' ' || c = '\t' then ⟨tokens, .blank [c]⟩
  else if c = '#' then ⟨tokens, .comment⟩
  else if c = '"' || c = '\'' then ⟨tokens, .quotes c 1⟩
  else match punctuation? c with
    | some token => ⟨token :: tokens, .between⟩
    | none => ⟨tokens, .atom [c]⟩

def endsAtom (c : Char) : Bool :=
  c == '\n' || c == '\r' || c == ' ' || c == '\t' || c == '#' || c == '"' || c == '\'' ||
    (punctuation? c).isSome

def shortEscape? (c : Char) : Option Char :=
  if c = '"' || c = '\\' then some c
  else if c = 'b' then some '\x08'
  else if c = 't' then some '\t'
  else if c = 'n' then some '\n'
  else if c = 'f' then some '\x0c'
  else if c = 'r' then some '\r'
  else if c = 'e' then some '\x1b'
  else none

def hexEscape? (c : Char) : Option Escape :=
  if c = 'x' then some (.hex 2 0)
  else if c = 'u' then some (.hex 4 0)
  else if c = 'U' then some (.hex 8 0)
  else none

/-- The character with a code point, which must not be half of a pair. -/
def character? (code : Nat) : Option Char :=
  if code.isValidChar then some (Char.ofNat code) else none

def stepEscape (escape : Escape) (c : Char) : Option (Escape ⊕ Char) :=
  match escape with
  | .backslash =>
    match shortEscape? c with
    | some meant => some (.inr meant)
    | none => (hexEscape? c).map .inl
  | .hex due code => do
    let digit ← Text.hexDigit? c
    let code := code * 16 + digit
    if 1 < due then some (.inl (.hex (due - 1) code)) else (character? code).map .inr

def stepSingle (tokens : List Token) (quote : Char) (read : List Char) (escape : Option Escape)
    (c : Char) : Option State :=
  match escape with
  | some escape => (stepEscape escape c).map fun
    | .inl escape => ⟨tokens, .single quote read (some escape)⟩
    | .inr meant => ⟨tokens, .single quote (meant :: read) none⟩
  | none =>
    if c = quote then some ⟨.string false read.reverse :: tokens, .between⟩
    else if c = '\\' && quote = '"' then some ⟨tokens, .single quote read (some .backslash)⟩
    else if isControl c then none
    else some ⟨tokens, .single quote (c :: read) none⟩

def isBlank (c : Char) : Bool :=
  c == ' ' || c == '\t'

def stepTripledText (tokens : List Token) (quote : Char) (read : List Char) (c : Char) :
    Option State :=
  if c = quote then some ⟨tokens, .tripled quote read (.text 1)⟩
  else if c = '\\' && quote = '"' then some ⟨tokens, .tripled quote read (.escape .backslash)⟩
  else if c = '\r' then some ⟨tokens, .tripled quote (c :: read) (.feedDue (.text 0))⟩
  else if c = '\n' then some ⟨tokens, .tripled quote (c :: read) (.text 0)⟩
  else if isControl c then none
  else some ⟨tokens, .tripled quote (c :: read) (.text 0)⟩

/-- Three quotes close a string; up to two more before them belong to it. -/
def closeTripled (tokens : List Token) (quote : Char) (read : List Char) (quotes : Nat) :
    List Token :=
  .string true (read.reverse ++ List.replicate (quotes - 3) quote) :: tokens

def stepTripled (tokens : List Token) (quote : Char) (read : List Char) (place : Tripled)
    (c : Char) : Option State :=
  match place with
  | .opened =>
    if c = '\n' then some ⟨tokens, .tripled quote read (.text 0)⟩
    else if c = '\r' then some ⟨tokens, .tripled quote read (.feedDue .opened)⟩
    else stepTripledText tokens quote read c
  | .text quotes =>
    if quotes = 0 then stepTripledText tokens quote read c
    else if c = quote then
      if quotes = 4 then some ⟨closeTripled tokens quote read 5, .between⟩
      else some ⟨tokens, .tripled quote read (.text (quotes + 1))⟩
    else if 3 ≤ quotes then some (begin (closeTripled tokens quote read quotes) c)
    else stepTripledText tokens quote (List.replicate quotes quote ++ read) c
  | .escape .backslash =>
    if isBlank c then some ⟨tokens, .tripled quote read .lineEnd⟩
    else if c = '\n' then some ⟨tokens, .tripled quote read .dropping⟩
    else if c = '\r' then some ⟨tokens, .tripled quote read (.feedDue .dropping)⟩
    else (stepEscape .backslash c).map fun
      | .inl escape => ⟨tokens, .tripled quote read (.escape escape)⟩
      | .inr meant => ⟨tokens, .tripled quote (meant :: read) (.text 0)⟩
  | .escape escape => (stepEscape escape c).map fun
    | .inl escape => ⟨tokens, .tripled quote read (.escape escape)⟩
    | .inr meant => ⟨tokens, .tripled quote (meant :: read) (.text 0)⟩
  | .lineEnd =>
    if isBlank c then some ⟨tokens, .tripled quote read .lineEnd⟩
    else if c = '\n' then some ⟨tokens, .tripled quote read .dropping⟩
    else if c = '\r' then some ⟨tokens, .tripled quote read (.feedDue .dropping)⟩
    else none
  | .dropping =>
    if isBlank c || c = '\n' then some ⟨tokens, .tripled quote read .dropping⟩
    else if c = '\r' then some ⟨tokens, .tripled quote read (.feedDue .dropping)⟩
    else stepTripledText tokens quote read c
  | .feedDue .opened => if c = '\n' then some ⟨tokens, .tripled quote read (.text 0)⟩ else none
  | .feedDue .dropping => if c = '\n' then some ⟨tokens, .tripled quote read .dropping⟩ else none
  | .feedDue _ =>
    if c = '\n' then some ⟨tokens, .tripled quote (c :: read) (.text 0)⟩ else none

def step (state : State) (c : Char) : Option State :=
  match state.mode with
  | .between => some (begin state.tokens c)
  | .carriageReturn => if c = '\n' then some ⟨.newline :: state.tokens, .between⟩ else none
  | .comment =>
    if c = '\n' || c = '\r' then some (begin state.tokens c)
    else if isControl c then none
    else some state
  | .blank read =>
    if isBlank c then some ⟨state.tokens, .blank (c :: read)⟩
    else some (begin (.blank read.reverse :: state.tokens) c)
  | .atom read =>
    if endsAtom c then some (begin (.atom read.reverse :: state.tokens) c)
    else some ⟨state.tokens, .atom (c :: read)⟩
  | .quotes quote count =>
    if count = 1 then
      if c = quote then some ⟨state.tokens, .quotes quote 2⟩
      else stepSingle state.tokens quote [] none c
    else if c = quote then some ⟨state.tokens, .tripled quote [] .opened⟩
    else some (begin (.string false [] :: state.tokens) c)
  | .single quote read escape => stepSingle state.tokens quote read escape c
  | .tripled quote read place => stepTripled state.tokens quote read place c

def finish (state : State) : Option (List Token) :=
  match state.mode with
  | .between | .comment => some state.tokens
  | .blank read => some (.blank read.reverse :: state.tokens)
  | .atom read => some (.atom read.reverse :: state.tokens)
  | .quotes _ 2 => some (.string false [] :: state.tokens)
  | .tripled quote read (.text quotes) =>
    if 3 ≤ quotes then some (closeTripled state.tokens quote read quotes) else none
  | _ => none

def scan (text : List Char) : Option (List Token) :=
  ((text.foldlM step start).bind finish).map List.reverse

end Token
end NotebookLint.Toml
