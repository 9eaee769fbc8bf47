import NotebookLint.Text.Numeral
import NotebookLint.Yaml.Spot

/-! YAML scalars: how plain, quoted and block texts are read, and how their line breaks fold. -/
namespace NotebookLint.Yaml

inductive Style where
  | plain
  | quoted
  | literal
  | folded
  deriving DecidableEq, Repr

/-- A text that has been read, what follows it and where that stands. `broke` tells whether line
breaks lie between. -/
structure Scanned where
  text : List Char
  spot : Spot
  rest : List Char
  broke : Bool

/-- White space between two words of a scalar: blanks, or line breaks whose first may be escaped.
Both are held latest first. -/
inductive Gap where
  | none
  | blanks (read : List Char)
  | breaks (first : Option Char) (more : List Char)
  deriving DecidableEq

namespace Gap

/-- Blanks around line breaks do not count. -/
def addBlank (gap : Gap) (c : Char) : Gap :=
  match gap with
  | none => blanks [c]
  | blanks read => blanks (c :: read)
  | breaks first more => breaks first more

def addBreak (gap : Gap) (c : Char) : Gap :=
  match gap with
  | breaks first more => breaks first (c :: more)
  | _ => breaks (some c) []

def hasBreaks : Gap → Bool
  | breaks _ _ => true
  | _ => false

/-- What a gap leaves in the text, latest first: one line feed becomes a space, and of several the
first is dropped. -/
def fold : Gap → List Char
  | none => []
  | blanks read => read
  | breaks (some '\n') [] => [' ']
  | breaks (some '\n') more => more
  | breaks (some c) more => more ++ [c]
  | breaks Option.none more => more

end Gap

def isFlowIndicator (c : Char) : Bool :=
  c == ',' || c == '[' || c == ']' || c == '\x7b' || c == '\x7d'

/-- Whether a plain scalar ends at a word that follows a gap: where the line is not indented enough,
a document ends, or a comment begins. -/
def endsAfterGap (level : Nat) (inFlow : Bool) (spot : Spot) (c : Char) (rest : List Char) : Bool :=
  (!inFlow && spot.column < level) || (spot.column == 0 && isMarker (c :: rest)) || c == '#'

/-- A plain scalar whose lines are indented to `level` at least. -/
def plain (level : Nat) (inFlow : Bool) (spot : Spot) (read : List Char) (gap : Gap) :
    List Char → Option Scanned
  | [] => some ⟨read.reverse, spot, [], gap.hasBreaks⟩
  | c :: rest =>
    if isBlank c then
      if gap.hasBreaks && c == '\t' && spot.column < level then none
      else plain level inFlow (spot.past c) read (gap.addBlank c) rest
    else if isBreak c then plain level inFlow (spot.past c) read (gap.addBreak c) rest
    else if gap ≠ .none && endsAfterGap level inFlow spot c rest then
      some ⟨read.reverse, spot, c :: rest, gap.hasBreaks⟩
    else if inFlow && c == ':' &&
        rest.head?.any (fun next => next == '?' || isFlowIndicator next) then
      none
    else if (c == ':' && endsWord rest) || (inFlow && isFlowIndicator c) then
      some ⟨read.reverse, spot, c :: rest, gap.hasBreaks⟩
    else plain level inFlow (spot.past c) (c :: gap.fold ++ read) .none rest

/-- A text in single quotes after its opening; a quote in it is written twice. -/
def singleQuoted (spot : Spot) (read : List Char) (gap : Gap) : List Char → Option Scanned
  | [] => none
  | '\'' :: '\'' :: rest =>
    singleQuoted ((spot.past '\'').past '\'') ('\'' :: gap.fold ++ read) .none rest
  | c :: rest =>
    if c = '\'' then some ⟨(gap.fold ++ read).reverse, spot.past c, rest, false⟩
    else if spot.column == 0 && isMarker (c :: rest) then none
    else if isBlank c then singleQuoted (spot.past c) read (gap.addBlank c) rest
    else if isBreak c then singleQuoted (spot.past c) read (gap.addBreak c) rest
    else singleQuoted (spot.past c) (c :: gap.fold ++ read) .none rest

/-- An escape part way through: after the backslash, or with so many hexadecimal digits due. -/
inductive Escape where
  | backslash
  | hex (due code : Nat)
  deriving DecidableEq

def shortEscape? (c : Char) : Option Char :=
  if c = '"' || c = '\\' || c = '/' || c = ' ' || c = '\t' then some c
  else if c = '0' then some '\x00'
  else if c = 'a' then some '\x07'
  else if c = 'b' then some '\x08'
  else if c = 't' then some '\t'
  else if c = 'n' then some '\n'
  else if c = 'v' then some '\x0b'
  else if c = 'f' then some '\x0c'
  else if c = 'r' then some '\r'
  else if c = 'e' then some '\x1b'
  else if c = 'N' then some '\u0085'
  else if c = '_' then some '\u00a0'
  else if c = 'L' then some '\u2028'
  else if c = 'P' then some '\u2029'
  else none

def hexEscape? (c : Char) : Option Escape :=
  if c = 'x' then some (.hex 2 0)
  else if c = 'u' then some (.hex 4 0)
  else if c = 'U' then some (.hex 8 0)
  else none

def doubleQuoted (spot : Spot) (read : List Char) (gap : Gap) (escape : Option Escape) :
    List Char → Option Scanned
  | [] => none
  | c :: rest =>
    match escape with
    | some .backslash =>
      if isBreak c then doubleQuoted (spot.past c) read (.breaks none []) none rest
      else match shortEscape? c with
        | some meant => doubleQuoted (spot.past c) (meant :: read) .none none rest
        | none => match hexEscape? c with
          | some escape => doubleQuoted (spot.past c) read .none (some escape) rest
          | none => none
    | some (.hex due code) =>
      match Text.hexDigit? c with
      | none => none
      | some digit =>
        if 1 < due then
          doubleQuoted (spot.past c) read .none (some (.hex (due - 1) (code * 16 + digit))) rest
        else if (code * 16 + digit).isValidChar then
          doubleQuoted (spot.past c) (Char.ofNat (code * 16 + digit) :: read) .none none rest
        else none
    | none =>
      if c = '"' then some ⟨(gap.fold ++ read).reverse, spot.past c, rest, false⟩
      else if c = '\\' then
        doubleQuoted (spot.past c) (gap.fold ++ read) .none (some .backslash) rest
      else if spot.column == 0 && isMarker (c :: rest) then none
      else if isBlank c then doubleQuoted (spot.past c) read (gap.addBlank c) none rest
      else if isBreak c then doubleQuoted (spot.past c) read (gap.addBreak c) none rest
      else doubleQuoted (spot.past c) (c :: gap.fold ++ read) .none none rest

/-- What becomes of the line breaks at the end of a block: one stays, none, or all. -/
inductive Chomp where
  | clip
  | strip
  | keep
  deriving DecidableEq, Repr

def chomp? (c : Char) : Option Chomp :=
  if c = '-' then some .strip else if c = '+' then some .keep else none

def indentDigit? (c : Char) : Option Nat :=
  if '1' ≤ c && c ≤ '9' then some (c.toNat - '0'.toNat) else none

/-- The indicators of a block scalar: how it is chomped and indented, in either order. -/
def blockIndicators : List Char → Chomp × Option Nat × List Char
  | [] => (.clip, none, [])
  | c :: rest =>
    match chomp? c, indentDigit? c with
    | some chomp, _ => match rest with
      | [] => (chomp, none, [])
      | d :: more => match indentDigit? d with
        | some digit => (chomp, some digit, more)
        | none => (chomp, none, d :: more)
    | none, some digit => match rest with
      | [] => (.clip, some digit, [])
      | d :: more => match chomp? d with
        | some chomp => (chomp, some digit, more)
        | none => (.clip, some digit, d :: more)
    | none, none => (.clip, none, c :: rest)

/-- What follows the rest of a line, which may hold blanks and a comment and nothing else. -/
def lineEnd? (text : List Char) : Option (List Char) :=
  let unblank := text.dropWhile isBlank
  let uncommented :=
    if unblank.head? = some '#' then unblank.dropWhile (!isBreak ·) else unblank
  match uncommented with
  | [] => some []
  | c :: rest => if isBreak c then some rest else none

/-- The empty lines and the indentation before a block. Without an indicator its width is that of
the widest of these lines, and at least `level` and one. -/
def blockStart (level : Nat) (width : Option Nat) (widest : Nat) (breaks : List Char)
    (spot : Spot) : List Char → Option (Nat × List Char × Spot × List Char)
  | [] => some (width.getD (max (max widest spot.column) (max level 1)), breaks, spot, [])
  | c :: rest =>
    let isIndent := width.all (spot.column < ·)
    if c == ' ' && isIndent then blockStart level width widest breaks (spot.past c) rest
    else if c == '\t' && isIndent then none
    else if isBreak c then
      blockStart level width (max widest spot.column) (c :: breaks) (spot.past c) rest
    else some (width.getD (max (max widest spot.column) (max level 1)), breaks, spot, c :: rest)

/-- A block part way through: its text and the line breaks after it, latest first, whether its last
line began with a blank, and whether a line is being read. -/
structure Block where
  read : List Char
  lineBreak : Option Char
  breaks : List Char
  wasBlank : Bool
  inLine : Bool

/-- The first character of a line joins it to the lines before. -/
def Block.beginLine (block : Block) (literal : Bool) (c : Char) : Block :=
  let folds := !literal && block.lineBreak == some '\n' && !block.wasBlank && !isBlank c
  let joined :=
    if folds then if block.breaks.isEmpty then ' ' :: block.read else block.read
    else block.lineBreak.toList ++ block.read
  ⟨c :: block.breaks ++ joined, none, [], isBlank c, true⟩

def Block.text (block : Block) : Chomp → List Char
  | .strip => block.read.reverse
  | .clip => (block.lineBreak.toList ++ block.read).reverse
  | .keep => (block.breaks ++ block.lineBreak.toList ++ block.read).reverse

def blockLines (literal : Bool) (width : Nat) (chomp : Chomp) (block : Block) (spot : Spot) :
    List Char → Option Scanned
  | [] => some ⟨block.text chomp, spot, [], true⟩
  | c :: rest =>
    if block.inLine then
      if isBreak c then
        blockLines literal width chomp
          { block with lineBreak := some c, breaks := [], inLine := false } (spot.past c) rest
      else
        blockLines literal width chomp { block with read := c :: block.read } (spot.past c) rest
    else if c == ' ' && spot.column < width then
      blockLines literal width chomp block (spot.past c) rest
    else if c == '\t' && spot.column < width then none
    else if isBreak c then
      blockLines literal width chomp { block with breaks := c :: block.breaks } (spot.past c) rest
    else if spot.column == width then
      blockLines literal width chomp (block.beginLine literal c) (spot.past c) rest
    else some ⟨block.text chomp, spot, c :: rest, true⟩

/-- A block scalar after its first character, inside a collection of the given level. -/
def blockScalar (literal : Bool) (level : Nat) (spot : Spot) (text : List Char) :
    Option Scanned := do
  let (chomp, digit, rest) := blockIndicators text
  let rest ← lineEnd? rest
  let spot := (text.take (text.length - rest.length)).foldl Spot.past spot
  let width := digit.map (· + (level - 1))
  let (width, breaks, spot, rest) ← blockStart level width 0 [] spot rest
  blockLines literal width chomp ⟨[], none, breaks, false, false⟩ spot rest

end NotebookLint.Yaml
