/-! Places in a YAML text, and the characters that separate its tokens. -/
namespace NotebookLint.Yaml

def isBlank (c : Char) : Bool :=
  c == ' ' || c == '\t'

/-- The characters that end a line, once carriage returns and next-line characters have become line
feeds. -/
def isBreak (c : Char) : Bool :=
  c == '\n' || c == '\u2028' || c == '\u2029'

def endsWord : List Char → Bool
  | [] => true
  | c :: _ => isBlank c || isBreak c

/-- Three hyphens or three points that stand alone separate documents. -/
def isMarker : List Char → Bool
  | '-' :: '-' :: '-' :: rest => endsWord rest
  | '.' :: '.' :: '.' :: rest => endsWord rest
  | _ => false

def isAllowed (c : Char) : Bool :=
  c == '\t' || c == '\n' || c == '\r' || (0x20 ≤ c.toNat && c.toNat ≤ 0x7E) || c.toNat == 0x85 ||
    (0xA0 ≤ c.toNat && c.toNat ≤ 0xFFFD) || 0x10000 ≤ c.toNat

/-- A text in which a carriage return, alone or before a line feed, and the next-line character are
line feeds. -/
def unifyBreaks : List Char → List Char
  | [] => []
  | '\r' :: '\n' :: rest => '\n' :: unifyBreaks rest
  | c :: rest => (if c = '\r' || c = '\u0085' then '\n' else c) :: unifyBreaks rest

/-- A place in a text. Columns count characters, offsets bytes. -/
structure Spot where
  line : Nat
  column : Nat
  offset : Nat
  deriving DecidableEq, Repr

namespace Spot

def start : Spot := ⟨0, 0, 0⟩

def past (spot : Spot) (c : Char) : Spot :=
  if isBreak c then ⟨spot.line + 1, 0, spot.offset + c.utf8Size⟩
  else ⟨spot.line, spot.column + 1, spot.offset + c.utf8Size⟩

end Spot
end NotebookLint.Yaml
