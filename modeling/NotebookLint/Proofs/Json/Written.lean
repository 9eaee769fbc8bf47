import NotebookLint.Proofs.Json.Run

/-! JSON texts as they may be written. A value has many texts: each character of a string has
several spellings, and white space may stand between any two tokens. -/
namespace NotebookLint.Json

/-- The hexadecimal digits in both cases, with their values. -/
def hexDigits : List (Char × Nat) :=
  "0123456789abcdef".toList.zipIdx ++ "ABCDEF".toList.zipIdx 10

/-- The letters that may stand after a backslash, and what they mean. -/
def shortEscapes : List (Char × Char) :=
  [('"', '"'), ('\\', '\\'), ('/', '/'), ('b', '\x08'), ('f', '\x0c'), ('n', '\n'), ('r', '\r'),
   ('t', '\t')]

/-- An escape with four digits, and the number that they write. -/
inductive WritesCode : Nat → List Char → Prop
  | digits (a b c d : Char × Nat) (known : ∀ digit ∈ [a, b, c, d], digit ∈ hexDigits) :
      WritesCode (((a.2 * 16 + b.2) * 16 + c.2) * 16 + d.2) ['\\', 'u', a.1, b.1, c.1, d.1]

/-- The spellings of a character inside of a string: itself, a short escape, its code, or above the
codes of four digits a pair of codes. -/
inductive WritesChar : Char → List Char → Prop
  | raw {c : Char} (printable : 0x20 ≤ c.toNat) (noQuote : c ≠ '"') (noBackslash : c ≠ '\\') :
      WritesChar c [c]
  | short {letter c : Char} (known : (letter, c) ∈ shortEscapes) : WritesChar c ['\\', letter]
  | code {c : Char} {text : List Char} (code : WritesCode c.toNat text) : WritesChar c text
  | pair {c : Char} {high low : Nat} {first second : List Char}
      (highHalf : 0xD800 ≤ high ∧ high ≤ 0xDBFF) (lowHalf : 0xDC00 ≤ low ∧ low ≤ 0xDFFF)
      (joined : c.toNat = 0x10000 + (high - 0xD800) * 0x400 + (low - 0xDC00))
      (highCode : WritesCode high first) (lowCode : WritesCode low second) :
      WritesChar c (first ++ second)

inductive WritesChars : List Char → List Char → Prop
  | nil : WritesChars [] []
  | cons {c : Char} {spelling : List Char} {chars text : List Char} (first : WritesChar c spelling)
      (rest : WritesChars chars text) : WritesChars (c :: chars) (spelling ++ text)

def WritesString (string : String) (text : List Char) : Prop :=
  ∃ inner, WritesChars string.toList inner ∧ text = '"' :: inner ++ ['"']

theorem writesString_plain (string : String)
    (plain : string.toList.all fun c => 0x20 ≤ c.toNat && c != '"' && c != '\\') :
    WritesString string ('"' :: string.toList ++ ['"']) := by
  refine ⟨string.toList,?_,rfl⟩
  generalize string.toList = chars at plain
  induction chars with
  | nil => exact .nil
  | cons c rest ih =>
    simp only [List.all_cons,Bool.and_eq_true,decide_eq_true_eq,bne_iff_ne] at plain
    obtain ⟨⟨⟨printable,noQuote⟩,noBackslash⟩,others⟩ := plain
    exact .cons (.raw printable noQuote noBackslash) (ih others)

/-- The texts of values that hold no others. A whole number is written with its decimal digits, of
64 bits at most, perhaps after a minus. -/
inductive WritesScalar : Json → List Char → Prop
  | null : WritesScalar .null ['n', 'u', 'l', 'l']
  | true : WritesScalar (.boolean true) ['t', 'r', 'u', 'e']
  | false : WritesScalar (.boolean false) ['f', 'a', 'l', 's', 'e']
  | natural (value : Nat) (small : value < UInt64.size) :
      WritesScalar (.number (Nat.toDigits 10 value)) (Nat.toDigits 10 value)
  | negative (value : Nat) (small : value < UInt64.size) :
      WritesScalar (.number ('-' :: Nat.toDigits 10 value)) ('-' :: Nat.toDigits 10 value)
  | string {string : String} {text : List Char} (written : WritesString string text) :
      WritesScalar (.string string) text

section
variable {α : Type} (writes : α → List Char → Prop)

/-- Things that are written one after the other, with commas between them and white space around
them. -/
inductive Separated : List α → List Char → Prop
  | last {before text behind : List Char} {item : α} (leading : IsBlank before)
      (written : writes item text) (trailing : IsBlank behind) :
      Separated [item] (before ++ text ++ behind)
  | more {before text behind rest : List Char} {item : α} {items : List α}
      (leading : IsBlank before) (written : writes item text) (trailing : IsBlank behind)
      (others : Separated items rest) :
      Separated (item :: items) (before ++ text ++ behind ++ ',' :: rest)

/-- Things between brackets. -/
inductive Bracketed (opening closing : Char) : List α → List Char → Prop
  | empty {blank : List Char} (space : IsBlank blank) :
      Bracketed opening closing [] (opening :: blank ++ [closing])
  | full {items : List α} {text : List Char} (separated : Separated writes items text) :
      Bracketed opening closing items (opening :: text ++ [closing])

end

/-- A member of an object: its name, a colon and its value. -/
inductive WritesMember (writes : Json → List Char → Prop) : String × Json → List Char → Prop
  | named {name : String} {value : Json} {nameText before behind text : List Char}
      (spelled : WritesString name nameText) (leading : IsBlank before) (trailing : IsBlank behind)
      (written : writes value text) :
      WritesMember writes (name, value) (nameText ++ before ++ ':' :: behind ++ text)

/-- The texts of a value in which arrays and objects stand inside of each other at most `depth`
deep. -/
def Writes : Nat → Json → List Char → Prop
  | 0, value, text => WritesScalar value text
  | depth + 1, value, text =>
    WritesScalar value text ∨
      (∃ items, value = .array items ∧ Bracketed (Writes depth) '[' ']' items text) ∨
      ∃ members, value = .object members ∧
        Bracketed (WritesMember (Writes depth)) '\x7b' '\x7d' members text

/-- The texts of a document: a value with white space around it. -/
def WritesDocument (depth : Nat) (value : Json) (text : List Char) : Prop :=
  ∃ before inner behind, IsBlank before ∧ Writes depth value inner ∧ IsBlank behind ∧
    text = before ++ inner ++ behind

end NotebookLint.Json
