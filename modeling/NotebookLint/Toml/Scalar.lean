import NotebookLint.Json.Magnitude
import NotebookLint.Toml.Table

/-! TOML values that are written without quotes or brackets: booleans, integers, fractions and
moments in time. -/
namespace NotebookLint.Toml
open Text

/-- Digits with single underscores between them, without the underscores. -/
def grouped (kind : Char → Bool) : List Char → Option (List Char)
  | [] => none
  | [c] => if kind c then some [c] else none
  | c :: '_' :: rest => if kind c then (grouped kind rest).map (c :: ·) else none
  | c :: next :: rest => if kind c then (grouped kind (next :: rest)).map (c :: ·) else none

def decimalDigits? (text : List Char) : Option (List Char) :=
  match grouped Char.isDigit text with
  | some ('0' :: _ :: _) => none
  | digits => digits

def splitSign : List Char → Bool × List Char
  | '+' :: rest => (false, rest)
  | '-' :: rest => (true, rest)
  | text => (false, text)

def inBase? (base : Nat) (digits : List Char) : Option Toml :=
  (grouped (isDigitOf base) digits).map fun digits => .integer (numeral base digits)

def integer? (text : List Char) : Option Toml :=
  match text with
  | '0' :: 'x' :: digits => inBase? 16 digits
  | '0' :: 'o' :: digits => inBase? 8 digits
  | '0' :: 'b' :: digits => inBase? 2 digits
  | _ =>
    match splitSign text with
    | (negative, digits) => (decimalDigits? digits).map fun digits =>
      let value : Int := numeral 10 digits
      .integer (if negative then -value else value)

def power? (text : List Char) : Option Int :=
  match splitSign text with
  | (negative, digits) => (grouped Char.isDigit digits).map fun digits =>
    let value : Int := numeral 10 digits
    if negative then -value else value

/-- Digits with a point and digits after it, an exponent, or both: all its digits, and the power of
ten that scales them. -/
def decimal? (unsigned : List Char) : Option (List Char × Int) :=
  let mantissa := unsigned.takeWhile fun c => c != 'e' && c != 'E'
  let exponent := unsigned.dropWhile fun c => c != 'e' && c != 'E'
  let places := mantissa.dropWhile (· != '.')
  if places.isEmpty && exponent.isEmpty then none
  else do
    let whole ← decimalDigits? (mantissa.takeWhile (· != '.'))
    let places ← if places.isEmpty then some [] else grouped Char.isDigit places.tail
    let power ← if exponent.isEmpty then some 0 else power? exponent.tail
    return (whole ++ places, power - places.length)

def fraction? (text : List Char) : Option Toml :=
  let unsigned := (splitSign text).2
  if unsigned == ['i', 'n', 'f'] || unsigned == ['n', 'a', 'n'] || (decimal? unsigned).isSome then
    some (.fraction text)
  else none

/-- Whether digits, scaled by a power of ten, stay below infinity when they are rounded. -/
def isFinite (digits : List Char) (power : Int) : Bool :=
  let value := numeral 10 digits
  value == 0 || power + digits.length < 308 ||
    (power < 310 &&
      if 0 ≤ power then value * Nat.pow 10 power.toNat < Json.Magnitude.infinite
      else value < Json.Magnitude.infinite * Nat.pow 10 (-power).toNat)

mutual

/-- Whether the numbers in a value can be held: integers in 128 bits, with a sign or without, and
fractions without becoming infinite. -/
def inRange : Toml → Bool
  | .integer value => -(Nat.pow 2 127 : Int) ≤ value && value < Nat.pow 2 128
  | .fraction literal => match decimal? (splitSign literal).2 with
    | some (digits, power) => isFinite digits power
    | none => true
  | .list _ items => allInRange items
  | .table _ entries => entriesInRange entries
  | _ => true

def allInRange : List Toml → Bool
  | [] => true
  | item :: rest => inRange item && allInRange rest

def entriesInRange : List (String × Toml) → Bool
  | [] => true
  | (_, value) :: rest => inRange value && entriesInRange rest

end

def twoDigits? (tens ones : Char) : Option Nat :=
  if tens.isDigit && ones.isDigit then some (numeral 10 [tens, ones]) else none

def isLeapYear (year : Nat) : Bool :=
  year % 4 == 0 && (year % 100 != 0 || year % 400 == 0)

def daysInMonth (year month : Nat) : Nat :=
  if month == 2 then if isLeapYear year then 29 else 28
  else if month == 4 || month == 6 || month == 9 || month == 11 then 30
  else 31

def afterDate? : List Char → Option (List Char)
  | y₁ :: y₂ :: y₃ :: y₄ :: '-' :: m₁ :: m₂ :: '-' :: d₁ :: d₂ :: rest => do
    let century ← twoDigits? y₁ y₂
    let year ← twoDigits? y₃ y₄
    let month ← twoDigits? m₁ m₂
    let day ← twoDigits? d₁ d₂
    if 1 ≤ month && month ≤ 12 && 1 ≤ day && day ≤ daysInMonth (century * 100 + year) month then
      some rest
    else none
  | _ => none

def afterSeconds? : List Char → Option (List Char)
  | ':' :: s₁ :: s₂ :: rest => do
    let second ← twoDigits? s₁ s₂
    if 60 < second then none
    else match rest with
      | '.' :: digit :: rest =>
        if digit.isDigit then some (rest.dropWhile Char.isDigit) else none
      | '.' :: _ => none
      | _ => some rest
  | ':' :: _ => none
  | rest => some rest

def afterTime? : List Char → Option (List Char)
  | h₁ :: h₂ :: ':' :: m₁ :: m₂ :: rest => do
    let hour ← twoDigits? h₁ h₂
    let minute ← twoDigits? m₁ m₂
    if hour < 24 && minute < 60 then afterSeconds? rest else none
  | _ => none

def isOffset : List Char → Bool
  | ['Z'] | ['z'] => true
  | [sign, h₁, h₂, ':', m₁, m₂] =>
    (sign == '+' || sign == '-') && (twoDigits? h₁ h₂).any (· < 24) &&
      (twoDigits? m₁ m₂).any (· < 60)
  | _ => false

def isMoment (text : List Char) : Bool :=
  afterTime? text == some [] ||
    match afterDate? text with
    | none => false
    | some [] => true
    | some (between :: time) =>
      (between == 'T' || between == 't' || between == ' ') &&
        match afterTime? time with
        | none => false
        | some rest => rest.isEmpty || isOffset rest

/-- Whether a text has the digits and hyphens of a date, so that a time may follow after a space. -/
def looksLikeDate (text : List Char) : Bool :=
  text.length == 10 &&
    text.zipIdx.all fun (c, index) => if index == 4 || index == 7 then c == '-' else c.isDigit

def moment? (text : List Char) : Option Toml :=
  if isMoment text then some (.moment text) else none

def scalar? (text : List Char) : Option Toml :=
  if text == ['t', 'r', 'u', 'e'] then some (.boolean true)
  else if text == ['f', 'a', 'l', 's', 'e'] then some (.boolean false)
  else ((integer? text).or (fraction? text)).or (moment? text)

end NotebookLint.Toml
