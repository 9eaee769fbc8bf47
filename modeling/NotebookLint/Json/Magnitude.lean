import NotebookLint.Json.Value

/-! When a number is too large. A reader keeps as many leading digits as fit 64 bits, scales them by
a power of ten, and rounds both to 53 bits, as it does their product: the number is too large when
the product rounds to infinity. -/
namespace NotebookLint.Json.Magnitude
open Text

/-- A number cut to 53 significant bits, to the nearest and a tie to the even neighbour. -/
def round (n : Nat) : Nat :=
  let unit := Nat.pow 2 (n.log2 + 1 - 53)
  let low := n / unit
  let rest := n % unit
  if unit < 2 * rest || (unit == 2 * rest && low % 2 == 1) then (low + 1) * unit else low * unit

/-- The least product that rounds to infinity: half a unit above the greatest finite number. -/
def infinite : Nat := Nat.pow 2 1024 - Nat.pow 2 970

structure Scaled where
  digits : Nat
  power : Int
  deriving DecidableEq, Repr

def Scaled.isInfinite (scaled : Scaled) : Bool :=
  scaled.digits != 0 && 0 ≤ scaled.power &&
    (308 < scaled.power || infinite ≤ round scaled.digits * round (Nat.pow 10 scaled.power.toNat))

def fits (digits digit : Nat) : Bool :=
  digits * 10 + digit < UInt64.size

/-- Reads the digits before the point: once one no longer fits, it and all after it only scale. -/
def wholeDigits (scaled : Scaled) : List Nat → Scaled
  | [] => scaled
  | digit :: rest =>
    if fits scaled.digits digit then
      wholeDigits { scaled with digits := scaled.digits * 10 + digit } rest
    else { scaled with power := scaled.power + (digit :: rest).length }

/-- Reads the digits after the point: once one no longer fits, it and all after it are dropped. -/
def fractionDigits (scaled : Scaled) : List Nat → Scaled
  | [] => scaled
  | digit :: rest =>
    if fits scaled.digits digit then
      fractionDigits ⟨scaled.digits * 10 + digit, scaled.power - 1⟩ rest
    else scaled

/-- The scaled digits of a number's text: an optional sign, digits, perhaps a point with digits, and
perhaps an exponent. -/
def scale (literal : List Char) : Scaled :=
  let unsigned := literal.dropWhile (· == '-')
  let whole := unsigned.takeWhile Char.isDigit
  let tail := unsigned.dropWhile Char.isDigit
  let fraction := match tail with
    | '.' :: more => more.takeWhile Char.isDigit
    | _ => []
  let written := (tail.dropWhile fun c => c != 'e' && c != 'E').drop 1
  let power : Int := numeral 10 (written.filter Char.isDigit)
  let scaled := fractionDigits (wholeDigits ⟨0, 0⟩ (whole.map digitValue)) (fraction.map digitValue)
  { scaled with power := scaled.power + if written.head? == some '-' then -power else power }

def isInfinite (literal : List Char) : Bool :=
  (scale literal).isInfinite

end NotebookLint.Json.Magnitude
