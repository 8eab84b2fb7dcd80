import TunnelSettings.Number.Binary64
import TunnelSettings.Text.Quoted

/-!
Decimal numerals: digits with an optional point and exponent, or the names of infinity and
not-a-number, read to the nearest `Binary64`.
-/
namespace TunnelSettings

open Text

/-- Whether every underscore stands between two ASCII digits; `before` is the last character read. -/
def underscoresBetweenDigits (before : Option Char) : List Char → Bool
  | [] => before ≠ some '_'
  | c :: cs =>
    (if c = '_' then before.any Char.isDigit else before ≠ some '_' || c.isDigit) &&
      underscoresBetweenDigits (some c) cs

/-- The exponent part of a numeral: nothing, or a letter `e` with a signed whole number. -/
def readExponent : List Char → Option Int
  | [] => some 0
  | c :: cs =>
    let (negative, digits) := splitSign cs
    if (c = 'e' || c = 'E') && !digits.isEmpty && digits.all Char.isDigit then
      let n : Int := digitsValue 10 digits
      some (if negative then -n else n)
    else none

/-- An unsigned decimal numeral as digits and a power of ten. -/
def readUnsigned (cs : List Char) : Option (Nat × Int) :=
  let whole := cs.takeWhile Char.isDigit
  let rest := cs.drop whole.length
  let (fraction, tail) := match rest with
    | '.' :: more => (more.takeWhile Char.isDigit, more.dropWhile Char.isDigit)
    | _ => ([], rest)
  if whole.isEmpty && fraction.isEmpty then none else
    (readExponent tail).map fun e => (digitsValue 10 (whole ++ fraction), e - fraction.length)

/-- A numeral without underscores or blanks. A NaN that is read has payload zero. -/
def readPlainDecimal (cs : List Char) : Option Binary64 :=
  let (negative, body) := splitSign cs
  let name := String.ofList (body.map Char.toLower)
  if name = "inf" || name = "infinity" then some (.infinite negative)
  else if name = "nan" then some (.nan 0)
  else (readUnsigned body).map fun (digits, e) => .ofDecimal negative digits e

/-- Read a decimal numeral; `shown` is how a message shows the text. -/
def readDecimal (cs : List Char) (shown : String) : Except NumberFault Binary64 :=
  let plain := plainNumeral cs
  let read := if underscoresBetweenDigits none plain then
    readPlainDecimal (plain.filter (· ≠ '_')) else none
  match read with
  | some x => .ok x
  | none => .error (.notDecimal shown)

end TunnelSettings
