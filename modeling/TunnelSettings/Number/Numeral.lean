import TunnelSettings.Text.Blank
import TunnelSettings.Text.Digit

/-!
What the readers of whole and decimal numbers share: the plain spelling of a numeral, and the faults
of numbers. Decimal digits of every script count as the ASCII digits of the same value, and blanks
beyond ASCII as the ASCII blank.
-/
namespace TunnelSettings

/-- Why a number could not be read, written or converted. A numeral is shown as a quoted literal. -/
inductive NumberFault where
  | notInteger (base : Nat) (shown : String)
  | notDecimal (shown : String)
  /-- An integer has more decimal digits than are ever read or written; when it was read, how many. -/
  | tooManyDigits (count : Option Nat)
  | nanToInteger
  | infinityToInteger
  | tooLargeForDecimal
  deriving DecidableEq, Repr

/-- The greatest number of decimal digits that is read or written. -/
def maxDigits : Nat := 4300

/-- Characters of a literal that a message shows. -/
def shownLength : Nat := 200

namespace NumberFault

def message : NumberFault → String
  | notInteger base shown =>
    "invalid literal for int() with base " ++ toString base ++ ": " ++
      .ofList (shown.toList.take shownLength)
  | notDecimal shown => "could not convert string to float: " ++ shown
  | tooManyDigits count =>
    "Exceeds the limit (" ++ toString maxDigits ++ " digits) for integer string conversion" ++
      (match count with
        | some n => ": value has " ++ toString n ++ " digits"
        | none => "") ++
      "; use sys.set_int_max_str_digits() to increase the limit"
  | nanToInteger => "cannot convert float NaN to integer"
  | infinityToInteger => "cannot convert float infinity to integer"
  | tooLargeForDecimal => "int too large to convert to float"

/-- Whether the number is too large for its type, rather than badly written. -/
def isOverflow : NumberFault → Bool
  | infinityToInteger | tooLargeForDecimal => true
  | _ => false

end NumberFault

namespace Text

/-- Blanks around a numeral. -/
def isNumeralBlank (c : Char) : Bool := c = ' ' || (9 ≤ c.toNat && c.toNat ≤ 13)

/-- One character of a numeral's plain spelling; anything that no numeral holds becomes a mark that
none holds either. -/
def plainNumeralChar (c : Char) : Char :=
  if c.toNat < 127 then c
  else if isBlank c then ' '
  else match digitValue? c with
    | some d => Char.ofNat (48 + d)
    | none => '?'

/-- The plain spelling of a numeral without the blanks around it. -/
def plainNumeral (cs : List Char) : List Char :=
  trimWith isNumeralBlank (cs.map plainNumeralChar)

/-- The sign before a numeral, and the rest. -/
def splitSign : List Char → Bool × List Char
  | '-' :: cs => (true, cs)
  | '+' :: cs => (false, cs)
  | cs => (false, cs)

/-- The value of a digit or letter as a digit, in bases up to 36. -/
def baseDigit? (c : Char) : Option Nat :=
  if c.isDigit then some (c.toNat - 48)
  else if c.isLower then some (c.toNat - 87)
  else if c.isUpper then some (c.toNat - 55)
  else none

def isBaseDigit (base : Nat) (c : Char) : Bool := (baseDigit? c).any (· < base)

/-- The number that digits of a base write; characters that are no digits count as zero. -/
def digitsValue (base : Nat) (cs : List Char) : Nat :=
  cs.foldl (fun n c => n * base + (baseDigit? c).getD 0) 0

end Text
end TunnelSettings
