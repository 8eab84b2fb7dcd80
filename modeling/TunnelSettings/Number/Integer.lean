import TunnelSettings.Number.Numeral
import TunnelSettings.Text.Quoted

/-!
Whole numbers as text. An integer is read in a given base, with a sign, a base mark (`0x`, `0o`, `0b`)
where the base has one, and single underscores between digits; blanks may stand around it. In base ten
more than `maxDigits` digits are refused, both when reading and when writing.
-/
namespace TunnelSettings

open Text

/-- The mark that may stand before the digits of a base, and whether `c` is its letter. -/
def isBaseMark (base : Nat) (c : Char) : Bool :=
  (base = 16 && (c = 'x' || c = 'X')) || (base = 8 && (c = 'o' || c = 'O')) ||
    (base = 2 && (c = 'b' || c = 'B'))

/-- The digits after a base mark; one underscore may follow the mark. -/
def dropBaseMark (base : Nat) : List Char → List Char
  | '0' :: c :: '_' :: cs => if isBaseMark base c then cs else '0' :: c :: '_' :: cs
  | '0' :: c :: cs => if isBaseMark base c then cs else '0' :: c :: cs
  | cs => cs

/-- Whether digits and underscores alternate well: no underscore is first, last or doubled. -/
def underscoresSeparate : List Char → Bool
  | [] => true
  | ['_'] => false
  | '_' :: '_' :: _ => false
  | _ :: cs => underscoresSeparate cs

/-- Digits with separating underscores, as a number; `none` where the text is no such numeral. -/
def readDigits (base : Nat) (cs : List Char) : Except (Option Nat) Nat :=
  let run := cs.takeWhile fun c => isBaseDigit base c || c = '_'
  let rest := cs.drop run.length
  let digits := run.filter (· ≠ '_')
  if digits.isEmpty || run.head? = some '_' || !underscoresSeparate run then .error none
  else if base = 10 && digits.length > maxDigits then .error (some digits.length)
  else if rest.isEmpty then .ok (digitsValue base digits)
  else .error none

/-- Read an integer; `shown` is how a message shows the text. -/
def readInteger (base : Nat) (cs : List Char) (shown : String) : Except NumberFault Int :=
  let (negative, body) := splitSign (plainNumeral cs)
  match readDigits base (dropBaseMark base body) with
  | .ok n => .ok (if negative then -n else n)
  | .error (some count) => .error (.tooManyDigits count)
  | .error none => .error (.notInteger base shown)

/-- The decimal form of an integer. -/
def writeInteger (n : Int) : Except NumberFault String :=
  if n.natAbs < Nat.pow 10 maxDigits then .ok (toString n) else .error (.tooManyDigits none)

/-- A message that shows an integer, or says that the integer has too many digits to be shown. -/
def showingInteger (n : Int) (message : String → String) : String :=
  match writeInteger n with
  | .ok text => message text
  | .error fault => fault.message

end TunnelSettings
