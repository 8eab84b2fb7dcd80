import TunnelSettings.Number.Numeral
import TunnelSettings.Number.Rounding

/-!
Binary numbers of double precision, held exactly: a finite one is `m · 2 ^ e` with at most 53 bits in
`m`. Sums, products and readings are computed exactly and then rounded to the nearest such number, a
tie to the even one, so nothing here depends on the machine's own arithmetic. Not-a-number values carry
a payload that tells them apart.
-/
namespace TunnelSettings

/-- The magnitudes `m · 2 ^ e` in their one chosen form: 53 significant bits, or the least exponent. -/
def Canonical (m : Nat) (e : Int) : Prop :=
  m < Nat.pow 2 53 ∧ -1074 ≤ e ∧ e ≤ 971 ∧ (Nat.pow 2 52 ≤ m ∨ e = -1074)

instance (m : Nat) (e : Int) : Decidable (Canonical m e) :=
  inferInstanceAs (Decidable (_ ∧ _ ∧ _ ∧ _))

/-- A binary number: its sign, its significand and its exponent, or one of the special values. -/
inductive Binary64 where
  | nan (payload : Nat)
  | infinite (negative : Bool)
  | finite (negative : Bool) (m : Nat) (e : Int) (canonical : Canonical m e)
  deriving DecidableEq

namespace Binary64

def zero (negative : Bool) : Binary64 := .finite negative 0 (-1074) (by decide)

instance : Inhabited Binary64 := ⟨zero false⟩

/-- The number with the given magnitude, infinite if that is out of range. -/
def ofMagnitude (negative : Bool) (m : Nat) (e : Int) : Binary64 :=
  if h : Canonical m e then .finite negative m e h else .infinite negative

/-- `num / den` in units of `2 ^ e`, rounded to a whole number. -/
def inUnits (num den : Nat) (e : Int) : Nat :=
  if 0 ≤ e then roundHalfEven num (den * Nat.pow 2 e.toNat)
  else roundHalfEven (num * Nat.pow 2 (-e).toNat) den

/-- The exponent at which `num / den` has 53 significant bits, or the least one. -/
def exponentFor (num den : Nat) : Int :=
  let guess : Int := (num.log2 : Int) - (den.log2 : Int) - 52
  let tooHigh := if 0 ≤ guess then num < Nat.pow 2 52 * den * Nat.pow 2 guess.toNat
    else num * Nat.pow 2 (-guess).toNat < Nat.pow 2 52 * den
  max (if tooHigh then guess - 1 else guess) (-1074)

/-- The number nearest to `num / den`, for a positive `den`. -/
def ofRatio (negative : Bool) (num den : Nat) : Binary64 :=
  if num = 0 then zero negative else
    let e := exponentFor num den
    let m := inUnits num den e
    if m = Nat.pow 2 53 then ofMagnitude negative (Nat.pow 2 52) (e + 1) else ofMagnitude negative m e

/-- The number nearest to `digits · 10 ^ exponent`. Exponents far out of range are not expanded. -/
def ofDecimal (negative : Bool) (digits : Nat) (exponent : Int) : Binary64 :=
  let size := ((toString digits).length : Int) + exponent
  if digits = 0 || size < -330 then zero negative
  else if 310 < size then .infinite negative
  else if 0 ≤ exponent then ofRatio negative (digits * Nat.pow 10 exponent.toNat) 1
  else ofRatio negative digits (Nat.pow 10 (-exponent).toNat)

/-- The number nearest to an integer, unless that is out of range. -/
def ofInt (n : Int) : Except NumberFault Binary64 :=
  match ofRatio (n < 0) n.natAbs 1 with
  | .infinite _ => .error .tooLargeForDecimal
  | x => .ok x

/-- The exact value of a finite number, as a multiple of `2 ^ -1074`. -/
def units : Binary64 → Int
  | finite negative m e _ =>
    let magnitude : Int := m * Nat.pow 2 (e + 1074).toNat
    if negative then -magnitude else magnitude
  | _ => 0

/-- The nearest number to a multiple of `2 ^ -exponent`. -/
def ofUnits (negativeZero : Bool) (n : Int) (exponent : Nat) : Binary64 :=
  if n = 0 then zero negativeZero else ofRatio (n < 0) n.natAbs (Nat.pow 2 exponent)

def isNaN : Binary64 → Bool
  | nan _ => true
  | _ => false

def isNegative : Binary64 → Bool
  | nan _ => false
  | infinite negative => negative
  | finite negative _ _ _ => negative

/-- Strict order of numbers; a NaN is below and above nothing. -/
def lt : Binary64 → Binary64 → Bool
  | nan _, _ => false
  | _, nan _ => false
  | infinite s, infinite t => s && !t
  | infinite s, finite .. => s
  | finite .., infinite t => !t
  | x@(finite ..), y@(finite ..) => x.units < y.units

/-- Equality of values: the two zeros are equal, and a NaN only equals itself. -/
def same : Binary64 → Binary64 → Bool
  | x@(finite ..), y@(finite ..) => x.units = y.units
  | x, y => x = y

/-- The order of numbers; nothing is in order with what is no number. -/
def le (x y : Binary64) : Bool := x.lt y || (!x.isNaN && x.same y)

def one : Binary64 := .finite false (Nat.pow 2 52) (-52) (by decide)

def negate : Binary64 → Binary64
  | nan p => nan p
  | infinite s => infinite (!s)
  | finite s m e h => finite (!s) m e h

def add : Binary64 → Binary64 → Binary64
  | nan p, _ => nan p
  | _, nan p => nan p
  | infinite s, infinite t => if s = t then infinite s else nan 0
  | infinite s, _ => infinite s
  | _, infinite t => infinite t
  | x, y => ofUnits (x.isNegative && y.isNegative) (x.units + y.units) 1074

def mul : Binary64 → Binary64 → Binary64
  | nan p, _ => nan p
  | _, nan p => nan p
  | infinite s, y => if y.units = 0 && y.same (zero false) then nan 0 else infinite (s ^^ y.isNegative)
  | x, infinite t => if x.units = 0 then nan 0 else infinite (x.isNegative ^^ t)
  | x, y => ofUnits (x.isNegative ^^ y.isNegative) (x.units * y.units) 2148

/-- The integer part, toward zero. -/
def toInt : Binary64 → Except NumberFault Int
  | nan _ => .error .nanToInteger
  | infinite _ => .error .infinityToInteger
  | x => .ok (x.units.tdiv (Nat.pow 2 1074))

end Binary64
end TunnelSettings
