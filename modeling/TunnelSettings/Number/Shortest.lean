import TunnelSettings.Number.Binary64

/-!
Decimal text of binary numbers. `shortest` finds the fewest decimal digits that read back as the same
number and, among those, the nearest to it; `Binary64.text` writes them out, and `Binary64.fixed` writes
a given number of decimal places.
-/
namespace TunnelSettings

/-- How many decimal digits a number has; zero has none. -/
def decimalLength (n : Nat) : Nat := if n = 0 then 0 else (toString n).length

/-- The least `s` with `num / den < 10 ^ s`, for positive numbers. -/
def decimalSize (num den : Nat) : Int :=
  if den ≤ num then decimalLength (num / den) else 1 - decimalLength ((den - 1) / num)

/-- An interval of positive rationals with a common denominator, and whether its ends belong to it. -/
structure Interval where
  low : Nat
  value : Nat
  high : Nat
  den : Nat
  closed : Bool

namespace Interval

/-- The numbers that round to `m · 2 ^ e`. Below a power of two the next number is only half as far. -/
def around (m : Nat) (e : Int) : Interval :=
  let scale := if 0 ≤ e then Nat.pow 2 e.toNat else 1
  let den := if 0 ≤ e then 4 else 4 * Nat.pow 2 (-e).toNat
  let below := if m = Nat.pow 2 52 && -1074 < e then 1 else 2
  ⟨(4 * m - below) * scale, 4 * m * scale, (4 * m + 2) * scale, den, m % 2 = 0⟩

/-- Whether `num / den` lies in the interval. -/
def holds (i : Interval) (num den : Nat) : Bool :=
  let x := num * i.den
  let low := i.low * den
  let high := i.high * den
  if i.closed then low ≤ x && x ≤ high else low < x && x < high

/-- A multiple of `10 ^ place` in the interval that is next to the value: of two, the nearer. -/
def onGrid (i : Interval) (place : Int) : Option Nat :=
  let up := Nat.pow 10 place.toNat
  let down := Nat.pow 10 (-place).toNat
  let below := i.value * down / (i.den * up)
  let inside (n : Nat) := i.holds (n * up) down
  let remainder := i.value * down % (i.den * up)
  let nearer := if 2 * remainder < i.den * up || (2 * remainder = i.den * up && below % 2 = 0) then below
    else below + 1
  let farther := if nearer = below then below + 1 else below
  if inside nearer then some nearer else if inside farther then some farther else none

end Interval

/-- Drop the zeros at the end of a number, counting them. -/
def dropZeros : Nat → Nat → Nat × Nat
  | 0, n => (n, 0)
  | fuel + 1, n =>
    if n % 10 = 0 then
      let (d, k) := dropZeros fuel (n / 10)
      (d, k + 1)
    else (n, 0)

/-- The shortest decimal `digits · 10 ^ place` that reads back as `m · 2 ^ e`, for a positive `m`. -/
def shortest (m : Nat) (e : Int) : Nat × Int :=
  let i := Interval.around m e
  let size := decimalSize i.value i.den
  let attempt (count : Nat) : Option (Nat × Int) :=
    (i.onGrid (size - count)).map fun n =>
      let (d, k) := dropZeros 20 n
      (d, size - count + k)
  ((List.range' 1 17).findSome? attempt).getD (m, 0)

/-- How the digits of a number are laid out as text. -/
structure DecimalLayout where
  /-- Scientific notation is used below this decimal exponent, -/
  lowest : Int
  /-- and from this one on. -/
  highest : Int
  infinity : String
  nan : String

def zeros (n : Nat) : String := .ofList (List.replicate n '0')

/-- A decimal exponent: its sign and at least two digits. -/
def exponentText (e : Int) : String :=
  let digits := toString e.natAbs
  (if e < 0 then "e-" else "e+") ++ zeros (2 - digits.length) ++ digits

/-- The text of `digits · 10 ^ place`. -/
def DecimalLayout.magnitude (layout : DecimalLayout) (digits : Nat) (place : Int) : String :=
  let text := (toString digits).toList
  let point := (text.length : Int) + place
  let e := point - 1
  if e < layout.lowest || layout.highest ≤ e then
    String.ofList (text.take 1) ++ (if text.length = 1 then "" else "." ++ .ofList (text.drop 1)) ++
      exponentText e
  else if point ≤ 0 then "0." ++ zeros (-point).toNat ++ .ofList text
  else if (text.length : Int) ≤ point then
    String.ofList text ++ zeros (point - text.length).toNat ++ ".0"
  else String.ofList (text.take point.toNat) ++ "." ++ .ofList (text.drop point.toNat)

namespace Binary64

/-- The shortest text of a number in a layout. -/
def write (layout : DecimalLayout) : Binary64 → String
  | nan _ => layout.nan
  | infinite negative => (if negative then "-" else "") ++ layout.infinity
  | finite negative m e _ =>
    let (digits, place) := if m = 0 then (0, 0) else shortest m e
    (if negative then "-" else "") ++ layout.magnitude digits place

/-- Scientific notation is used from `1e16` on and below `1e-4`. -/
def plainLayout : DecimalLayout := ⟨-4, 16, "inf", "nan"⟩

/-- The shortest text that reads back as the same number. -/
def text (x : Binary64) : String := x.write plainLayout

/-- A number with `places` decimal places, rounded from its exact value, a tie to the even digit. -/
def fixed (places : Nat) : Binary64 → String
  | nan _ => "nan"
  | infinite negative => if negative then "-inf" else "inf"
  | x@(finite negative ..) =>
    let n := roundHalfEven (x.units.natAbs * Nat.pow 10 places) (Nat.pow 2 1074)
    let digits := toString n
    let padded := (zeros (places + 1 - digits.length) ++ digits).toList
    let whole := padded.take (padded.length - places)
    (if negative then "-" else "") ++ String.ofList whole ++
      (if places = 0 then "" else "." ++ .ofList (padded.drop (padded.length - places)))

end Binary64
end TunnelSettings
