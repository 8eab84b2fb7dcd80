import TunnelSettings.Failure
import TunnelSettings.Number.Decimal
import TunnelSettings.Text.Casing
import TunnelSettings.Value.Text

/-!
Values taken as what a field wants: a flag, a number, a text or a list. A value of another kind is
converted where that has a meaning; null stands for an unset field.
-/
namespace TunnelSettings.Value

/-- The characters of bytes that may spell a number. -/
def numeralBytes (bs : List UInt8) : List Char :=
  bs.map fun b => if b.toNat < 127 then Char.ofNat b.toNat else '?'

/-- A whole number; a fraction is cut off. -/
def toInt : Value → Except Failure Int
  | .bool b => .ok (if b then 1 else 0)
  | .int n => .ok n
  | .float x => x.toInt.mapError .number
  | .text s => (readInteger 10 s.toList (Text.quoted s)).mapError .number
  | .bytes bs => (readInteger 10 (numeralBytes bs) (Text.quotedBytes bs)).mapError .number
  | v => .error (.notIntegerLike v.kind)

/-- A number of any kind. -/
def toFloat : Value → Except Failure Binary64
  | .bool b => .ok (if b then .one else .zero false)
  | .int n => (Binary64.ofInt n).mapError .number
  | .float x => .ok x
  | .text s => (readDecimal s.toList (Text.quoted s)).mapError .number
  | .bytes bs => (readDecimal (numeralBytes bs) (Text.quotedBytes bs)).mapError .number
  | v => .error (.notDecimalLike v.kind)

/-- A text, or the text of a value of another kind. -/
def toText (v : Value) : Except Failure String := v.asText.mapError .number

def trueWords : List String := ["1", "true", "yes", "on", "y"]

def falseWords : List String := ["0", "false", "no", "off", "n"]

/-- A flag, or a value whose text is one of the words for yes and no. -/
def toBool : Value → Except Failure Bool
  | .bool b => .ok b
  | v => do
    let word := Text.lower (Text.trim (← v.toText))
    if trueWords.contains word then return true
    else if falseWords.contains word then return false
    else throw (.notBoolean (← v.literal.mapError .number))

/-- The items of a value that has any: those of a list, the keys of a mapping, the bytes of a byte
string. -/
def items : Value → Except Failure (List Value)
  | .list xs | .tuple xs | .set xs | .outerList _ xs | .outerTuple _ xs => .ok xs
  | .map es | .outerMap _ es => .ok (es.map (·.1))
  | .text s => .ok (s.toList.map fun c => .text (.singleton c))
  | .bytes bs => .ok (bs.map fun b => .int b.toNat)
  | v => .error (.notIterable v.kind)

/-- A list of converted items; a single text or whole number counts as a list of one. -/
def toList {α : Type} (convert : Value → Except Failure α) (v : Value) : Except Failure (List α) := do
  let xs ← match v with
    | .text _ | .int _ | .bool _ => .ok [v]
    | v => v.items
  xs.mapM convert

/-- The conversion of a value that may be null, or not there at all. -/
def optional {α : Type} (convert : Value → Except Failure α) : Option Value → Except Failure (Option α)
  | none | some .null => .ok none
  | some v => some <$> convert v

end TunnelSettings.Value
