/-!
Bytes in base sixty-four. `lenientBytes` passes over whatever does not belong there; `strictLength` only
accepts the sixty-four characters with the padding that the last group of four needs.
-/
namespace TunnelSettings.Text

/-- The value of a character in base sixty-four. -/
def sextet? (c : Char) : Option Nat :=
  if c.isUpper then some (c.toNat - 65)
  else if c.isLower then some (c.toNat - 71)
  else if c.isDigit then some (c.toNat + 4)
  else if c = '+' then some 62
  else if c = '/' then some 63
  else none

/-- The bytes of a text from inside a group of four. `phase` counts the characters of the group read so
far, `left` holds their bits not yet used, `pads` the signs of padding since the last of them. Reading
ends at a complete padding. -/
def lenientBytes (phase left pads : Nat) : List Char → Option (List UInt8)
  | [] => if phase = 0 then some [] else none
  | c :: cs =>
    if c = '=' then
      if 2 ≤ phase && 4 ≤ phase + pads + 1 then some []
      else lenientBytes phase left (if 2 ≤ phase then pads + 1 else pads) cs
    else match sextet? c with
      | none => lenientBytes phase left pads cs
      | some n =>
        match phase with
        | 0 => lenientBytes 1 n 0 cs
        | 1 => (lenientBytes 2 (n % 16) 0 cs).map (UInt8.ofNat (left * 4 + n / 16) :: ·)
        | 2 => (lenientBytes 3 (n % 4) 0 cs).map (UInt8.ofNat (left * 16 + n / 4) :: ·)
        | _ => (lenientBytes 0 0 0 cs).map (UInt8.ofNat (left * 64 + n) :: ·)

/-- How many bytes a text holds, from inside a group of four, `count` of them before it. Behind complete
groups there may be padding, but nothing else behind that. -/
def strictLength (phase count : Nat) : List Char → Option Nat
  | [] => if phase = 0 then some count else none
  | c :: cs =>
    if c = '=' then
      match phase, cs with
      | 0, _ => if cs.all (· = '=') then some count else none
      | 2, ['='] => some count
      | 3, [] => some count
      | _, _ => none
    else match sextet? c with
      | none => none
      | some _ => if phase = 0 then strictLength 1 count cs else strictLength ((phase + 1) % 4) (count + 1) cs

/-- How many bytes a text in base sixty-four holds; `none` if it is no such text. -/
def base64Length? (s : String) : Option Nat :=
  if s.toList.head? = some '=' then none else strictLength 0 0 s.toList

end TunnelSettings.Text
