import TunnelSettings.Number.Numeral

/-!
Internet addresses in their textual forms. Both kinds are read to the number that they write.
-/
namespace TunnelSettings.Net

/-- The parts of a text between separators, given the part read so far (its last character first). -/
def splitFrom (sep : Char) (part : List Char) : List Char → List (List Char)
  | [] => [part.reverse]
  | c :: cs => if c = sep then part.reverse :: splitFrom sep [] cs else splitFrom sep (c :: part) cs

def splitAt (sep : Char) (cs : List Char) : List (List Char) := splitFrom sep [] cs

/-- Up to three decimal digits without a leading zero, at most 255. -/
def octet? (cs : List Char) : Option Nat :=
  let n := Text.digitsValue 10 cs
  if !cs.isEmpty && cs.all Char.isDigit && cs.length ≤ 3 && (cs = ['0'] || cs.head? ≠ some '0') && n ≤ 255
  then some n else none

/-- Four octets with points between them. -/
def ipv4? (cs : List Char) : Option Nat :=
  match splitAt '.' cs with
  | [a, b, c, d] => do
    return ((((← octet? a) * 256 + (← octet? b)) * 256) + (← octet? c)) * 256 + (← octet? d)
  | _ => none

/-- One to four hexadecimal digits. -/
def hextet? (cs : List Char) : Option Nat :=
  if !cs.isEmpty && cs.length ≤ 4 && cs.all (Text.isBaseDigit 16) then some (Text.digitsValue 16 cs)
  else none

/-- The hextets of a sequence of parts. -/
def hextets? (parts : List (List Char)) : Option (List Nat) := parts.mapM hextet?

/-- The parts of an address with the last one, if it is written with points, as two hextets. -/
def expandTail (parts : List (List Char)) : Option (List (List Char)) :=
  let last := parts.getLast?.getD []
  if last.contains '.' then
    (ipv4? last).map fun n =>
      parts.dropLast ++ [Nat.toDigits 16 (n / 65536), Nat.toDigits 16 (n % 65536)]
  else some parts

/-- The places of the empty parts that are neither first nor last. -/
def innerGaps (parts : List (List Char)) : List Nat :=
  (List.range parts.length).filter fun i =>
    0 < i && i + 1 < parts.length && (parts[i]?).any (·.isEmpty)

def ofHextets (hs : List Nat) : Nat := hs.foldl (fun n h => n * 65536 + h) 0

/-- Parts before and after a gap; an empty one at an end is only allowed next to the gap. -/
def aroundGap (before after : List (List Char)) : Option Nat := do
  let before := if before = [[]] then [] else before
  let after := if after = [[]] then [] else after
  let high ← hextets? before
  let low ← hextets? after
  if high.length + low.length < 8 then
    return ofHextets (high ++ List.replicate (8 - high.length - low.length) 0 ++ low)
  else none

/-- Eight hextets with colons between them, of which one run of zeros may be left out. -/
def ipv6Digits? (cs : List Char) : Option Nat := do
  let raw := splitAt ':' cs
  if raw.length < 3 then none
  let parts ← expandTail raw
  if 9 < parts.length then none
  match innerGaps parts with
  | [] => if parts.length = 8 then (hextets? parts).map ofHextets else none
  | [i] => aroundGap (parts.take i) (parts.drop (i + 1))
  | _ => none

/-- An address, perhaps with the name of a zone behind a percent sign. -/
def ipv6? (cs : List Char) : Option Nat :=
  match splitAt '%' cs with
  | [digits] => ipv6Digits? digits
  | [digits, zone] => if zone.isEmpty then none else ipv6Digits? digits
  | _ => none

/-- Whether a text is an address of either kind. -/
def isAddress (s : String) : Bool :=
  let cs := s.toList
  !cs.contains '/' && ((ipv4? cs).isSome || (ipv6? cs).isSome)

end TunnelSettings.Net
