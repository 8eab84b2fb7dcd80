import TunnelSettings.Net.Address
import TunnelSettings.Number.Numeral

/-!
Networks: an address and, behind a slash, how many of its leading bits are fixed. For the shorter kind
of address the bits may also be given by a mask, or by a mask's complement.
-/
namespace TunnelSettings.Net

/-- The two kinds of address. -/
inductive Version where
  | four | six
  deriving DecidableEq, Repr

/-- A network, by its kind of address and how many bits are fixed. -/
structure Network where
  version : Version
  fixedBits : Nat
  deriving DecidableEq, Repr

/-- A number of fixed bits, up to `most`. -/
def bitCount? (most : Nat) (cs : List Char) : Option Nat :=
  let n := Text.digitsValue 10 cs
  if !cs.isEmpty && cs.all Char.isDigit && cs.length ≤ maxDigits && n ≤ most then some n else none

/-- The number of leading ones of a mask, which zeros must follow up to 32 bits. -/
def maskBits? (mask : Nat) : Option Nat :=
  (List.range 33).find? fun n => mask = Nat.pow 2 32 - Nat.pow 2 (32 - n)

/-- The fixed bits behind an address of the shorter kind: their number, a mask or its complement. -/
def ipv4Bits? (cs : List Char) : Option Nat :=
  (bitCount? 32 cs).or <| do
    let mask ← ipv4? cs
    (maskBits? mask).or (maskBits? (Nat.pow 2 32 - 1 - mask))

/-- The network that a text writes; an address alone is a network of its own. -/
def network? (s : String) : Option Network :=
  match splitAt '/' s.toList with
  | [address] =>
    if (ipv4? address).isSome then some ⟨.four, 32⟩
    else if (ipv6? address).isSome then some ⟨.six, 128⟩
    else none
  | [address, bits] =>
    let short := (ipv4? address).bind fun _ => (ipv4Bits? bits).map (Network.mk .four)
    let long := (ipv6? address).bind fun _ => (bitCount? 128 bits).map (Network.mk .six)
    short.or long
  | _ => none

end TunnelSettings.Net
