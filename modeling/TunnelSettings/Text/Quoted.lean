import TunnelSettings.Text.Printable

/-!
Quoted literals, the form in which messages show a text. Single quotes stand around it, or double
quotes if it holds a single quote and no double one; a quote like those around it, a backslash and
every character that is not printable are escaped.
-/
namespace TunnelSettings.Text

def hexDigit (n : Nat) : Char := (Nat.digitChar (n % 16))

/-- The last `width` hexadecimal digits of a number. -/
def hexDigits (width n : Nat) : List Char :=
  (List.range width).reverse.map fun i => hexDigit (n / Nat.pow 16 i)

/-- An escape of two, four or eight hexadecimal digits, the fewest that hold the code point. -/
def escapeCode (n : Nat) : List Char :=
  if n < 0x100 then '\\' :: 'x' :: hexDigits 2 n
  else if n < 0x10000 then '\\' :: 'u' :: hexDigits 4 n
  else '\\' :: 'U' :: hexDigits 8 n

def escapeChar (quote c : Char) : List Char :=
  if c = quote || c = '\\' then ['\\', c]
  else if c = '\n' then ['\\', 'n']
  else if c = '\r' then ['\\', 'r']
  else if c = '\t' then ['\\', 't']
  else if isPrintable c then [c]
  else escapeCode c.toNat

/-- A double quote for a text that has single quotes and no double ones, and else a single quote. -/
def quoteFor (cs : List Char) : Char :=
  if cs.contains '\'' && !cs.contains '"' then '"' else '\''

def quotedChars (cs : List Char) : List Char :=
  let quote := quoteFor cs
  quote :: cs.flatMap (escapeChar quote) ++ [quote]

/-- A text in quotes. -/
def quoted (s : String) : String := .ofList (quotedChars s.toList)

/-- A byte string is shown like a text, with every byte outside the printable ASCII escaped. -/
def quotedBytes (bytes : List UInt8) : String :=
  let cs := bytes.map fun b => Char.ofNat b.toNat
  let quote := quoteFor cs
  let escape (c : Char) : List Char :=
    if 127 ≤ c.toNat then escapeCode c.toNat else escapeChar quote c
  .ofList ('b' :: quote :: cs.flatMap escape ++ [quote])

end TunnelSettings.Text
