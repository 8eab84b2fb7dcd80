import TunnelSettings.Failure
import TunnelSettings.Value.Basic

/-!
Writing JSON in ASCII, two blanks deeper for every level. Texts escape all that is not printable ASCII;
characters beyond the first plane are written as a pair of code units.
-/
namespace TunnelSettings.Json

open Text

def escapeUnit (n : Nat) : List Char := '\\' :: 'u' :: hexDigits 4 n

def escapeChar (c : Char) : List Char :=
  if c = '"' then ['\\', '"']
  else if c = '\\' then ['\\', '\\']
  else if c = '\n' then ['\\', 'n']
  else if c = '\r' then ['\\', 'r']
  else if c = '\t' then ['\\', 't']
  else if c = '\x08' then ['\\', 'b']
  else if c = '\x0c' then ['\\', 'f']
  else if 32 ≤ c.toNat && c.toNat < 127 then [c]
  else if c.toNat < 0x10000 then escapeUnit c.toNat
  else
    let n := c.toNat - 0x10000
    escapeUnit (0xD800 + n / 0x400) ++ escapeUnit (0xDC00 + n % 0x400)

/-- A text in quotes. -/
def writeText (s : String) : List Char := '"' :: s.toList.flatMap escapeChar ++ ['"']

/-- Numbers are laid out as everywhere, with names of their own for those that are not finite. -/
def numberLayout : DecimalLayout := { Binary64.plainLayout with infinity := "Infinity", nan := "NaN" }

def lineBreak (depth : Nat) : List Char := '\n' :: List.replicate (2 * depth) ' '

mutual

def writeValue (depth : Nat) : Value → Except Failure (List Char)
  | .null => .ok "null".toList
  | .bool b => .ok (if b then "true".toList else "false".toList)
  | .int n => match writeInteger n with
    | .ok s => .ok s.toList
    | .error f => .error (.number f)
  | .float x => .ok (x.write numberLayout).toList
  | .text s => .ok (writeText s)
  | .list [] | .tuple [] => .ok "[]".toList
  | .list (x :: xs) | .tuple (x :: xs) => do
    return '[' :: lineBreak (depth + 1) ++ (← writeValue (depth + 1) x) ++ (← writeItems (depth + 1) xs) ++
      lineBreak depth ++ [']']
  | .map [] => .ok ['{', '}']
  | .map ((k, v) :: es) => do
    return '{' :: lineBreak (depth + 1) ++ (← writeMember (depth + 1) k v) ++
      (← writeMembers (depth + 1) es) ++ lineBreak depth ++ ['}']
  | v => .error (.notJson v.shortKind)

def writeItems (depth : Nat) : List Value → Except Failure (List Char)
  | [] => .ok []
  | x :: xs => return ',' :: lineBreak depth ++ (← writeValue depth x) ++ (← writeItems depth xs)

/-- A member; its name is a text. -/
def writeMember (depth : Nat) : Value → Value → Except Failure (List Char)
  | .text name, v => return writeText name ++ [':', ' '] ++ (← writeValue depth v)
  | k, _ => .error (.notJson k.shortKind)

def writeMembers (depth : Nat) : List (Value × Value) → Except Failure (List Char)
  | [] => .ok []
  | (k, v) :: es =>
    return ',' :: lineBreak depth ++ (← writeMember depth k v) ++ (← writeMembers depth es)

end

/-- The text of a value. -/
def write (v : Value) : Except Failure String := (writeValue 0 v).map .ofList

end TunnelSettings.Json
