import TunnelSettings.Number.Integer
import TunnelSettings.Number.Shortest
import TunnelSettings.Text.Bracket
import TunnelSettings.Value.Basic

/-!
Values as text. `literal` shows a value so that its kind can be told: texts are quoted, lists stand in
square brackets, mappings and sets in curly ones. `text` is the same except that a text stands for
itself and dates are written as calendars write them. Both fail on an integer with too many digits.
A collection inside itself is shown by an ellipsis, but only if it is shown already: the number of levels
after which it comes again is compared with the number of levels down from the value that is shown.
-/
namespace TunnelSettings.Value

open Text

def commaJoined (parts : List String) : String := ", ".intercalate parts

/-- The text of a tuple. A comma tells a tuple of one from a value in parentheses. -/
def tupleText : List String → String
  | [part] => inParentheses (part ++ ",")
  | parts => inParentheses (commaJoined parts)

mutual

/-- The text of a value that stands some levels inside the one that is shown. -/
def literalAt (depth : Nat) : Value → Except NumberFault String
  | .null => .ok "None"
  | .bool b => .ok (if b then "True" else "False")
  | .int n => writeInteger n
  | .float x => .ok x.text
  | .text s => .ok (quoted s)
  | .list xs => return inBrackets (commaJoined (← literalsAt (depth + 1) xs))
  | .tuple xs => return tupleText (← literalsAt (depth + 1) xs)
  | .map es => return inBraces (commaJoined (← entryLiteralsAt (depth + 1) es))
  | .set [] => .ok "set()"
  | .set xs => return inBraces (commaJoined (← literalsAt (depth + 1) xs))
  | .bytes bs => .ok (quotedBytes bs)
  | .date d => .ok d.literal
  | .moment t => .ok t.literal
  | .outerList back xs =>
    if back ≤ depth then .ok (inBrackets ellipsis)
    else return inBrackets (commaJoined (← literalsAt (depth + 1) xs))
  | .outerTuple back xs =>
    if back ≤ depth then .ok (inParentheses ellipsis) else return tupleText (← literalsAt (depth + 1) xs)
  | .outerMap back es =>
    if back ≤ depth then .ok (inBraces ellipsis)
    else return inBraces (commaJoined (← entryLiteralsAt (depth + 1) es))

def literalsAt (depth : Nat) : List Value → Except NumberFault (List String)
  | [] => .ok []
  | x :: xs => return (← literalAt depth x) :: (← literalsAt depth xs)

def entryLiteralsAt (depth : Nat) : List (Value × Value) → Except NumberFault (List String)
  | [] => .ok []
  | (k, v) :: es => return ((← literalAt depth k) ++ ": " ++ (← literalAt depth v)) :: (← entryLiteralsAt depth es)

end

/-- A value so that its kind can be told. -/
def literal (v : Value) : Except NumberFault String := v.literalAt 0

/-- A value as text: a text stands for itself. -/
def asText : Value → Except NumberFault String
  | .text s => .ok s
  | .date d => .ok d.text
  | .moment t => .ok (t.textWith " ")
  | v => v.literal

end TunnelSettings.Value
