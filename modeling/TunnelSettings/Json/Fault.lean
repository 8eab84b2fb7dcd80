/-!
Why a text is not JSON, and where.
-/
namespace TunnelSettings.Json

/-- What is wrong with a text that should be JSON. -/
inductive Fault where
  | noValue
  | noName
  | noColon
  | noComma
  | controlCharacter
  | escape
  | unicodeEscape
  | unterminated
  | moreData
  | byteOrderMark
  deriving DecidableEq, Repr

/-- The text of a fault, without its place. -/
def Fault.message : Fault → String
  | noValue => "Expecting value"
  | noName => "Expecting property name enclosed in double quotes"
  | noColon => "Expecting ':' delimiter"
  | noComma => "Expecting ',' delimiter"
  | controlCharacter => "Invalid control character at"
  | escape => "Invalid \\escape"
  | unicodeEscape => "Invalid \\uXXXX escape"
  | unterminated => "Unterminated string starting at"
  | moreData => "Extra data"
  | byteOrderMark => "Unexpected UTF-8 BOM (decode using utf-8-sig)"

/-- A place in a text: the characters before it. -/
structure Place where
  offset : Nat
  line : Nat
  column : Nat
  deriving DecidableEq, Repr

/-- The place behind some characters; lines and columns count from one. -/
def Place.after (before : List Char) : Place :=
  ⟨before.length, before.count '\n' + 1, (before.reverse.takeWhile (· ≠ '\n')).length + 1⟩

/-- The text of a place, in the three ways to count it. -/
def Place.text (p : Place) : String :=
  "line " ++ toString p.line ++ " column " ++ toString p.column ++ " (char " ++ toString p.offset ++ ")"

end TunnelSettings.Json
