import TunnelSettings.Failure

/-!
A place in a YAML text that is being read, and the classes of characters that YAML tells apart. NUL
stands for the end of the text: no text that can be read holds it.
-/
namespace TunnelSettings.Yaml

/-- Why a value of a YAML text cannot be formed. -/
inductive Fault where
  | number (fault : NumberFault)
  | calendar (fault : CalendarFault)
  | notBooleanWord (word : String)
  | emptyNumeral
  | codePoint
  | codePointTooLarge
  | notTimestamp
  /-- A date is to be read from a mapping. -/
  | notText
  /-- A mapping that is wanted as a scalar is its own scalar. -/
  | endless

/-- How a fault is reported. -/
def Fault.failure : Fault → Failure
  | number fault => .number fault
  | calendar fault => .calendar fault
  | notBooleanWord word => .notBooleanWord word
  | emptyNumeral => .emptyNumeral
  | codePoint => .codePoint
  | codePointTooLarge => .codePointTooLarge
  | notTimestamp => .noMember "NoneType" "groupdict"
  | notText => .notText "list"
  | endless => .endless

/-- What ends the reading of a YAML text: it is malformed, or one of its values cannot be formed. -/
inductive Stop where
  | malformed
  | fault (f : Fault)

def isBreak (c : Char) : Bool :=
  c = '\r' || c = '\n' || c = '\x85' || c = '\u2028' || c = '\u2029'

def isBreakOrEnd (c : Char) : Bool := c = '\x00' || isBreak c

def isBlankOrEnd (c : Char) : Bool := c = ' ' || isBreakOrEnd c

def isSpaceOrEnd (c : Char) : Bool := c = '\t' || isBlankOrEnd c

def isSpaceOrTab (c : Char) : Bool := c = ' ' || c = '\t'

/-- Characters of anchors, tag handles and directive names. -/
def isNameChar (c : Char) : Bool := c.isAlphanum || c = '-' || c = '_'

/-- Whether a YAML text may hold a character. -/
def isReadable (c : Char) : Bool :=
  let n := c.toNat
  n = 9 || n = 10 || n = 13 || (0x20 ≤ n && n ≤ 0x7E) || n = 0x85 || (0xA0 ≤ n && n ≤ 0xD7FF) ||
    (0xE000 ≤ n && n ≤ 0xFFFD) || (0x10000 ≤ n && n ≤ 0x10FFFF)

/-- A place in a text: what is still to come, and where that is. -/
structure Cursor where
  rest : List Char
  index : Nat
  line : Nat
  column : Nat

namespace Cursor

def atStart (cs : List Char) : Cursor := ⟨cs, 0, 0, 0⟩

/-- The character `k` places on. -/
def peek (c : Cursor) (k : Nat) : Char := (c.rest[k]?).getD '\x00'

/-- The place behind the next character. -/
def step (c : Cursor) : Cursor :=
  match c.rest with
  | [] => c
  | ch :: rest =>
    if isBreak ch && !(ch = '\r' && rest.head? = some '\n') then
      { rest, index := c.index + 1, line := c.line + 1, column := 0 }
    else if ch = '\ufeff' then { c with rest, index := c.index + 1 }
    else { c with rest, index := c.index + 1, column := c.column + 1 }

def advance (c : Cursor) : Nat → Cursor
  | 0 => c
  | n + 1 => c.step.advance n

/-- The characters of a class from here on, and the place behind them. -/
def take (c : Cursor) (p : Char → Bool) : List Char × Cursor :=
  let cs := c.rest.takeWhile p
  (cs, c.advance cs.length)

def skip (c : Cursor) (p : Char → Bool) : Cursor := (c.take p).2

/-- Past a line break, if there is one here, and the break as it counts in a text. -/
def lineBreak (c : Cursor) : Option Char × Cursor :=
  let ch := c.peek 0
  if ch = '\r' && c.peek 1 = '\n' then (some '\n', c.advance 2)
  else if ch = '\u2028' || ch = '\u2029' then (some ch, c.step)
  else if isBreak ch then (some '\n', c.step)
  else (none, c)

/-- Whether one of the two document marks stands here. -/
def atDocumentMark (c : Cursor) : Bool :=
  let mark := c.rest.take 3
  (mark = ['-', '-', '-'] || mark = ['.', '.', '.']) && isSpaceOrEnd (c.peek 3)

/-- Past blanks and a comment to the end of a line, where nothing else stands there. -/
def restOfLine (c : Cursor) : Except Stop Cursor :=
  let c := c.skip (· = ' ')
  let c := if c.peek 0 = '#' then c.skip (!isBreak ·) else c
  if isBreakOrEnd (c.peek 0) then .ok c.lineBreak.2 else .error .malformed

end Cursor
end TunnelSettings.Yaml
