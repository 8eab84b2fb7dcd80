import TunnelSettings.Failure
import TunnelSettings.Number.Decimal
import TunnelSettings.Number.Integer
import TunnelSettings.Value.Basic

/-!
Reading JSON. Besides the standard forms, the names of not-a-number and of the two infinities are read
as numbers. Of two members of one name the later counts, at the place of the earlier. Every step hands on
the characters that are left, and a fault names the place where it stands by how many are left there.
-/
namespace TunnelSettings.Json

/-- What ends the reading of a value: a fault before the last `left` characters, or a number beyond the
limits. -/
inductive Stop where
  | at (fault : Fault) (left : Nat)
  | number (fault : NumberFault)

def isSpace (c : Char) : Bool := c = ' ' || c = '\t' || c = '\n' || c = '\r'

def skipSpace (cs : List Char) : List Char := cs.dropWhile isSpace

/-- The number that four hexadecimal digits write. -/
def hexValue? (cs : List Char) : Option Nat :=
  if cs.all (Text.isBaseDigit 16) then some (Text.digitsValue 16 cs) else none

/-- The character that a single letter after a backslash stands for. -/
def escaped? : Char → Option Char
  | '"' => some '"'
  | '\\' => some '\\'
  | '/' => some '/'
  | 'b' => some '\x08'
  | 'f' => some '\x0c'
  | 'n' => some '\n'
  | 'r' => some '\r'
  | 't' => some '\t'
  | _ => none

/-- What stands for half a surrogate pair without its other half. -/
def replacement : Char := '\ufffd'

def charOrReplacement (n : Nat) : Char := if n.isValidChar then Char.ofNat n else replacement

def isHighSurrogate (n : Nat) : Bool := 0xD800 ≤ n && n < 0xDC00

def isLowSurrogate (n : Nat) : Bool := 0xDC00 ≤ n && n < 0xE000

/-- The second half of a surrogate pair: its code, if it is an escape, and the characters behind it. -/
def secondHalf : List Char → Except Stop (Option (Nat × List Char))
  | '\\' :: 'u' :: a :: b :: c :: d :: e :: rest =>
    match hexValue? [a, b, c, d] with
    | none => .error (.at .unicodeEscape (rest.length + 6))
    | some n => .ok (some (n, e :: rest))
  | _ => .ok none

/-- An escape of a code unit, from behind its `u`: the character, and what is left. -/
def readUnit : List Char → Except Stop (Char × List Char)
  | a :: b :: c :: d :: e :: rest => do
    match hexValue? [a, b, c, d] with
    | none => .error (.at .unicodeEscape (rest.length + 6))
    | some n =>
      if isHighSurrogate n then
        match ← secondHalf (e :: rest) with
        | some (m, after) =>
          if isLowSurrogate m then
            return (charOrReplacement (0x10000 + (n - 0xD800) * 0x400 + (m - 0xDC00)), after)
          else return (replacement, e :: rest)
        | none => return (replacement, e :: rest)
      else return (charOrReplacement n, e :: rest)
  | cs => .error (.at .unicodeEscape (cs.length + 1))

/-- The rest of a text behind its opening quote. `start` counts the characters from that quote on,
`done` holds the characters read so far, the last one first, and `fuel` bounds the characters. -/
def readText (start : Nat) : Nat → List Char → List Char → Except Stop (String × List Char)
  | 0, _, _ => .error (.at .unterminated start)
  | _ + 1, _, [] => .error (.at .unterminated start)
  | _ + 1, done, '"' :: cs => .ok (.ofList done.reverse, cs)
  | _ + 1, _, ['\\'] => .error (.at .unterminated start)
  | fuel + 1, done, '\\' :: 'u' :: cs => do
    let (c, rest) ← readUnit cs
    readText start fuel (c :: done) rest
  | fuel + 1, done, '\\' :: c :: cs =>
    match escaped? c with
    | some e => readText start fuel (e :: done) cs
    | none => .error (.at .escape (cs.length + 2))
  | fuel + 1, done, c :: cs =>
    if c.toNat < 32 then .error (.at .controlCharacter (cs.length + 1))
    else readText start fuel (c :: done) cs

/-- The digits before the point of a number: a lone zero, or digits that do not start with one. -/
def wholeDigits : List Char → List Char
  | '0' :: _ => ['0']
  | cs => cs.takeWhile Char.isDigit

/-- The point and the digits behind it, if there are any. -/
def fractionPart : List Char → List Char
  | '.' :: cs =>
    let digits := cs.takeWhile Char.isDigit
    if digits.isEmpty then [] else '.' :: digits
  | _ => []

/-- The mark of an exponent, its sign and its digits, if there are any. -/
def exponentPart : List Char → List Char
  | c :: cs =>
    if c = 'e' || c = 'E' then
      let sign := cs.take 1 |>.filter fun s => s = '+' || s = '-'
      let digits := (cs.drop sign.length).takeWhile Char.isDigit
      if digits.isEmpty then [] else c :: sign ++ digits
    else []
  | [] => []

/-- A number at the start of the text; without a fraction and an exponent it is whole. -/
def readNumber (cs : List Char) : Except Stop (Value × List Char) :=
  let sign := cs.take 1 |>.filter (· = '-')
  let body := cs.drop sign.length
  let whole := wholeDigits body
  if whole.isEmpty then .error (.at .noValue cs.length) else
    let afterWhole := body.drop whole.length
    let fraction := fractionPart afterWhole
    let afterFraction := afterWhole.drop fraction.length
    let exponent := exponentPart afterFraction
    let rest := afterFraction.drop exponent.length
    let numeral := sign ++ whole ++ fraction ++ exponent
    if fraction.isEmpty && exponent.isEmpty then
      match readInteger 10 numeral (.ofList numeral) with
      | .ok n => .ok (.int n, rest)
      | .error f => .error (.number f)
    else match readDecimal numeral (.ofList numeral) with
      | .ok x => .ok (.float x, rest)
      | .error f => .error (.number f)

/-- The values that are written as words. -/
def words : List (String × Value) := [
  ("null", .null), ("true", .bool true), ("false", .bool false), ("NaN", .float (.nan 0)),
  ("Infinity", .float (.infinite false)), ("-Infinity", .float (.infinite true))]

/-- The value that a word at the start of the text stands for. -/
def readWord (cs : List Char) : Option (Value × List Char) :=
  (words.find? fun w => w.1.toList.isPrefixOf cs).map fun w => (w.2, cs.drop w.1.length)

mutual

/-- One value, with nothing blank before it. `fuel` bounds the values still to come. -/
def readValue : Nat → List Char → Except Stop (Value × List Char)
  | 0, cs => .error (.at .noValue cs.length)
  | fuel + 1, cs =>
    match cs with
    | '"' :: rest => do
      let (s, after) ← readText cs.length (rest.length + 1) [] rest
      return (.text s, after)
    | '{' :: rest =>
      match skipSpace rest with
      | '}' :: after => .ok (.map [], after)
      | members => do
        let (entries, after) ← readMembers fuel members
        return (.map (Value.ofEntries entries), after)
    | '[' :: rest =>
      match skipSpace rest with
      | ']' :: after => .ok (.list [], after)
      | items => do
        let (xs, after) ← readItems fuel items
        return (.list xs, after)
    | _ =>
      match readWord cs with
      | some found => .ok found
      | none => readNumber cs

/-- The members of an object up to its end. -/
def readMembers : Nat → List Char → Except Stop (List (Value × Value) × List Char)
  | 0, cs => .error (.at .noValue cs.length)
  | fuel + 1, cs =>
    match cs with
    | '"' :: rest => do
      let (name, afterName) ← readText cs.length (rest.length + 1) [] rest
      match skipSpace afterName with
      | ':' :: afterColon =>
        let (v, afterValue) ← readValue fuel (skipSpace afterColon)
        match skipSpace afterValue with
        | '}' :: after => return ([(.text name, v)], after)
        | ',' :: more =>
          let (entries, after) ← readMembers fuel (skipSpace more)
          return ((.text name, v) :: entries, after)
        | other => .error (.at .noComma other.length)
      | other => .error (.at .noColon other.length)
    | _ => .error (.at .noName cs.length)

/-- The items of an array up to its end. -/
def readItems : Nat → List Char → Except Stop (List Value × List Char)
  | 0, cs => .error (.at .noValue cs.length)
  | fuel + 1, cs => do
    let (v, afterValue) ← readValue fuel cs
    match skipSpace afterValue with
    | ']' :: after => return ([v], after)
    | ',' :: more =>
      let (xs, after) ← readItems fuel (skipSpace more)
      return (v :: xs, after)
    | other => .error (.at .noComma other.length)

end

/-- A value with nothing but blanks around it. -/
def readDocument (cs : List Char) : Except Stop Value :=
  match cs with
  | '\ufeff' :: _ => .error (.at .byteOrderMark cs.length)
  | _ => do
    let (v, rest) ← readValue (2 * cs.length + 2) (skipSpace cs)
    match skipSpace rest with
    | [] => return v
    | more => .error (.at .moreData more.length)

/-- The value that a whole text writes. -/
def read (text : String) : Except Failure Value :=
  match readDocument text.toList with
  | .ok v => .ok v
  | .error (.number fault) => .error (.number fault)
  | .error (.at fault left) =>
    .error (.json fault (.after (text.toList.take (text.toList.length - left))))

end TunnelSettings.Json
