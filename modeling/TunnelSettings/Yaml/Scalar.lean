import TunnelSettings.Number.Decimal
import TunnelSettings.Number.Integer
import TunnelSettings.Text.Base64
import TunnelSettings.Text.Casing
import TunnelSettings.Value.Basic
import TunnelSettings.Yaml.Cursor

/-!
What scalars stand for. `implicitTag` tells the kind of a plain scalar from its spelling; `scalarOf?` gives
what a scalar of a known kind stands for.
-/
namespace TunnelSettings.Yaml

def standardTag (name : String) : String := "tag:yaml.org,2002:" ++ name

/-! ### Spellings -/

def isSignChar (c : Char) : Bool := c = '+' || c = '-'

def dropSign : List Char → List Char
  | c :: cs => if isSignChar c then cs else c :: cs
  | [] => []

/-- At least one character, all of a class. -/
def someAll (p : Char → Bool) (cs : List Char) : Bool := !cs.isEmpty && cs.all p

def isDigitOrMark (c : Char) : Bool := c.isDigit || c = '_'

/-- The parts of a text between colons, given the part read so far (its last character first). -/
def colonPartsFrom (part : List Char) : List Char → List (List Char)
  | [] => [part.reverse]
  | ':' :: cs => part.reverse :: colonPartsFrom [] cs
  | c :: cs => colonPartsFrom (c :: part) cs

def colonParts (cs : List Char) : List (List Char) := colonPartsFrom [] cs

/-- A part of a number in base sixty behind the first: up to two digits, below sixty. -/
def isSixtieth : List Char → Bool
  | [d] => d.isDigit
  | [t, d] => '0' ≤ t && t ≤ '5' && d.isDigit
  | _ => false

def isBool (cs : List Char) : Bool :=
  ["yes", "Yes", "YES", "no", "No", "NO", "true", "True", "TRUE", "false", "False", "FALSE", "on", "On",
    "ON", "off", "Off", "OFF"].contains (String.ofList cs)

/-- An exponent: a letter `e`, a sign and digits. -/
def isExponent : List Char → Bool
  | c :: s :: cs => (c = 'e' || c = 'E') && isSignChar s && someAll Char.isDigit cs
  | _ => false

def startsWithDigit (cs : List Char) : Bool := cs.head?.any Char.isDigit

/-- Digits behind a point and perhaps an exponent. -/
def isFractionTail (cs : List Char) : Bool :=
  let tail := cs.dropWhile isDigitOrMark
  tail.isEmpty || isExponent tail

def isFloat (cs : List Char) : Bool :=
  let body := dropSign cs
  let pointed :=
    match body.dropWhile isDigitOrMark with
    | '.' :: tail => startsWithDigit body && isFractionTail tail
    | _ => false
  let bare :=
    match cs with
    | '.' :: tail => startsWithDigit tail && isFractionTail tail
    | _ => false
  let sexagesimal :=
    match body.span (· ≠ '.') with
    | (whole, _ :: fraction) =>
      match colonParts whole with
      | first :: second :: rest =>
        startsWithDigit first && first.all isDigitOrMark && (second :: rest).all isSixtieth &&
          fraction.all isDigitOrMark
      | _ => false
    | _ => false
  pointed || bare || sexagesimal ||
    [".inf", ".Inf", ".INF"].contains (String.ofList body) ||
    [".nan", ".NaN", ".NAN"].contains (String.ofList cs)

def isInt (cs : List Char) : Bool :=
  let plain (cs : List Char) : Bool :=
    cs.all isDigitOrMark && cs.head?.any fun c => c.isDigit && c ≠ '0'
  match dropSign cs with
  | '0' :: 'b' :: ds => someAll (fun c => c = '0' || c = '1' || c = '_') ds
  | '0' :: 'x' :: ds => someAll (fun c => Text.isBaseDigit 16 c || c = '_') ds
  | ['0'] => true
  | '0' :: ds => ds.all fun c => ('0' ≤ c && c ≤ '7') || c = '_'
  | body =>
    match colonParts body with
    | first :: rest => plain first && rest.all isSixtieth
    | [] => false

/-- One or two digits at the start, and the rest. -/
def upToTwoDigits : List Char → Option (Nat × List Char)
  | a :: b :: cs =>
    if a.isDigit then
      if b.isDigit then some (Text.digitsValue 10 [a, b], cs) else some (Text.digitsValue 10 [a], b :: cs)
    else none
  | [a] => if a.isDigit then some (Text.digitsValue 10 [a], []) else none
  | [] => none

/-- Exactly `n` digits at the start, and the rest. -/
def exactDigits (n : Nat) (cs : List Char) : Option (Nat × List Char) :=
  let digits := cs.take n
  if digits.length = n && digits.all Char.isDigit then some (Text.digitsValue 10 digits, cs.drop n)
  else none

def expectChar (c : Char) : List Char → Option (List Char)
  | d :: cs => if c = d then some cs else none
  | [] => none

/-- A distance from universal time in seconds: `Z`, or a sign with hours and perhaps minutes. -/
def readOffset (cs : List Char) : Option (Option Int) :=
  match cs.dropWhile isSpaceOrTab with
  | [] => if cs.isEmpty then some none else none
  | ['Z'] => some (some 0)
  | s :: digits =>
    if isSignChar s then do
      let (hours, rest) ← upToTwoDigits digits
      let minutes ← match rest with
        | [] => some 0
        | _ => do
          let (m, left) ← exactDigits 2 (← expectChar ':' rest)
          if left.isEmpty then some m else none
      let seconds : Int := hours * 3600 + minutes * 60
      some (some (if s = '-' then -seconds else seconds))
    else none

/-- The digits of a fraction of a second as millionths; further digits are dropped. -/
def microseconds (digits : List Char) : Nat :=
  let six := digits.take 6
  Text.digitsValue 10 (six ++ List.replicate (6 - six.length) '0')

/-- A date or a point in time as it is spelled; nothing is said about whether it exists. -/
def readTimestamp (cs : List Char) : Option (Date ⊕ Moment) := do
  let (year, rest) ← exactDigits 4 cs
  let (month, rest) ← upToTwoDigits (← expectChar '-' rest)
  let (day, rest) ← upToTwoDigits (← expectChar '-' rest)
  match rest with
  | [] => return .inl ⟨year, month, day⟩
  | c :: more =>
    let time ← if c = 'T' || c = 't' then some more
      else if isSpaceOrTab c then some (more.dropWhile isSpaceOrTab) else none
    let (hour, rest) ← upToTwoDigits time
    let (minute, rest) ← exactDigits 2 (← expectChar ':' rest)
    let (second, rest) ← exactDigits 2 (← expectChar ':' rest)
    let (micro, rest) := match rest with
      | '.' :: more => (microseconds (more.takeWhile Char.isDigit), more.dropWhile Char.isDigit)
      | _ => (0, rest)
    let offset ← readOffset rest
    return .inr ⟨⟨year, month, day⟩, hour, minute, second, micro, offset⟩

/-- A plain scalar is a date only if its month and day have two digits each. -/
def isTimestamp (cs : List Char) : Bool :=
  match readTimestamp cs with
  | some (.inl _) => cs.length = 10
  | some (.inr _) => true
  | none => false

/-- The tag of a plain scalar. -/
def implicitTag (text : String) : String :=
  let cs := text.toList
  let cs := if cs.getLast? = some '\n' && 1 < cs.length then cs.dropLast else cs
  standardTag <|
    if isBool cs then "bool"
    else if isFloat cs then "float"
    else if isInt cs then "int"
    else if cs = ['<', '<'] then "merge"
    else if ["", "~", "null", "Null", "NULL"].contains (String.ofList cs) then "null"
    else if isTimestamp cs then "timestamp"
    else if cs = ['='] then "value"
    else "str"

/-! ### Values -/

/-- What a scalar stands for. -/
inductive Scalar where
  | null
  | bool (b : Bool)
  | int (n : Int)
  | float (x : Binary64)
  | text (s : String)
  | bytes (data : List UInt8)
  | date (d : Date)
  | moment (t : Moment)
  deriving Inhabited

def Scalar.value : Scalar → Value
  | null => .null
  | bool b => .bool b
  | int n => .int n
  | float x => .float x
  | text s => .text s
  | bytes data => .bytes data
  | date d => .date d
  | moment t => .moment t

def boolWords : List (String × Bool) := [
  ("yes", true), ("no", false), ("true", true), ("false", false), ("on", true), ("off", false)]

/-- The sign of a numeral and the rest, without the underscores; there must be something. -/
def signedBody (s : String) : Except Fault (Bool × List Char) :=
  let cs := s.toList.filter (· ≠ '_')
  if cs.isEmpty then .error .emptyNumeral
  else .ok (Text.splitSign cs)

/-- An integer that a message would show as it is spelled. -/
def integerOf (base : Nat) (cs : List Char) : Except Fault Int :=
  (readInteger base cs (Text.quoted (.ofList cs))).mapError .number

def decimalOf (cs : List Char) : Except Fault Binary64 :=
  (readDecimal cs (Text.quoted (.ofList cs))).mapError .number

def intOf (s : String) : Except Fault Int := do
  let (negative, body) ← signedBody s
  let n ← match body with
    | [] => throw .emptyNumeral
    | ['0'] => pure 0
    | '0' :: 'b' :: ds => integerOf 2 ds
    | '0' :: 'x' :: ds => integerOf 16 ds
    | '0' :: _ => integerOf 8 body
    | _ =>
      if body.contains ':' then do
        let parts ← (colonParts body).mapM (integerOf 10)
        pure (parts.foldl (fun n d => n * 60 + d) 0)
      else integerOf 10 body
  return if negative then -n else n

/-- The sum of parts in base sixty, the last part counting once. -/
def sixtieths (parts : List Binary64) : Except Fault Binary64 := do
  let step (acc : Binary64 × Int) (digit : Binary64) : Except Fault (Binary64 × Int) := do
    let weight ← (Binary64.ofInt acc.2).mapError .number
    return (acc.1.add (digit.mul weight), acc.2 * 60)
  return (← parts.reverse.foldlM step (Binary64.zero false, 1)).1

def floatOf (s : String) : Except Fault Binary64 := do
  let (negative, body) ← signedBody (Text.lower s)
  let x ← if body = ".inf".toList then pure (.infinite false)
    else if body = ".nan".toList then pure (.nan 0)
    else if body.contains ':' then do sixtieths (← (colonParts body).mapM decimalOf)
    else decimalOf body
  return if negative then x.negate else x

def timestampOf (s : String) : Except Fault Scalar :=
  let cs := s.toList
  let cs := if cs.getLast? = some '\n' then cs.dropLast else cs
  match readTimestamp cs with
  | none => .error .notTimestamp
  | some (.inl d) => do
    d.check.mapError .calendar
    return .date d
  | some (.inr t) => do
    t.check.mapError .calendar
    return .moment t

def bytesOf (s : String) : Option (List UInt8) :=
  if s.toList.all (·.toNat < 128) then Text.lenientBytes 0 0 0 s.toList else none

/-- What a scalar with a standard tag stands for; `none` if scalars have no such kind. -/
def scalarOf? (kind : String) (s : String) : Option (Except Stop Scalar) :=
  let lift (r : Except Fault Scalar) : Option (Except Stop Scalar) := some (r.mapError .fault)
  match kind with
  | "null" => lift (.ok .null)
  | "str" => lift (.ok (.text s))
  | "bool" => lift <| match boolWords.lookup (Text.lower s) with
    | some b => .ok (.bool b)
    | none => .error (.notBooleanWord (Text.lower s))
  | "int" => lift ((intOf s).map .int)
  | "float" => lift ((floatOf s).map .float)
  | "timestamp" => lift (timestampOf s)
  | "binary" => some <| match bytesOf s with
    | some bs => .ok (.bytes bs)
    | none => .error .malformed
  | _ => none

end TunnelSettings.Yaml
