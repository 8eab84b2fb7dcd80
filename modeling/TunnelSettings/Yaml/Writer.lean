import TunnelSettings.Number.Shortest
import TunnelSettings.Text.Quoted
import TunnelSettings.Yaml.Scalar

/-!
Writing YAML in block style, in ASCII, with long scalars folded behind column 80. A text is written
plain if it reads back as the same text, in single quotes if those can hold it, else in double quotes.
Lists inside mappings are not indented further than the keys.
-/
namespace TunnelSettings.Yaml

/-! ### Which style a text admits -/

def isTextBreak (c : Char) : Bool := c = '\n' || c = '\x85' || c = '\u2028' || c = '\u2029'

/-- Whether a character only stands in double quotes: all but line feeds and printable ASCII. -/
def isSpecial (c : Char) : Bool := !(c = '\n' || (32 ≤ c.toNat && c.toNat ≤ 126))

/-- Whether two neighbours stand somewhere in a text. -/
def hasPair (p q : Char → Bool) : List Char → Bool
  | a :: b :: cs => (p a && q b) || hasPair p q (b :: cs)
  | _ => false

/-- Whether a mark of structure could be seen behind the first character. -/
def hasInnerMark : List Char → Bool
  | a :: b :: cs =>
    (b = ':' && isSpaceOrEnd (cs.head?.getD '\x00')) || (b = '#' && isSpaceOrEnd a) || hasInnerMark (b :: cs)
  | _ => false

/-- Whether a plain scalar in block context would be taken for something else at its beginning. -/
def beginsWithMark : List Char → Bool
  | [] => false
  | c :: cs =>
    c = '{' || c = '}' || "#,[]&*!|>'\"%@`".toList.contains c ||
      ((c = '?' || c = ':' || c = '-') && isSpaceOrEnd (cs.head?.getD '\x00')) ||
      "---".toList.isPrefixOf (c :: cs) || "...".toList.isPrefixOf (c :: cs)

/-- The ways to write a text. -/
inductive ScalarStyle where
  | plain | single | double
  deriving DecidableEq, Repr

/-- The style of a text. Special characters, and blanks next to a line break, need double quotes. -/
def styleOf (cs : List Char) : ScalarStyle :=
  let isSpace (c : Char) : Bool := c = ' '
  let blankEdge := [cs.head?, cs.getLast?].any fun c => c.any fun c => isSpace c || isTextBreak c
  let readsBack := implicitTag (.ofList cs) = standardTag "str"
  if cs.any isSpecial || hasPair isSpace isTextBreak cs || hasPair isTextBreak isSpace cs then .double
  else if readsBack && !blankEdge && !cs.any isTextBreak && !beginsWithMark cs && !hasInnerMark cs then
    .plain
  else .single

/-! ### Writing with folds -/

/-- Characters written so far, the last one first, and the column behind them. -/
structure Sink where
  out : List Char
  column : Nat

namespace Sink

def put (s : Sink) (cs : List Char) : Sink := ⟨cs.reverse ++ s.out, s.column + cs.length⟩

def newLine (s : Sink) (indent : Nat) : Sink :=
  ⟨List.replicate indent ' ' ++ '\n' :: s.out, indent⟩

end Sink

/-- Lines are folded behind this column. -/
def foldColumn : Nat := 80

/-- Runs of blanks, of line breaks and of other characters. -/
def runs (cs : List Char) : List (List Char) :=
  let same (a b : Char) : Bool :=
    (a = ' ') = (b = ' ') && isTextBreak a = isTextBreak b
  cs.splitBy same

/-- Write the runs of a plain scalar: a single blank may become a fold. -/
def putPlain (indent : Nat) (s : Sink) : List (List Char) → Sink
  | [] => s
  | run :: more =>
    if run = [' '] && foldColumn < s.column then putPlain indent (s.newLine indent) more
    else putPlain indent (s.put run) more

/-- Write the runs of a scalar in single quotes: a single blank inside may become a fold, and a line
break is doubled. -/
def putSingle (indent : Nat) (first : Bool) (s : Sink) : List (List Char) → Sink
  | [] => s
  | run :: more =>
    let next :=
      if run = [' '] && foldColumn < s.column && !first && !more.isEmpty then s.newLine indent
      else if run.head?.any isTextBreak then
        ((List.replicate run.length ()).foldl (fun s _ => s.newLine 0) s).newLine indent
      else s.put (run.flatMap fun c => if c = '\'' then ['\'', '\''] else [c])
    putSingle indent false next more

/-- The letter that stands for a character after a backslash. -/
def escapeLetters : List (Char × Char) := [
  ('\x00', '0'), ('\x07', 'a'), ('\x08', 'b'), ('\t', 't'), ('\n', 'n'), ('\x0b', 'v'), ('\x0c', 'f'),
  ('\r', 'r'), ('\x1b', 'e'), ('"', '"'), ('\\', '\\'), ('\x85', 'N'), ('\xa0', '_'), ('\u2028', 'L'),
  ('\u2029', 'P')]

def upperHex (width n : Nat) : List Char := (Text.hexDigits width n).map Char.toUpper

def escapeSequence (c : Char) : List Char :=
  match escapeLetters.lookup c with
  | some e => ['\\', e]
  | none =>
    let n := c.toNat
    if n < 0x100 then '\\' :: 'x' :: upperHex 2 n
    else if n < 0x10000 then '\\' :: 'u' :: upperHex 4 n
    else '\\' :: 'U' :: upperHex 8 n

def needsEscape (c : Char) : Bool :=
  c = '"' || c = '\\' || !(32 ≤ c.toNat && c.toNat ≤ 126)

/-- Write a scalar in double quotes. `pending` are characters not yet written, the last one first; a fold
comes before a blank or behind an escape, and a blank at the start of the next line is escaped. -/
def putDouble (indent : Nat) (first : Bool) (pending : List Char) (s : Sink) : List Char → Sink
  | [] => s.put pending.reverse
  | c :: cs =>
    let special := needsEscape c
    let s := if special then (s.put pending.reverse).put (escapeSequence c) else s
    let pending := if special then [] else pending
    let reach := if special then s.column - 1 else s.column + pending.length
    let mayFold := !first && !cs.isEmpty && (c = ' ' || special || pending.isEmpty)
    let rest := if special then [] else [c]
    if mayFold && foldColumn < reach then
      let s := ((s.put pending.reverse).put ['\\']).newLine indent
      let next := if special then cs.head? else some c
      putDouble indent false rest (if next = some ' ' then s.put ['\\'] else s) cs
    else putDouble indent false (rest ++ pending) s cs

/-- Write a text behind a mark, with lines going on at `indent`. -/
def putText (indent : Nat) (s : Sink) (text : String) : Sink :=
  let cs := text.toList
  let s := s.put [' ']
  match styleOf cs with
  | .plain => putPlain indent s (runs cs)
  | .single => (putSingle indent true (s.put ['\'']) (runs cs)).put ['\'']
  | .double => (putDouble indent true [] (s.put ['"']) cs).put ['"']

/-- Numbers are laid out as everywhere, with names of their own for those that are not finite. -/
def numberLayout : DecimalLayout := { Binary64.plainLayout with infinity := ".inf", nan := ".nan" }

/-- The text of a number, with a point before an exponent. -/
def floatText (x : Binary64) : List Char :=
  let cs := (x.write numberLayout).toList
  if cs.contains '.' || !cs.contains 'e' then cs
  else cs.takeWhile (· ≠ 'e') ++ ".0".toList ++ cs.dropWhile (· ≠ 'e')

/-- Write a key, which is never folded. -/
def putKey (s : Sink) (key : Value) : Except Failure Sink :=
  match key with
  | .text name =>
    let cs := name.toList
    .ok (match styleOf cs with
      | .plain => s.put cs
      | .single => s.put ('\'' :: cs.flatMap (fun c => if c = '\'' then ['\'', '\''] else [c]) ++ ['\''])
      | .double => s.put ('"' :: cs.flatMap (fun c => if needsEscape c then escapeSequence c else [c]) ++ ['"']))
  | k => .error (.notJson k.shortKind)

mutual

/-- Write a value behind a key or a dash of a collection at `indent`. -/
def putValue (indent : Nat) (behindKey : Bool) (s : Sink) : Value → Except Failure Sink
  | .null => .ok (s.put " null".toList)
  | .bool b => .ok (s.put (if b then " true" else " false").toList)
  | .int n => match writeInteger n with
    | .ok text => .ok (s.put (' ' :: text.toList))
    | .error f => .error (.number f)
  | .float x => .ok (s.put (' ' :: floatText x))
  | .text t => .ok (putText (indent + 2) s t)
  | .list [] => .ok (s.put " []".toList)
  | .map [] => .ok (s.put [' ', '{', '}'])
  | .list xs =>
    if behindKey then putItems indent false s xs else putItems (indent + 2) true (s.put [' ']) xs
  | .map es =>
    if behindKey then putEntries (indent + 2) false s es
    else putEntries (indent + 2) true (s.put [' ']) es
  | v => .error (.notJson v.shortKind)

/-- Write the items of a list on lines of their own; where `here` is set, the first one stands here. -/
def putItems (indent : Nat) (here : Bool) (s : Sink) : List Value → Except Failure Sink
  | [] => .ok s
  | x :: xs => do
    let s := if here then s else s.newLine indent
    putItems indent false (← putValue indent false (s.put ['-']) x) xs

def putEntries (indent : Nat) (here : Bool) (s : Sink) : List (Value × Value) → Except Failure Sink
  | [] => .ok s
  | (k, v) :: es => do
    let s ← putKey (if here then s else s.newLine indent) k
    putEntries indent false (← putValue indent true (s.put [':']) v) es

end

/-- Write the mapping of a document. -/
def write (entries : List (Value × Value)) : Except Failure String := do
  let start : Sink := ⟨[], 0⟩
  let s ← if entries.isEmpty then pure (start.put ['{', '}']) else putEntries 0 true start entries
  return .ofList (s.newLine 0).out.reverse

end TunnelSettings.Yaml
