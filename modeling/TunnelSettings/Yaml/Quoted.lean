import TunnelSettings.Yaml.Cursor

/-!
Scalars in quotes. Line breaks inside the quotes are folded: the first one becomes a blank unless more
follow, which then stand for themselves. A single quote is doubled inside single quotes; inside double
quotes a backslash begins an escape.
-/
namespace TunnelSettings.Yaml

/-- The character that a letter after a backslash stands for. -/
def escapes : List (Char × Char) := [
  ('0', '\x00'), ('a', '\x07'), ('b', '\x08'), ('t', '\t'), ('\t', '\t'), ('n', '\n'), ('v', '\x0b'),
  ('f', '\x0c'), ('r', '\r'), ('e', '\x1b'), (' ', ' '), ('"', '"'), ('\\', '\\'), ('/', '/'),
  ('N', '\x85'), ('_', '\xa0'), ('L', '\u2028'), ('P', '\u2029')]

/-- The letters of escapes by number, with how many hexadecimal digits follow. -/
def codeLengths : List (Char × Nat) := [('x', 2), ('u', 4), ('U', 8)]

/-- The character of a code, where there is one. Half a surrogate pair becomes the replacement. -/
def charOfCode (n : Nat) : Except Stop Char :=
  if 0x7FFFFFFF < n then .error (.fault .codePointTooLarge)
  else if 0x10FFFF < n then .error (.fault .codePoint)
  else .ok (if n.isValidChar then Char.ofNat n else '\ufffd')

/-- Line breaks with blanks around them; a document mark must not stand between them. -/
def foldedBreaks : Nat → Cursor → Except Stop (List Char × Cursor)
  | 0, _ => .error .malformed
  | fuel + 1, c => do
    if c.atDocumentMark then throw .malformed
    match (c.skip isSpaceOrTab).lineBreak with
    | (some b, after) =>
      let (bs, stop) ← foldedBreaks fuel after
      return (b :: bs, stop)
    | (none, here) => return ([], here)

/-- A first line break and those after it, folded. -/
def folded (first : Char) (more : List Char) : List Char :=
  (if first ≠ '\n' then [first] else if more.isEmpty then [' '] else []) ++ more

/-- The blanks and line breaks between two runs of other characters. -/
def quotedGap (c : Cursor) : Except Stop (List Char × Cursor) := do
  let (blanks, here) := c.take isSpaceOrTab
  if here.peek 0 = '\x00' then throw .malformed
  match here.lineBreak with
  | (some b, after) =>
    let (bs, stop) ← foldedBreaks (after.rest.length + 1) after
    return (folded b bs, stop)
  | (none, _) => return (blanks, here)

/-- An escape, from behind the backslash. -/
def readEscape (c : Cursor) : Except Stop (List Char × Cursor) :=
  let ch := c.peek 0
  match escapes.lookup ch, codeLengths.lookup ch with
  | some e, _ => .ok ([e], c.step)
  | none, some n =>
    let digits := c.step.rest.take n
    if digits.length = n && digits.all (Text.isBaseDigit 16) then do
      let e ← charOfCode (Text.digitsValue 16 digits)
      return ([e], c.step.advance n)
    else .error .malformed
  | none, none =>
    match c.lineBreak with
    | (some _, after) => foldedBreaks (after.rest.length + 1) after
    | (none, _) => .error .malformed

/-- Characters that stand for themselves in either kind of quotes. -/
def isQuotedChar (c : Char) : Bool :=
  !(c = '\'' || c = '"' || c = '\\' || isSpaceOrEnd c)

/-- A run without blanks or breaks, up to the closing quote, a blank, a break or the end. -/
def quotedRun (double : Bool) : Nat → Cursor → Except Stop (List Char × Cursor)
  | 0, _ => .error .malformed
  | fuel + 1, c => do
    let (cs, here) := c.take isQuotedChar
    let ch := here.peek 0
    let step : Option (Except Stop (List Char × Cursor)) :=
      if !double && ch = '\'' && here.peek 1 = '\'' then some (.ok (['\''], here.advance 2))
      else if double && ch = '\'' || !double && (ch = '"' || ch = '\\') then some (.ok ([ch], here.step))
      else if double && ch = '\\' then some (readEscape here.step)
      else none
    match step with
    | none => return (cs, here)
    | some result =>
      let (part, after) ← result
      let (more, stop) ← quotedRun double fuel after
      return (cs ++ part ++ more, stop)

/-- Runs and gaps up to the closing quote. -/
def quotedRuns (double : Bool) : Nat → Cursor → Except Stop (List Char × Cursor)
  | 0, _ => .error .malformed
  | fuel + 1, c => do
    let (run, here) ← quotedRun double (c.rest.length + 1) c
    if here.peek 0 = (if double then '"' else '\'') then return (run, here.step)
    let (gap, after) ← quotedGap here
    let (more, stop) ← quotedRuns double fuel after
    return (run ++ gap ++ more, stop)

/-- A scalar in quotes, from its opening quote on. -/
def readQuoted (double : Bool) (c : Cursor) : Except Stop (String × Cursor) := do
  let (cs, stop) ← quotedRuns double (c.rest.length + 1) c.step
  return (.ofList cs, stop)

end TunnelSettings.Yaml
