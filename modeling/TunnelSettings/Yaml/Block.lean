import TunnelSettings.Yaml.Cursor

/-!
Block scalars, literal or folded. Their header says how deep they are indented, if the first line does
not show it, and what becomes of the line breaks at their end.
-/
namespace TunnelSettings.Yaml

/-- What becomes of the line breaks at the end of a block scalar. -/
inductive Chomping where
  | strip | clip | keep
  deriving DecidableEq

def chomping? : Char → Option Chomping
  | '+' => some .keep
  | '-' => some .strip
  | _ => none

/-- An indentation mark: a digit, but not zero. -/
def indentMark (c : Cursor) : Except Stop (Option Nat × Cursor) :=
  let ch := c.peek 0
  if ch = '0' then .error .malformed
  else if ch.isDigit then .ok (some (ch.toNat - 48), c.step)
  else .ok (none, c)

def chompingMark (c : Cursor) : Option Chomping × Cursor :=
  match chomping? (c.peek 0) with
  | some k => (some k, c.step)
  | none => (none, c)

/-- The marks of a header, in either order. -/
def blockHeader (c : Cursor) : Except Stop (Chomping × Option Nat × Cursor) := do
  let (first, here) := chompingMark c
  let (increment, here) ← indentMark here
  let (second, here) := if first.isNone && increment.isSome then chompingMark here else (none, here)
  if isBlankOrEnd (here.peek 0) then return (((first.or second).getD .clip), increment, here)
  else throw .malformed

/-- Line breaks before the first line, and the greatest indentation seen among them. -/
def leadingBreaks : Nat → Nat → Cursor → List Char × Nat × Cursor
  | 0, deepest, c => ([], deepest, c)
  | fuel + 1, deepest, c =>
    let here := c.skip (· = ' ')
    let deepest := max deepest here.column
    match here.lineBreak with
    | (some b, after) =>
      let (bs, deepest, stop) := leadingBreaks fuel deepest after
      (b :: bs, deepest, stop)
    | (none, _) => ([], deepest, here)

/-- Past at most `n` blanks. -/
def skipBlanks (c : Cursor) (n : Nat) : Cursor :=
  c.advance ((c.rest.take n).takeWhile (· = ' ')).length

/-- Line breaks between lines that are indented to `indent`. -/
def blockBreaks (indent : Nat) : Nat → Cursor → List Char × Cursor
  | 0, c => ([], c)
  | fuel + 1, c =>
    let here := skipBlanks c (indent - c.column)
    match here.lineBreak with
    | (some b, after) =>
      let (bs, stop) := blockBreaks indent fuel after
      (b :: bs, stop)
    | (none, _) => ([], here)

/-- The lines of a block scalar; `before` are the line breaks before the first one. The result holds the
text up to the last line, the break that ends it, and the breaks behind it. -/
def blockLines (isFolded : Bool) (indent : Nat) : Nat → List Char → Cursor →
    List Char × List Char × List Char × Cursor
  | 0, before, c => ([], [], before, c)
  | fuel + 1, before, c =>
    if c.column = indent && c.peek 0 ≠ '\x00' then
      let startsBlank := isSpaceOrTab (c.peek 0)
      let (line, here) := c.take (!isBreak ·)
      let (b, after) := here.lineBreak
      let ending := b.toList
      let (bs, next) := blockBreaks indent (after.rest.length + 1) after
      if next.column = indent && next.peek 0 ≠ '\x00' then
        let joint :=
          if isFolded && ending = ['\n'] && !startsBlank && !isSpaceOrTab (next.peek 0) then
            (if bs.isEmpty then [' '] else [])
          else ending
        let (more, last, trailing, stop) := blockLines isFolded indent fuel bs next
        (before ++ line ++ joint ++ more, last, trailing, stop)
      else (before ++ line, ending, bs, next)
    else ([], [], before, c)

/-- A block scalar, from its mark on, inside a collection that is indented to `parent`. -/
def readBlock (isFolded : Bool) (parent : Int) (c : Cursor) : Except Stop (String × Cursor) := do
  let (chomping, increment, afterHeader) ← blockHeader c.step
  let body ← afterHeader.restOfLine
  let least := max (parent + 1) 1 |>.toNat
  let (indent, before, first) := match increment with
    | some n =>
      let indent := least + n - 1
      let (bs, here) := blockBreaks indent (body.rest.length + 1) body
      (indent, bs, here)
    | none =>
      let (bs, deepest, here) := leadingBreaks (body.rest.length + 1) 0 body
      (max least deepest, bs, here)
  let (text, last, trailing, stop) := blockLines isFolded indent (first.rest.length + 1) before first
  let ending := match chomping with
    | .strip => []
    | .clip => last
    | .keep => last ++ trailing
  return (.ofList (text ++ ending), stop)

end TunnelSettings.Yaml
