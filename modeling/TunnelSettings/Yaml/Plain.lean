import TunnelSettings.Yaml.Quoted

/-!
Plain scalars, without quotes. One ends at a colon or comment that follows a blank, at the characters of
flow collections inside one, or at a line that is not indented deeply enough.
-/
namespace TunnelSettings.Yaml

def isFlowMark (c : Char) : Bool :=
  c = ',' || c = '[' || c = ']' || c = '{' || c = '}'

/-- The run of a plain scalar up to a blank or the end of the scalar. -/
def plainRun (inFlow : Bool) : List Char → List Char
  | [] => []
  | c :: cs =>
    let next := cs.head?.getD '\x00'
    let ends := isSpaceOrEnd c ||
      (c = ':' && (isSpaceOrEnd next || (inFlow && isFlowMark next))) ||
      (inFlow && (isFlowMark c || c = '?'))
    if ends then [] else c :: plainRun inFlow cs

/-- Further line breaks of a gap, with blanks before them, up to a document mark; whether one came. -/
def plainBreaks : Nat → Cursor → List Char × Bool × Cursor
  | 0, c => ([], false, c)
  | fuel + 1, c =>
    match (c.skip (· = ' ')).lineBreak with
    | (some b, after) =>
      if after.atDocumentMark then ([], true, after) else
        let (bs, marked, stop) := plainBreaks fuel after
        (b :: bs, marked, stop)
    | (none, here) => ([], false, here)

/-- The gap behind a run: what it adds to the scalar, whether a line ended in it, and the place behind
it. Nothing is added before a document mark. -/
def plainGap (c : Cursor) : List Char × Bool × Cursor :=
  let (blanks, here) := c.take (· = ' ')
  match here.lineBreak with
  | (none, _) => (blanks, false, here)
  | (some b, after) =>
    if after.atDocumentMark then ([], true, after) else
      let (bs, marked, stop) := plainBreaks (after.rest.length + 1) after
      (if marked then [] else folded b bs, true, stop)

/-- Runs and gaps of a plain scalar that must be indented to `indent`; `gap` stands before the next run.
The flag says whether a line ended behind the last run. -/
def plainRuns (inFlow : Bool) (indent : Int) : Nat → List Char → Bool → Cursor →
    List Char × Bool × Cursor
  | 0, _, broken, c => ([], broken, c)
  | fuel + 1, gap, broken, c =>
    let run := if c.peek 0 = '#' then [] else plainRun inFlow c.rest
    if run.isEmpty then ([], broken, c) else
      let (next, lineEnded, stop) := plainGap (c.advance run.length)
      if next.isEmpty || stop.peek 0 = '#' || (!inFlow && (stop.column : Int) < indent) then
        (gap ++ run, lineEnded, stop)
      else
        let (more, lineEnded, stop) := plainRuns inFlow indent fuel next lineEnded stop
        (gap ++ run ++ more, lineEnded, stop)

/-- A plain scalar, whether a line ended behind its last run, and the place reached. -/
def readPlain (inFlow : Bool) (indent : Int) (c : Cursor) : String × Bool × Cursor :=
  let (cs, lineEnded, stop) := plainRuns inFlow indent (c.rest.length + 1) [] false c
  (.ofList cs, lineEnded, stop)

end TunnelSettings.Yaml
