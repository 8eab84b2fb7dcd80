import TunnelSettings.Yaml.Block
import TunnelSettings.Yaml.Plain

/-!
The tokens of a YAML text. Indentation shows as the tokens that begin and end block collections. A
scalar, alias or collection may turn out to be a key only when a colon follows it on its line; such
places are remembered, one for each depth of flow collections, and the key's token is put in afterwards.
-/
namespace TunnelSettings.Yaml

/-- The tokens of a document. -/
inductive Token where
  | yamlDirective (major : Nat)
  | tagDirective (handle lead : String)
  | otherDirective
  | documentStart | documentEnd
  | blockSequence | blockMapping | blockEnd
  | flowSequence | flowSequenceEnd | flowMapping | flowMappingEnd
  | key | value | entry | comma
  | alias (name : String)
  | anchor (name : String)
  /-- A tag: its handle, if it has one, and the rest. -/
  | tag (handle : Option String) (rest : String)
  | scalar (text : String) (plain : Bool)
  | streamEnd
  deriving DecidableEq

/-- A place that may turn out to be where a key begins. -/
structure KeyPlace where
  /-- The number of tokens before it. -/
  tokens : Nat
  /-- Whether it has to be a key. -/
  required : Bool
  index : Nat
  line : Nat
  column : Nat

/-- A text that is cut into tokens: those found so far, and what the next ones depend on. -/
structure Lexer where
  cursor : Cursor
  tokens : Array Token := #[]
  depth : Nat := 0
  indent : Int := -1
  indents : List Int := []
  /-- Whether a key may begin here. -/
  keyAllowed : Bool := true
  places : List (Nat × KeyPlace) := []
  finished : Bool := false

namespace Lexer

/-- Put a token behind the others. -/
def emit (l : Lexer) (t : Token) : Lexer := { l with tokens := l.tokens.push t }

def moveTo (l : Lexer) (c : Cursor) : Lexer := { l with cursor := c }

def place? (l : Lexer) : Option KeyPlace := l.places.lookup l.depth

/-- Forget the place of this depth, which must not be one that has to be a key. -/
def dropPlace (l : Lexer) : Except Stop Lexer :=
  if l.place?.any (·.required) then .error .malformed
  else .ok { l with places := l.places.filter (·.1 ≠ l.depth) }

/-- Remember this place, if a key may begin here. -/
def savePlace (l : Lexer) : Except Stop Lexer := do
  if !l.keyAllowed then return l
  let l ← l.dropPlace
  let c := l.cursor
  let place : KeyPlace :=
    { tokens := l.tokens.size, required := l.depth = 0 && l.indent = c.column, index := c.index,
      line := c.line, column := c.column }
  return { l with places := (l.depth, place) :: l.places }

/-- The greatest length of a key that is not marked as one. -/
def longestKey : Nat := 1024

/-- Whether a place is too far back, or on another line. -/
def isStale (l : Lexer) (p : KeyPlace) : Bool :=
  p.line ≠ l.cursor.line || longestKey < l.cursor.index - p.index

def dropStale (l : Lexer) : Except Stop Lexer :=
  if l.places.any fun e => l.isStale e.2 && e.2.required then .error .malformed
  else .ok { l with places := l.places.filter fun e => !l.isStale e.2 }

/-- The tokens before every place that may still turn out to be a key. -/
def settled (l : Lexer) : Array Token :=
  let pending := l.places.filter fun e => !l.isStale e.2
  l.tokens.take (pending.foldl (fun n e => min n e.2.tokens) l.tokens.size)

/-- Close the block collections that are indented more deeply than `column`. -/
def closeTo (column : Int) : Nat → Lexer → Lexer
  | 0, l => l
  | fuel + 1, l =>
    if column < l.indent then
      closeTo column fuel
        { l with indent := l.indents.head?.getD (-1), indents := l.indents.tail,
                 tokens := l.tokens.push .blockEnd }
    else l

/-- Close block collections, which only happens outside flow collections. -/
def unwind (l : Lexer) (column : Int) : Lexer :=
  if l.depth = 0 then closeTo column (l.indents.length + 1) l else l

/-- Put tokens in before the token with the given number. -/
def putIn (l : Lexer) (place : Nat) (ts : List Token) : Lexer :=
  { l with tokens := (l.tokens.toList.take place ++ ts ++ l.tokens.toList.drop place).toArray }

/-- Whether a collection at `column` is a new one, and the state with it begun. -/
def indentTo (l : Lexer) (column : Int) : Bool × Lexer :=
  if l.indent < column then
    (true, { l with indents := l.indent :: l.indents, indent := column })
  else (false, l)

/-- Begin a block collection here if that is not done yet. -/
def beginBlock (l : Lexer) (t : Token) : Lexer :=
  match l.indentTo l.cursor.column with
  | (true, l) => l.emit t
  | (false, l) => l

/-- Past blanks, comments and line breaks. -/
def skipToToken : Nat → Lexer → Lexer
  | 0, l => l
  | fuel + 1, l =>
    let c := l.cursor.skip (· = ' ')
    let c := if c.peek 0 = '#' then c.skip (!isBreak ·) else c
    match c.lineBreak with
    | (some _, after) =>
      skipToToken fuel { l with cursor := after, keyAllowed := l.keyAllowed || l.depth = 0 }
    | (none, _) => l.moveTo c

/-! ### Directives, anchors and tags -/

def isUriChar (c : Char) : Bool :=
  c.isAlphanum || "-;/?:@&=+$,_.!~*'()[]%".toList.contains c

/-- A run of escaped bytes, which must be well-formed UTF-8. -/
def uriEscapes : Nat → Cursor → Except Stop (List UInt8 × Cursor)
  | 0, c => .ok ([], c)
  | fuel + 1, c =>
    if c.peek 0 = '%' then
      let digits := (c.rest.drop 1).take 2
      if digits.length = 2 && digits.all (Text.isBaseDigit 16) then do
        let (bs, stop) ← uriEscapes fuel (c.advance 3)
        return (UInt8.ofNat (Text.digitsValue 16 digits) :: bs, stop)
      else .error .malformed
    else .ok ([], c)

def uriParts : Nat → Cursor → Except Stop (List Char × Cursor)
  | 0, c => .ok ([], c)
  | fuel + 1, c => do
    let (cs, here) := c.take fun ch => isUriChar ch && ch ≠ '%'
    if here.peek 0 = '%' then
      let (bs, after) ← uriEscapes (here.rest.length + 1) here
      match Text.decodeUtf8 bs with
      | .error _ => throw .malformed
      | .ok s =>
        let (more, stop) ← uriParts fuel after
        return (cs ++ s.toList ++ more, stop)
    else return (cs, here)

/-- The characters of a tag or of a tag directive's lead; there is at least one. -/
def readUri (c : Cursor) : Except Stop (String × Cursor) := do
  let (cs, stop) ← uriParts (c.rest.length + 1) c
  if stop.index = c.index then throw .malformed
  return (.ofList cs, stop)

/-- A tag handle: an exclamation mark, or a name between two of them. -/
def readHandle (c : Cursor) : Except Stop (String × Cursor) :=
  if c.peek 0 ≠ '!' then .error .malformed
  else if c.peek 1 = ' ' then .ok ("!", c.step)
  else
    let (name, here) := c.step.take isNameChar
    if here.peek 0 = '!' then .ok (.ofList ('!' :: name ++ ['!']), here.step) else .error .malformed

def readNat (c : Cursor) : Except Stop (Nat × Cursor) :=
  let (digits, here) := c.take Char.isDigit
  if digits.isEmpty then .error .malformed
  else if maxDigits < digits.length then
    .error (.fault (.number (.tooManyDigits (some digits.length))))
  else .ok (Text.digitsValue 10 digits, here)

def readDirective (c : Cursor) : Except Stop (Token × Cursor) := do
  let (name, here) := c.step.take isNameChar
  if name.isEmpty || !isBlankOrEnd (here.peek 0) then throw .malformed
  let skipBlank (c : Cursor) := c.skip (· = ' ')
  if name = "YAML".toList then
    let (major, here) ← readNat (skipBlank here)
    if here.peek 0 ≠ '.' then throw .malformed
    let (_, here) ← readNat here.step
    if !isBlankOrEnd (here.peek 0) then throw .malformed
    return (.yamlDirective major, ← here.restOfLine)
  else if name = "TAG".toList then
    let (handle, here) ← readHandle (skipBlank here)
    if here.peek 0 ≠ ' ' then throw .malformed
    let (lead, here) ← readUri (skipBlank here)
    if !isBlankOrEnd (here.peek 0) then throw .malformed
    return (.tagDirective handle lead, ← here.restOfLine)
  else return (.otherDirective, ← (here.skip (!isBreak ·)).restOfLine)

/-- The name of an anchor or alias, from its mark on. -/
def readName (c : Cursor) : Except Stop (String × Cursor) :=
  let (name, here) := c.step.take isNameChar
  let next := here.peek 0
  if !name.isEmpty && (isSpaceOrEnd next || next = '}' || "?:,]%@`".toList.contains next) then
    .ok (.ofList name, here)
  else .error .malformed

/-- Whether a tag has a handle of its own: another exclamation mark follows before a blank. -/
def hasHandle (cs : List Char) : Bool :=
  (cs.find? fun ch => isBlankOrEnd ch || ch = '!') = some '!'

def readTag (c : Cursor) : Except Stop (Token × Cursor) := do
  let next := c.peek 1
  let (token, here) ←
    if next = '<' then do
      let (rest, here) ← readUri (c.advance 2)
      if here.peek 0 ≠ '>' then throw .malformed
      pure (Token.tag none rest, here.step)
    else if isSpaceOrEnd next then pure (Token.tag none "!", c.step)
    else do
      let (handle, here) ← if hasHandle c.step.rest then readHandle c else pure ("!", c.step)
      let (rest, here) ← readUri here
      pure (Token.tag (some handle) rest, here)
  if isBlankOrEnd (here.peek 0) then return (token, here) else throw .malformed

/-! ### One token after another -/

/-- A mark between documents, or a directive: it closes all block collections. -/
def documentToken (l : Lexer) (t : Token) (c : Cursor) : Except Stop Lexer := do
  let l ← (l.unwind (-1)).dropPlace
  return { l.emit t with keyAllowed := false, cursor := c }

def openFlow (l : Lexer) (t : Token) : Except Stop Lexer := do
  let l ← l.savePlace
  return { l.emit t with depth := l.depth + 1, keyAllowed := true, cursor := l.cursor.step }

def closeFlow (l : Lexer) (t : Token) : Except Stop Lexer := do
  let l ← l.dropPlace
  return { l.emit t with depth := l.depth - 1, keyAllowed := false, cursor := l.cursor.step }

def flowComma (l : Lexer) : Except Stop Lexer := do
  let l ← l.dropPlace
  return { l.emit .comma with keyAllowed := true, cursor := l.cursor.step }

def blockEntry (l : Lexer) : Except Stop Lexer := do
  if l.depth = 0 && !l.keyAllowed then throw .malformed
  let l := if l.depth = 0 then l.beginBlock .blockSequence else l
  let l ← l.dropPlace
  return { l.emit .entry with keyAllowed := true, cursor := l.cursor.step }

def explicitKey (l : Lexer) : Except Stop Lexer := do
  if l.depth = 0 && !l.keyAllowed then throw .malformed
  let l := if l.depth = 0 then l.beginBlock .blockMapping else l
  let l ← l.dropPlace
  return { l.emit .key with keyAllowed := l.depth = 0, cursor := l.cursor.step }

/-- A colon: what stands at the remembered place is a key; without one, an empty key is meant. -/
def colon (l : Lexer) : Except Stop Lexer := do
  match l.place? with
  | some place =>
    let l := { l with places := l.places.filter (·.1 ≠ l.depth) }
    let (isNew, l) := if l.depth = 0 then l.indentTo place.column else (false, l)
    let l := l.putIn place.tokens (if isNew then [.blockMapping, .key] else [.key])
    return { l.emit .value with keyAllowed := false, cursor := l.cursor.step }
  | none =>
    if l.depth = 0 && !l.keyAllowed then throw .malformed
    let l := if l.depth = 0 then l.beginBlock .blockMapping else l
    let l ← { l with keyAllowed := l.depth = 0 : Lexer }.dropPlace
    return { l.emit .value with cursor := l.cursor.step }

/-- A token that may be, or begin, a key. -/
def maybeKey (l : Lexer) (read : Cursor → Except Stop (Token × Cursor)) : Except Stop Lexer := do
  let l ← l.savePlace
  let (t, c) ← read l.cursor
  return { l.emit t with keyAllowed := false, cursor := c }

def blockScalar (l : Lexer) (isFolded : Bool) : Except Stop Lexer := do
  let l ← l.dropPlace
  let (text, c) ← readBlock isFolded l.indent l.cursor
  return { l.emit (.scalar text false) with keyAllowed := true, cursor := c }

def plainScalar (l : Lexer) : Except Stop Lexer := do
  let l ← l.savePlace
  let (text, lineEnded, c) := readPlain (l.depth ≠ 0) (l.indent + 1) l.cursor
  return { l.emit (.scalar text true) with keyAllowed := lineEnded, cursor := c }

def finish (l : Lexer) : Except Stop Lexer := do
  let l ← (l.unwind (-1)).dropPlace
  return { l.emit .streamEnd with finished := true }

/-- Whether a plain scalar can begin with `c` before `next`. -/
def beginsPlain (inFlow : Bool) (c next : Char) : Bool :=
  !(isSpaceOrEnd c || c = '{' || c = '}' || "-?:,[]#&*!|>'\"%@`".toList.contains c) ||
    (!isSpaceOrEnd next && (c = '-' || (!inFlow && (c = '?' || c = ':'))))

/-- Read the next token by the character that it begins with. -/
def dispatch (l : Lexer) : Except Stop Lexer :=
  let c := l.cursor
  let ch := c.peek 0
  let next := c.peek 1
  let inFlow := l.depth ≠ 0
  if c.rest.isEmpty then l.finish
  else if ch = '%' && c.column = 0 then do
    let l ← (l.unwind (-1)).dropPlace
    let (t, after) ← readDirective c
    return { l.emit t with keyAllowed := false, cursor := after }
  else if c.column = 0 && c.atDocumentMark then
    l.documentToken (if ch = '-' then .documentStart else .documentEnd) (c.advance 3)
  else if ch = '[' then l.openFlow .flowSequence
  else if ch = '{' then l.openFlow .flowMapping
  else if ch = ']' then l.closeFlow .flowSequenceEnd
  else if ch = '}' then l.closeFlow .flowMappingEnd
  else if ch = ',' then l.flowComma
  else if ch = '-' && isSpaceOrEnd next then l.blockEntry
  else if ch = '?' && (inFlow || isSpaceOrEnd next) then l.explicitKey
  else if ch = ':' && (inFlow || isSpaceOrEnd next) then l.colon
  else if ch = '*' then l.maybeKey fun c => do let (n, c) ← readName c; return (.alias n, c)
  else if ch = '&' then l.maybeKey fun c => do let (n, c) ← readName c; return (.anchor n, c)
  else if ch = '!' then l.maybeKey readTag
  else if ch = '|' && !inFlow then l.blockScalar false
  else if ch = '>' && !inFlow then l.blockScalar true
  else if ch = '\'' then l.maybeKey fun c => do let (s, c) ← readQuoted false c; return (.scalar s false, c)
  else if ch = '"' then l.maybeKey fun c => do let (s, c) ← readQuoted true c; return (.scalar s false, c)
  else if beginsPlain inFlow ch next then l.plainScalar
  else .error .malformed

def next (l : Lexer) : Except Stop Lexer := do
  let l := l.skipToToken (l.cursor.rest.length + 1)
  let l ← l.dropStale
  (l.unwind l.cursor.column).dispatch

/-- Tokens up to the end, or those that are settled when something stops them. -/
def run : Nat → Lexer → Array Token × Option Stop
  | 0, l => (l.tokens, some .malformed)
  | fuel + 1, l =>
    if l.finished then (l.tokens, none) else
      match l.next with
      | .ok l => run fuel l
      | .error stop => (l.settled, some stop)

end Lexer

/-- The tokens of a text, and what stopped them before its end. -/
def tokens (cs : List Char) : Array Token × Option Stop :=
  let cursor := match cs with
    | '\ufeff' :: _ => (Cursor.atStart cs).step
    | _ => Cursor.atStart cs
  Lexer.run (cs.length + 2) { cursor }

end TunnelSettings.Yaml
