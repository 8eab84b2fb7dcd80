import TunnelSettings.Text.Blank
import TunnelSettings.Text.Cell

/-!
Text laid out in lines of a given width, in terminal cells. Lines are filled word by word; a word takes
the blanks behind it along. A word that is wider than a whole line is folded over several lines.
-/
namespace TunnelSettings.Display

open Text

/-- Control characters that a terminal would act upon; they are not shown. -/
def isControl (c : Char) : Bool := [7, 8, 11, 12, 13].contains c.toNat

/-- The parts of a text between line feeds. -/
def splitLines : List Char → List (List Char)
  | [] => [[]]
  | '\n' :: cs => [] :: splitLines cs
  | c :: cs =>
    match splitLines cs with
    | [] => [[c]]
    | line :: rest => (c :: line) :: rest

/-- Tabs as blanks up to the next stop, given the cells before the text. There is a stop every eight
cells. -/
def expandTabs (before : Nat) : List Char → List Char
  | [] => []
  | '\t' :: cs =>
    let stop := (before / 8 + 1) * 8
    List.replicate (stop - before) ' ' ++ expandTabs stop cs
  | c :: cs => c :: expandTabs (before + cellWidth c) cs

/-- A text cut before every word, given the characters of the part read so far (its last character
first) and whether its word has ended. -/
def partsFrom (part : List Char) (ended : Bool) : List Char → List (List Char)
  | [] => if part.isEmpty then [] else [part.reverse]
  | c :: cs =>
    if isBlank c then partsFrom (c :: part) (ended || part.any fun c => !isBlank c) cs
    else if ended then part.reverse :: partsFrom [c] false cs
    else partsFrom (c :: part) false cs

/-- The words of a text, each with the blanks behind it, the first one also with those before it. A
text of blanks alone has none. -/
def parts (cs : List Char) : List (List Char) :=
  if cs.all isBlank then [] else partsFrom [] false cs

/-- A word in pieces of at most `width` cells, given the piece so far and its width. A character that is
wider than that has a piece of its own. -/
def piecesFrom (width : Nat) (piece : List Char) (used : Nat) : List Char → List (List Char)
  | [] => [piece.reverse]
  | c :: cs =>
    if width < used + cellWidth c then piece.reverse :: piecesFrom width [c] (cellWidth c) cs
    else piecesFrom width (c :: piece) (used + cellWidth c) cs

def pieces (width : Nat) (word : List Char) : List (List Char) := piecesFrom width [] 0 word

/-- Lines that are being filled: those that are done, the last one first, and the one that is open. -/
structure Filling where
  done : List (List Char) := []
  line : List Char := []
  /-- The cells of the open line that count as used. -/
  used : Nat := 0

namespace Filling

def isStarted (f : Filling) : Bool := !f.done.isEmpty || !f.line.isEmpty

/-- Start a new line with a text; at the very start the line that is open is new. -/
def onNewLine (f : Filling) (cs : List Char) : Filling :=
  if f.isStarted then { done := f.line :: f.done, line := cs, used := cells cs }
  else { f with line := cs, used := cells cs }

def addWord (width : Nat) (f : Filling) (word : List Char) : Filling :=
  let needed := cells (trimEnd isBlank word)
  if f.used + needed ≤ width then { f with line := f.line ++ word, used := f.used + cells word }
  else if width < needed then (pieces width word).foldl onNewLine f
  else f.onNewLine word

def lines (f : Filling) : List (List Char) := (f.line :: f.done).reverse

end Filling

/-- A line without the blanks at its end by which its characters are too many, cut to the width. -/
def fitLine (width : Nat) (line : List Char) : List Char :=
  let blanks := line.length - (trimEnd isBlank line).length
  fitting width (line.take (line.length - min blanks (line.length - width)))

/-- A text without line breaks as lines of at most `width` cells. -/
def wrapLine (width : Nat) (cs : List Char) : List (List Char) :=
  let words := parts cs
  let filled := if words.isEmpty then [cs] else (words.foldl (Filling.addWord width) {}).lines
  filled.map (fitLine width)

/-- The lines of a text that is wrapped to a width. -/
def wrap (width : Nat) (cs : List Char) : List (List Char) :=
  (splitLines (cs.filter fun c => !isControl c)).flatMap fun line => wrapLine width (expandTabs 0 line)

end TunnelSettings.Display
