import TunnelSettings.Text.Range

/-!
Blank characters, and text cut at them. `words` splits at every run of blanks and keeps nothing
blank; `trim` drops the blanks at both ends.
-/
namespace TunnelSettings.Text

/-- White space and the four information separators. -/
def blanks : List (Nat × Nat) := [
  (9, 13), (28, 32), (133, 133), (160, 160), (5760, 5760), (8192, 8202), (8232, 8233), (8239, 8239),
  (8287, 8287), (12288, 12288)]

/-- Whether a character is blank. -/
def isBlank (c : Char) : Bool := within blanks c

/-- Drop the characters of a kind from the end. -/
def trimEnd (p : Char → Bool) (cs : List Char) : List Char :=
  (cs.reverse.dropWhile p).reverse

/-- Drop the characters of a kind from both ends. -/
def trimWith (p : Char → Bool) (cs : List Char) : List Char :=
  trimEnd p (cs.dropWhile p)

/-- A text without the blanks around it. -/
def trim (s : String) : String := .ofList (trimWith isBlank s.toList)

/-- The words of a text, given the word read so far (its last character first). -/
def wordsFrom (current : List Char) : List Char → List (List Char)
  | [] => if current.isEmpty then [] else [current.reverse]
  | c :: cs =>
    if isBlank c then
      if current.isEmpty then wordsFrom [] cs else current.reverse :: wordsFrom [] cs
    else wordsFrom (c :: current) cs

/-- The words of a text. -/
def words (cs : List Char) : List (List Char) := wordsFrom [] cs

/-- The words of a text with one blank between neighbours. -/
def unspaced (s : String) : String :=
  " ".intercalate ((words s.toList).map String.ofList)

end TunnelSettings.Text
