/-!
Lines of text. A reader of files sees one line feed for every line break of the three usual kinds;
text already in memory ends a line at any of the characters that separate lines, sections or records.
-/
namespace TunnelSettings.Text

/-- Carriage returns, alone or before a line feed, become line feeds. -/
def universalNewlines : List Char → List Char
  | [] => []
  | '\r' :: '\n' :: cs => '\n' :: universalNewlines cs
  | '\r' :: cs => '\n' :: universalNewlines cs
  | c :: cs => c :: universalNewlines cs

/-- Characters at which a line of text ends. -/
def endsLine (c : Char) : Bool :=
  (10 ≤ c.toNat && c.toNat ≤ 13) || (28 ≤ c.toNat && c.toNat ≤ 30) || c.toNat == 133 ||
    c.toNat == 8232 || c.toNat == 8233

/-- The lines of a text, given the line read so far (its last character first). -/
def linesFrom (current : List Char) : List Char → List (List Char)
  | [] => if current.isEmpty then [] else [current.reverse]
  | '\r' :: '\n' :: cs => current.reverse :: linesFrom [] cs
  | c :: cs => if endsLine c then current.reverse :: linesFrom [] cs else linesFrom (c :: current) cs

/-- The lines of a text, without their ends; a break at the very end starts no further line. -/
def lines (cs : List Char) : List (List Char) := linesFrom [] cs

end TunnelSettings.Text
